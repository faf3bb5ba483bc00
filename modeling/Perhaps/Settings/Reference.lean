import Perhaps.Fields

/-! References to variables within a value: `${NAME}` stands for the variable's value, `${NAME:-default}`
for the default when there is no such variable. Anything else after a dollar sign is plain text. -/
namespace Perhaps.Settings

structure Reference where
  name : String
  default : Option (List Char)

def readReference : List Char → Option (Reference × Nat)
  | '\x7b' :: s =>
    let name := s.takeWhile fun c => c != '\x7d' && c != ':'
    match s.drop name.length with
    | '\x7d' :: _ => some (⟨String.ofList name, none⟩, name.length + 2)
    | ':' :: '-' :: r =>
      let default := r.takeWhile (· != '\x7d')
      match r.drop default.length with
      | '\x7d' :: _ => some (⟨String.ofList name, some default⟩, name.length + default.length + 4)
      | _ => none
    | _ => none
  | _ => none

def Reference.value (known : Fields (Option (List Char))) (r : Reference) : List Char :=
  match known.get? r.name with
  | some value => value.getD []
  | none => r.default.getD []

/- Replaces the references in a value, after leaving out some characters. -/
def expandFrom (known : Fields (Option (List Char))) : Nat → List Char → List Char
  | _, [] => []
  | skip + 1, _ :: s => expandFrom known skip s
  | 0, c :: s =>
    match if c = '$' then readReference s else none with
    | some (r, length) => r.value known ++ expandFrom known length s
    | none => c :: expandFrom known 0 s

def expandReferences (known : Fields (Option (List Char))) (s : List Char) : List Char := expandFrom known 0 s

end Perhaps.Settings
