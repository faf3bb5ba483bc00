import Perhaps.Settings.EnvLength
import Perhaps.Settings.Reference

/-! Files of variable assignments, read line by line. A line that fits no form is skipped and reported by number.
References to variables are replaced in every value, whatever its quotes. -/
namespace Perhaps.Settings.EnvFile

open Text (isBlank)

def dropMark : List Char → List Char
  | '\ufeff' :: s => s
  | s => s

def unifyLineEnds : List Char → List Char
  | '\r' :: '\n' :: s => '\n' :: unifyLineEnds s
  | '\r' :: s => '\n' :: unifyLineEnds s
  | c :: s => c :: unifyLineEnds s
  | [] => []

/- The statements of a text that begins on a given line, each with the line on which the one before it
ended. -/
def statementsFrom (line : Nat) (s : List Char) : List (Nat × Statement) :=
  match _cut : s.dropWhile isBlank with
  | [] => []
  | c :: t =>
    (line, (readLine (c :: t)).1) ::
      statementsFrom (line + (s.count '\n' - (readLine (c :: t)).2.count '\n')) (readLine (c :: t)).2
termination_by s.length
decreasing_by
  have read := readLineShorter (List.cons_ne_nil c t)
  have drop := dropWhileNotLonger isBlank s
  rw [_cut] at drop
  omega

def statements (text : String) : List (Nat × Statement) :=
  statementsFrom 1 (unifyLineEnds (dropMark text.toList))

def Statement.binding? : Statement → Option Binding
  | .binding b => some b
  | _ => none

def bindings (text : String) : List Binding := (statements text).filterMap fun st => st.2.binding?

def malformedLines (text : String) : List Nat :=
  ((statements text).filter fun st => st.2 = .malformed).map Prod.fst

/- The variables that assignments set, each with references to those before it and to the environment. -/
def assign (environment : Fields String) : List Binding → Fields (Option (List Char))
    → Fields (Option (List Char))
  | [], known => known
  | b :: bs, known =>
    let visible := known ++ environment.map fun v => (v.1, some v.2.toList)
    assign environment bs (known.put b.name (b.value.map (expandReferences visible)))

def assigned (environment : Fields String) (text : String) : Fields (Option String) :=
  (assign environment (bindings text) []).map fun v => (v.1, v.2.map String.ofList)

end Perhaps.Settings.EnvFile
