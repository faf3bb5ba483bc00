import Perhaps.Value.Text

/-! Numbering the objects in a value. Objects are numbered from the outside in and from left to right; one
that has a number keeps it. Numbers show where values are compared and nowhere else: the written forms
stay what they are. -/
namespace Perhaps.Value

mutual

def objects : Value → Nat
  | float x => x.objects
  | list items | tuple items => itemObjects items
  | dict entries => entryObjects entries
  | present payload _ => payload.objects + 1
  | error _ args _ => itemObjects args + 1
  | _ => 0

def itemObjects : List Value → Nat
  | [] => 0
  | v :: vs => v.objects + itemObjects vs

def entryObjects : List (Value × Value) → Nat
  | [] => 0
  | (k, v) :: es => k.objects + v.objects + entryObjects es

end

mutual

def numbered (n : Nat) : Value → Value
  | float x => float (x.numbered n)
  | list items => list (numberedItems n items)
  | tuple items => tuple (numberedItems n items)
  | dict entries => dict (numberedEntries n entries)
  | present payload o => present (payload.numbered (n + 1)) (o.numbered n)
  | error kind args o => error kind (numberedItems (n + 1) args) (o.numbered n)
  | v => v

def numberedItems (n : Nat) : List Value → List Value
  | [] => []
  | v :: vs => v.numbered n :: numberedItems (n + v.objects) vs

def numberedEntries (n : Nat) : List (Value × Value) → List (Value × Value)
  | [] => []
  | (k, v) :: es =>
    (k.numbered n, v.numbered (n + k.objects)) :: numberedEntries (n + k.objects + v.objects) es

end

mutual

theorem literalNumbered (n : Nat) : (v : Value) → (v.numbered n).literal = v.literal
  | float x => by simp [numbered, literal, x.textNumbered n]
  | list items => by simp [numbered, literal, literalsNumberedItems n items]
  | tuple items => by simp [numbered, literal, literalsNumberedItems n items]
  | dict entries => by simp [numbered, literal, entryLiteralsNumberedEntries n entries]
  | present payload _ => by simp [numbered, literal, literalNumbered (n + 1) payload]
  | error _ args _ => by simp [numbered, literal, literalsNumberedItems (n + 1) args]
  | absent | bool _ | int _ | str _ | bytes _ | empty | errorClass _ | notImplemented => by
    simp [numbered]

theorem literalsNumberedItems (n : Nat) : (vs : List Value) → literals (numberedItems n vs) = literals vs
  | [] => by simp [numberedItems]
  | v :: vs => by
    simp [numberedItems, literals, literalNumbered n v, literalsNumberedItems (n + v.objects) vs]

theorem entryLiteralsNumberedEntries (n : Nat) :
    (es : List (Value × Value)) → entryLiterals (numberedEntries n es) = entryLiterals es
  | [] => by simp [numberedEntries]
  | (k, v) :: es => by
    simp [numberedEntries, entryLiterals, literalNumbered n k, literalNumbered (n + k.objects) v,
      entryLiteralsNumberedEntries (n + k.objects + v.objects) es]

end

end Perhaps.Value
