import Perhaps.Value

/-! Equality of values. Numbers are equal when they amount to the same, whatever their types; sequences
item by item; dictionaries entry by entry in any order; containers when both are empty or both
present with equal payloads. A container equals nothing that is not a container, and an error nothing
but itself.

Within collections a value is also found where it is the same object, so a collection with an undefined
number in it equals itself although the number does not. -/
namespace Perhaps.Value

def sameQuantity (a b : Value) : Bool :=
  match a.quantity?, b.quantity? with
  | some p, some q => p.same q
  | _, _ => false

/- Whether two values are one object of a kind that equality cannot always tell: an error, an undefined
number, or a container that holds one. -/
def identical : Value → Value → Bool
  | float (.nan o), float (.nan p) => o.same p
  | error _ _ o, error _ _ p => o.same p
  | present a o, present b p => o.same p && a.identical b
  | _, _ => false

mutual

def same : Value → Value → Bool
  | absent, absent => true
  | str s, str t => s == t
  | bytes bs, bytes cs => bs == cs
  | list xs, list ys => sameItems xs ys
  | tuple xs, tuple ys => sameItems xs ys
  | dict es, dict fs => es.length == fs.length && entriesIn es fs
  | empty, empty => true
  | present a _, present b _ => a.same b
  | error _ _ o, error _ _ p => o.same p
  | errorClass k, errorClass l => k == l
  | notImplemented, notImplemented => true
  | a, b => sameQuantity a b

def sameItems : List Value → List Value → Bool
  | [], [] => true
  | x :: xs, y :: ys => (x.identical y || x.same y) && sameItems xs ys
  | _, _ => false

def entriesIn : List (Value × Value) → List (Value × Value) → Bool
  | [], _ => true
  | (k, v) :: es, fs =>
    fs.any (fun f => (k.identical f.1 || k.same f.1) && (v.identical f.2 || v.same f.2)) && entriesIn es fs

end

def alike (a b : Value) : Bool := a.identical b || a.same b

theorem sameItemsCons (x y : Value) (xs ys : List Value) :
    sameItems (x :: xs) (y :: ys) = (x.alike y && sameItems xs ys) := by
  simp [sameItems, alike]

theorem entriesInCons (k v : Value) (es fs : List (Value × Value)) :
    entriesIn ((k, v) :: es) fs = (fs.any (fun f => k.alike f.1 && v.alike f.2) && entriesIn es fs) := by
  simp [entriesIn, alike]

def containerEquals (o : Option Value) (v : Value) : Option Bool :=
  match o, v.container? with
  | _, none => none
  | none, some none => some true
  | some a, some (some b) => some (a.same b)
  | _, some _ => some false

/- Whether the comparison of a value that is no container speaks of another value. It does so within
its own type; whole numbers and truth values know each other, and a double knows them both. An error
knows itself alone. -/
def knows : Value → Value → Bool
  | absent, absent | notImplemented, notImplemented => true
  | bool _, bool _ | bool _, int _ | int _, bool _ | int _, int _ => true
  | float _, v => v.quantity?.isSome
  | str _, str _ | bytes _, bytes _ | list _, list _ | tuple _, tuple _ | dict _, dict _ => true
  | error _ _ o, error _ _ p => o.same p
  | _, _ => false

def ownEquals (subject other : Value) : Option Bool :=
  match subject.container? with
  | some o => containerEquals o other
  | none => if subject.knows other then some (subject.same other) else none

def entry? (entries : List (Value × Value)) (key : Value) : Option Value :=
  (entries.find? fun e => e.1.alike key).map Prod.snd

/- A dictionary with a key's value replaced where the key stands, or the entry added at the end. -/
def insertEntry (key value : Value) : List (Value × Value) → List (Value × Value)
  | [] => [(key, value)]
  | (k, v) :: es => if k.alike key then (k, value) :: es else (k, v) :: insertEntry key value es

end Perhaps.Value
