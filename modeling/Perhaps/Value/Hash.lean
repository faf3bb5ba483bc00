import Perhaps.Cause
import Perhaps.Quantity.Residue
import Perhaps.Value.Equality

/-! Hashing. A number hashes to its residue, the empty container to zero, and a container to the hash of
its payload; what other values hash to is one class of its own. Lists and dictionaries have no hash,
nor has anything that rests on one. Equal values have equal hashes, so a table that is searched by
hash and then by equality keeps one of each. -/
namespace Perhaps

inductive HashCode where
  | number (n : Int)
  | other
  deriving DecidableEq, Repr

namespace Value

mutual

def hashCode : Value → Except String HashCode
  | bool b => .ok (.number (wholeResidue b.toNat))
  | int n => .ok (.number (wholeResidue n))
  | float x => .ok (match x.quantity.residue? with
    | some r => .number r
    | none => .other)
  | list _ => .error "list"
  | dict _ => .error "dict"
  | tuple items => hashItems items
  | empty => .ok (.number 0)
  | present payload _ => payload.hashCode
  | _ => .ok .other

/- A sequence has a hash if all its items have one; the first that has none is to blame. -/
def hashItems : List Value → Except String HashCode
  | [] => .ok .other
  | v :: vs =>
    match v.hashCode with
    | .error t => .error t
    | .ok _ => hashItems vs

end

def hashCode? (v : Value) : Except Fault HashCode := v.hashCode.mapError fun t => (Cause.unhashable t).fault

/- Distinct values filed under their hashes, in order of arrival within a hash and overall. -/
structure HashTable where
  filed : List (HashCode × Value)

namespace HashTable

def holds (t : HashTable) (h : HashCode) (v : Value) : Bool :=
  t.filed.any fun f => f.1 == h && f.2.alike v

def insert (t : HashTable) (h : HashCode) (v : Value) : HashTable :=
  if t.holds h v then t else ⟨t.filed ++ [(h, v)]⟩

def values (t : HashTable) : List Value := t.filed.map Prod.snd

def insertAll (t : HashTable) : List Value → Except Fault HashTable
  | [] => .ok t
  | v :: vs =>
    match v.hashCode? with
    | .error e => .error e
    | .ok h => (t.insert h v).insertAll vs

end HashTable

def distinct (vs : List Value) : Except Fault (List Value) :=
  (HashTable.insertAll ⟨[]⟩ vs).map HashTable.values

end Value
end Perhaps
