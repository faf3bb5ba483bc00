import Perhaps.Cause
import Perhaps.Value.Equality

/-! Order of values. Numbers are ordered by what they amount to, text and bytes position by position,
lists and tuples by the first items that are not taken for one, and a part of a sequence comes before the
whole. No other two values are ordered, containers least of all. -/
namespace Perhaps

inductive Relation where
  | lt | le | gt | ge
  deriving DecidableEq, Repr

namespace Relation

def symbol : Relation → String
  | lt => "<"
  | le => "<="
  | gt => ">"
  | ge => ">="

def holds : Relation → Ordering → Bool
  | lt, o => o.isLT
  | le, o => o.isLE
  | gt, o => o.isGT
  | ge, o => o.isGE

end Relation

/- The order of two sequences by the first numbers that differ; a part comes before the whole. -/
def orderBySteps : List Nat → List Nat → Ordering
  | [], [] => .eq
  | [], _ :: _ => .lt
  | _ :: _, [] => .gt
  | a :: as, b :: bs => (compare a b).then (orderBySteps as bs)

def Quantity.order? : Quantity → Quantity → Option Ordering
  | undefined, _ | _, undefined => none
  | infinite s, infinite t => some (if s = t then .eq else if s then .lt else .gt)
  | infinite s, exact _ => some (if s then .lt else .gt)
  | exact _, infinite t => some (if t then .gt else .lt)
  | exact a, exact b =>
    let e := min a.exponent b.exponent
    some (compare (a.scaled e) (b.scaled e))

namespace Value

def orderedNumbers (r : Relation) (a b : Value) : Except Cause Bool :=
  match a.quantity?, b.quantity? with
  | some p, some q => .ok ((p.order? q).elim false r.holds)
  | _, _ => .error (.notOrdered r.symbol a.typeName b.typeName)

mutual

def ordered (r : Relation) : Value → Value → Except Cause Bool
  | str s, str t => .ok (r.holds (orderBySteps (s.toList.map Char.toNat) (t.toList.map Char.toNat)))
  | bytes bs, bytes cs => .ok (r.holds (orderBySteps (bs.map UInt8.toNat) (cs.map UInt8.toNat)))
  | list xs, list ys => orderedItems r xs ys
  | tuple xs, tuple ys => orderedItems r xs ys
  | a, b => orderedNumbers r a b

def orderedItems (r : Relation) : List Value → List Value → Except Cause Bool
  | x :: xs, y :: ys => if x.alike y then orderedItems r xs ys else x.ordered r y
  | [], ys => .ok (r.holds (compare 0 ys.length))
  | xs, [] => .ok (r.holds (compare xs.length 0))

end

theorem orderedContainer (r : Relation) (o : Option Value) (v : Value) :
    (ofContainer o).ordered r v = .error (.notOrdered r.symbol (ofContainer o).typeName v.typeName) := by
  cases o <;> cases v <;> simp [ofContainer, ordered, orderedNumbers, quantity?]

end Value
end Perhaps
