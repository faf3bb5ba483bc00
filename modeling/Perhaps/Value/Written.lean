import Perhaps.Cause

/-! Values that can be written. Whole numbers beyond a limit of digits have no written form, and nothing that
holds one has; asking for the form is an error. -/
namespace Perhaps.Value

mutual

def isTooLong : Value → Bool
  | int n => Nat.pow 10 digitLimit ≤ n.natAbs
  | list items | tuple items => anyTooLong items
  | dict entries => anyEntryTooLong entries
  | present payload _ => payload.isTooLong
  | error _ args _ => anyTooLong args
  | _ => false

def anyTooLong : List Value → Bool
  | [] => false
  | v :: vs => v.isTooLong || anyTooLong vs

def anyEntryTooLong : List (Value × Value) → Bool
  | [] => false
  | (k, v) :: es => k.isTooLong || v.isTooLong || anyEntryTooLong es

end

def writable (v : Value) : Except Cause Value :=
  if v.isTooLong then .error (.tooManyDigits none) else .ok v

def written {α : Type} (form : Value → α) (v : Value) : Except Cause α := v.writable.map form

theorem writtenIf {α : Type} (form : Value → α) (v : Value) :
    v.written form = if v.isTooLong then .error (.tooManyDigits none) else .ok (form v) := by
  unfold written writable
  split <;> rfl

theorem writtenShort {α : Type} (form : Value → α) {v : Value} (short : v.isTooLong = false) :
    v.written form = .ok (form v) := by
  rw [writtenIf, short, if_neg Bool.false_ne_true]

theorem overlongNumber {n : Nat} (long : Nat.pow 10 digitLimit ≤ n) : (int n).isTooLong = true := by
  rw [isTooLong, Int.natAbs_natCast]
  exact decide_eq_true long

end Perhaps.Value
