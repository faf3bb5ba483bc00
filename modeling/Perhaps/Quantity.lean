import Perhaps.Double

/-! What a number amounts to: a whole number times a power of two, an infinity, or nothing. A double amounts to what
its decimal is rounded to. Numbers of different types are compared by what they amount to. -/
namespace Perhaps

inductive Quantity where
  | undefined
  | infinite (negative : Bool)
  | exact (value : Binary)
  deriving DecidableEq, Repr

namespace Quantity

def same : Quantity → Quantity → Bool
  | infinite s, infinite t => s == t
  | exact a, exact b => a.same b
  | _, _ => false

end Quantity

namespace Double

def quantity : Double → Quantity
  | nan _ => .undefined
  | infinity s => .infinite s
  | zero _ => .exact ⟨0, 0⟩
  | finite s d =>
    let b := d.coefficient.rounded d.exponent
    .exact ⟨if s then -b.significand else b.significand, b.exponent⟩

end Double
end Perhaps
