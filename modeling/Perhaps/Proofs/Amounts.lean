import Mathlib.Data.ZMod.Basic
import Mathlib.Algebra.Order.Field.Rat
import Mathlib.Tactic.NormNum
import Perhaps.Quantity.Residue

/-! What numbers amount to. Exact amounts are rationals, and two of them are the same when the rationals are
equal, whatever their exponents. Equal amounts leave the same residue, since two is a unit for the hash modulus
and a shift of the exponent only multiplies by its powers. -/
namespace Perhaps

namespace Binary

def amount (b : Binary) : ℚ := b.significand * 2 ^ b.exponent

theorem scaledAmount (b : Binary) {e : Int} (low : e ≤ b.exponent) :
    (b.scaled e : ℚ) * 2 ^ e = b.amount := by
  have split : b.exponent = ((b.exponent - e).toNat : Int) + e := by omega
  have power : (2 : ℚ) ^ b.exponent = 2 ^ (b.exponent - e).toNat * 2 ^ e := by
    conv_lhs => rw [split]
    rw [zpow_add₀ two_ne_zero, zpow_natCast]
  rw [amount, power, scaled, ← mul_assoc]
  simp

theorem sameAmount (a b : Binary) : a.same b = true ↔ a.amount = b.amount := by
  have left := a.scaledAmount (min_le_left a.exponent b.exponent)
  have right := b.scaledAmount (min_le_right a.exponent b.exponent)
  have unit : (2 : ℚ) ^ min a.exponent b.exponent ≠ 0 := zpow_ne_zero _ two_ne_zero
  rw [same, beq_iff_eq, ← left, ← right, mul_left_inj' unit, Int.cast_inj]

theorem sameZero (b : Binary) : b.same (ofInt 0) = (b.significand == 0) := by
  have unit : (2 : ℚ) ^ b.exponent ≠ 0 := zpow_ne_zero _ two_ne_zero
  rw [Bool.eq_iff_iff, sameAmount, beq_iff_eq]
  simp [amount, ofInt, unit]

end Binary

namespace Quantity

theorem sameCases {p q : Quantity} (same : p.same q = true) :
    (∃ s, p = infinite s ∧ q = infinite s) ∨ ∃ a b, p = exact a ∧ q = exact b ∧ a.amount = b.amount := by
  cases p <;> cases q <;> try contradiction
  case infinite.infinite s t =>
    cases beq_iff_eq.mp same
    exact .inl ⟨s, rfl, rfl⟩
  case exact.exact a b => exact .inr ⟨a, b, rfl, rfl, (a.sameAmount b).mp same⟩

theorem sameExact {a b : Binary} (amounts : a.amount = b.amount) : (exact a).same (exact b) = true :=
  (a.sameAmount b).mpr amounts

theorem sameRefl {p : Quantity} (defined : p ≠ undefined) : p.same p = true := by
  cases p with
  | undefined => contradiction
  | infinite s => exact beq_self_eq_true s
  | exact a => exact sameExact rfl

theorem sameSymm {p q : Quantity} (same : p.same q = true) : q.same p = true := by
  obtain ⟨s, rfl, rfl⟩ | ⟨a, b, rfl, rfl, amounts⟩ := sameCases same
  · exact same
  · exact sameExact amounts.symm

theorem sameTrans {p q r : Quantity} (left : p.same q = true) (right : q.same r = true) : p.same r = true := by
  obtain ⟨s, rfl, rfl⟩ | ⟨a, b, rfl, rfl, amounts⟩ := sameCases left
  · exact right
  · obtain ⟨s, impossible, _⟩ | ⟨b', c, between, rfl, amounts'⟩ := sameCases right
    · contradiction
    · cases between
      exact sameExact (amounts.trans amounts')

end Quantity

theorem Double.quantityUndefined {x : Double} (undefined : x.quantity = .undefined) : ∃ o, x = .nan o := by
  cases x with
  | nan o => exact ⟨o, rfl⟩
  | _ => contradiction

theorem Double.finiteNotZero (negative : Bool) (d : Decimal) :
    (finite negative d).quantity.same (.exact (.ofInt 0)) = false := by
  have held := d.held
  simp only [Coefficient.isHeld, Bool.and_eq_true, bne_iff_ne] at held
  rw [quantity, Quantity.same, Binary.sameZero, beq_eq_false_iff_ne]
  cases negative <;> simp [held.1]

/- Two as a unit of the residues; `2 ^ 61` leaves one. -/
def radix : (ZMod hashModulus)ˣ :=
  have inverse : ((2 : Nat) : ZMod hashModulus) * (Nat.pow 2 60 : Nat) = 1 := by
    have whole : 2 * Nat.pow 2 60 = hashModulus + 1 := by decide
    rw [← Nat.cast_mul, whole, Nat.cast_succ, ZMod.natCast_self, zero_add]
  Units.mkOfMulEqOne _ _ inverse

theorem powerResidueRadix (e : Int) : (powerResidue e : ZMod hashModulus) = (radix ^ e : (ZMod hashModulus)ˣ) := by
  by_cases natural : 0 ≤ e
  · obtain ⟨n, rfl⟩ := Int.eq_ofNat_of_zero_le natural
    rw [powerResidue, if_pos natural, ZMod.natCast_mod, Int.toNat_natCast, zpow_natCast]
    exact Nat.cast_pow 2 n
  · obtain ⟨n, rfl⟩ : ∃ n : Nat, e = -n := ⟨(-e).toNat, by omega⟩
    rw [powerResidue, if_neg natural, ZMod.natCast_mod, neg_neg, Int.toNat_natCast, zpow_neg, zpow_natCast,
      ← inv_pow]
    exact Nat.cast_pow (Nat.pow 2 60) n

namespace Binary

theorem scaledSign (b : Binary) (e : Int) : (b.scaled e < 0) = (b.significand < 0) := by
  have positive : (0 : Int) < (Nat.pow 2 (b.exponent - e).toNat : Nat) := by
    exact_mod_cast Nat.pow_pos (Nat.succ_pos 1)
  refine propext ⟨?_, ?_⟩
  · intro below
    exact Int.neg_of_mul_neg_left below positive
  · intro below
    exact Int.mul_neg_of_neg_of_pos below positive

/- Moving a power of two from the exponent into the significand keeps the residue. -/
theorem residueScaled (b : Binary) {e : Int} (low : e ≤ b.exponent) : (mk (b.scaled e) e).residue = b.residue := by
  have power : (powerResidue b.exponent : ZMod hashModulus) =
      (Nat.pow 2 (b.exponent - e).toNat : Nat) * (powerResidue e : ZMod hashModulus) := by
    have split : b.exponent = ((b.exponent - e).toNat : Int) + e := by omega
    rw [powerResidueRadix, powerResidueRadix]
    conv_lhs => rw [split]
    rw [zpow_add, zpow_natCast, Units.val_mul, Units.val_pow_eq_pow_val]
    exact congrArg (· * _) (Nat.cast_pow 2 _).symm
  have magnitude : (b.scaled e).natAbs = b.significand.natAbs * Nat.pow 2 (b.exponent - e).toNat := by
    rw [scaled, Int.natAbs_mul, Int.natAbs_natCast]
  have whole : (b.scaled e).natAbs * powerResidue e % hashModulus =
      b.significand.natAbs * powerResidue b.exponent % hashModulus := by
    rw [← ZMod.natCast_eq_natCast_iff', magnitude]
    push_cast
    rw [power, mul_assoc]
  show signedResidue _ _ = signedResidue _ _
  simp only [scaledSign, whole]

theorem sameResidue {a b : Binary} (same : a.same b = true) : a.residue = b.residue := by
  rw [Binary.same, beq_iff_eq] at same
  rw [← a.residueScaled (min_le_left a.exponent b.exponent), same,
    b.residueScaled (min_le_right a.exponent b.exponent)]

theorem residueOfInt (n : Int) : (ofInt n).residue = wholeResidue n := by
  have one : powerResidue 0 = 1 := by decide
  rw [residue, ofInt, one, mul_one]
  rfl

end Binary

theorem Quantity.residueDefined {p : Quantity} (defined : p ≠ undefined) : ∃ r, p.residue? = some r := by
  cases p with
  | undefined => contradiction
  | infinite s => exact ⟨_, rfl⟩
  | exact b => exact ⟨_, rfl⟩

theorem Quantity.sameResidue {p q : Quantity} (same : p.same q = true) :
    ∃ r, p.residue? = some r ∧ q.residue? = some r := by
  cases p <;> cases q <;> try contradiction
  case infinite.infinite s t =>
    cases beq_iff_eq.mp same
    exact ⟨_, rfl, rfl⟩
  case exact.exact a b => exact ⟨a.residue, rfl, congrArg some (Binary.sameResidue same).symm⟩

structure HashRange (h : Int) : Prop where
  low : -(2 ^ 61 - 1) < h
  high : h < 2 ^ 61 - 1
  free : h ≠ -1

theorem signedResidueRange (negative : Bool) {r : Nat} (small : r < hashModulus) :
    HashRange (signedResidue negative r) := by
  have bound : r < 2 ^ 61 - 1 := small
  cases negative <;> simp only [signedResidue, Bool.false_eq_true, if_true, if_false] <;> constructor <;>
    split <;> omega

theorem Quantity.residueRange {p : Quantity} {h : Int} (residue : p.residue? = some h) : HashRange h := by
  have positive : 0 < hashModulus := by decide
  cases p with
  | undefined => contradiction
  | infinite s =>
    cases residue
    cases s <;> constructor <;> decide
  | exact b =>
    cases residue
    exact signedResidueRange _ (Nat.mod_lt _ positive)

end Perhaps
