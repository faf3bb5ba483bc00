/-! Whole numbers times powers of two, compared whatever their exponents, and the rounding of quotients to a
significand of 53 bits, a tie going to the even significand. -/
namespace Perhaps

structure Binary where
  significand : Int
  exponent : Int
  deriving DecidableEq, Repr

namespace Binary

def scaled (b : Binary) (e : Int) : Int := b.significand * Nat.pow 2 (b.exponent - e).toNat

def same (a b : Binary) : Bool :=
  a.scaled (min a.exponent b.exponent) == b.scaled (min a.exponent b.exponent)

def ofInt (n : Int) : Binary := ⟨n, 0⟩

/- The whole number nearest to a quotient; a half goes to the even one. -/
def roundHalfEven (num den : Nat) : Nat :=
  let q := num / den
  let r := num % den
  if 2 * r < den then q
  else if 2 * r = den then q + q % 2
  else q + 1

def roundAt (num den : Nat) (e : Int) : Nat :=
  if 0 ≤ e then roundHalfEven num (den * Nat.pow 2 e.toNat)
  else roundHalfEven (num * Nat.pow 2 (-e).toNat) den

def reaches (num den : Nat) (e : Int) : Bool :=
  if 0 ≤ e then den * Nat.pow 2 e.toNat ≤ num else den ≤ num * Nat.pow 2 (-e).toNat

/- The exponent that gives a quotient a significand of 53 bits, no smaller than that of the least double. -/
def exponentFor (num den : Nat) : Int :=
  let e := (num.log2 : Int) - den.log2 - 53
  max (if reaches num den (e + 53) then e + 1 else e) (-1074)

def nearest (num den : Nat) : Binary :=
  ⟨roundAt num den (exponentFor num den), exponentFor num den⟩

/- Beyond the greatest double. -/
def isTooGreat (b : Binary) : Bool :=
  971 < b.exponent || (b.exponent = 971 && Nat.pow 2 53 ≤ b.significand)

end Binary
end Perhaps
