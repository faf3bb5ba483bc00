import Perhaps.Quantity

/-! Hashes of numbers: residues modulo the prime `2 ^ 61 - 1` with the number's sign, such that equal
numbers of different types have equal hashes. The residue `-1` is given away to `-2`. -/
namespace Perhaps

def hashModulus : Nat := Nat.pow 2 61 - 1

def signedResidue (negative : Bool) (r : Nat) : Int :=
  let h : Int := if negative then -r else r
  if h = -1 then -2 else h

def wholeResidue (n : Int) : Int := signedResidue (n < 0) (n.natAbs % hashModulus)

/- A power of two modulo the hash modulus; `2 ^ 60` is the inverse of two there. -/
def powerResidue (e : Int) : Nat :=
  if 0 ≤ e then Nat.pow 2 e.toNat % hashModulus
  else Nat.pow (Nat.pow 2 60) (-e).toNat % hashModulus

def Binary.residue (b : Binary) : Int :=
  signedResidue (b.significand < 0) (b.significand.natAbs * powerResidue b.exponent % hashModulus)

def Quantity.residue? : Quantity → Option Int
  | .undefined => none
  | .infinite s => some (if s then -314159 else 314159)
  | .exact b => some b.residue

end Perhaps
