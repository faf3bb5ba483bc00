import Perhaps.Binary
import Perhaps.Occurrence

/-! Floating-point values as the shortest decimals that denote them, and their written form: positional
while the decimal point falls within or next to sixteen digits, with an exponent outside that range.
A coefficient never ends in a zero, so no two finite values have the same written form. -/
namespace Perhaps

structure Coefficient where
  val : Nat
  notRound : val % 10 ≠ 0
  deriving DecidableEq, Repr

namespace Coefficient

/- What `coefficient · 10 ^ exponent` is rounded to. -/
def rounded (c : Coefficient) (exponent : Int) : Binary :=
  if 0 ≤ exponent then Binary.nearest (c.val * Nat.pow 10 exponent.toNat) 1
  else Binary.nearest c.val (Nat.pow 10 (-exponent).toNat)

def isHeld (c : Coefficient) (exponent : Int) : Bool :=
  (c.rounded exponent).significand != 0 && !(c.rounded exponent).isTooGreat

end Coefficient

/- A decimal that stands for a finite double other than zero: it is rounded neither to zero nor beyond the greatest
double. -/
structure Decimal where
  coefficient : Coefficient
  exponent : Int
  held : coefficient.isHeld exponent = true
  deriving DecidableEq, Repr

/- A double-precision value; an undefined one is an object. -/
inductive Double where
  | nan (occurrence : Occurrence)
  | infinity (negative : Bool)
  | zero (negative : Bool)
  | finite (negative : Bool) (magnitude : Decimal)
  deriving DecidableEq, Repr

def decimal (n : Nat) : List Char := Nat.toDigits 10 n

def decimalValue (ds : List Char) : Nat := ds.foldl (fun n d => 10 * n + (d.toNat - 48)) 0

def isDigit (c : Char) : Bool := '0' ≤ c && c ≤ '9'

def decimalInt (n : Int) : List Char :=
  if n < 0 then '-' :: decimal n.natAbs else decimal n.natAbs

namespace Double

def positional (ds : List Char) (point : Int) : List Char :=
  if point ≤ 0 then '0' :: '.' :: List.replicate point.natAbs '0' ++ ds
  else if ds.length ≤ point.toNat then
    ds ++ List.replicate (point.toNat - ds.length) '0' ++ ['.', '0']
  else ds.take point.toNat ++ '.' :: ds.drop point.toNat

def exponentText (e : Int) : List Char :=
  let ds := decimal e.natAbs
  (if e < 0 then '-' else '+') :: (if ds.length < 2 then '0' :: ds else ds)

def scientific (ds : List Char) (point : Int) : List Char :=
  ds.take 1 ++ (if ds.length ≤ 1 then [] else '.' :: ds.drop 1) ++ 'e' :: exponentText (point - 1)

/- Positional from `0.0001` up to sixteen digits before the point. -/
def layout (ds : List Char) (point : Int) : List Char :=
  if -4 < point ∧ point ≤ 16 then positional ds point else scientific ds point

def signText (negative : Bool) : List Char := if negative then ['-'] else []

def text : Double → List Char
  | nan _ => ['n', 'a', 'n']
  | infinity s => signText s ++ ['i', 'n', 'f']
  | zero s => signText s ++ ['0', '.', '0']
  | finite s d =>
    let ds := decimal d.coefficient.val
    signText s ++ layout ds (ds.length + d.exponent)

def objects : Double → Nat
  | nan _ => 1
  | _ => 0

def numbered (n : Nat) : Double → Double
  | nan o => nan (o.numbered n)
  | x => x

theorem textNumbered (n : Nat) (x : Double) : (x.numbered n).text = x.text := by
  cases x with
  | nan o => simp only [numbered, text]
  | _ => simp only [numbered]

def ofCoefficient (negative : Bool) (c : Coefficient) (exponent : Int) : Double :=
  if held : c.isHeld exponent = true then finite negative ⟨c, exponent, held⟩
  else if (c.rounded exponent).isTooGreat then infinity negative
  else zero negative

theorem ofCoefficientHeld (negative : Bool) (d : Decimal) :
    ofCoefficient negative d.coefficient d.exponent = finite negative d := dif_pos d.held

def ofDigits (negative : Bool) (ds : List Char) (exponent : Int) : Double :=
  let kept := (ds.reverse.dropWhile (· == '0')).reverse
  let n := decimalValue kept
  if h : n % 10 ≠ 0 then ofCoefficient negative ⟨n, h⟩ (exponent + (ds.length - kept.length : Nat))
  else zero negative

def readExponent? : List Char → Option Int
  | [] => some 0
  | 'e' :: sign :: ds =>
    if ds.isEmpty || !ds.all isDigit then none
    else if sign = '-' then some (-decimalValue ds)
    else if sign = '+' then some (decimalValue ds)
    else none
  | _ => none

def readDecimal? (negative : Bool) (s : List Char) : Option Double := do
  let whole := s.takeWhile isDigit
  let rest := s.dropWhile isDigit
  let (fraction, tail) := match rest with
    | '.' :: r => (r.takeWhile isDigit, r.dropWhile isDigit)
    | _ => ([], rest)
  if whole.isEmpty then none
  else
    let e ← readExponent? tail
    some (ofDigits negative (whole ++ fraction) (e - (fraction.length : Nat)))

def readSigned? (negative : Bool) (s : List Char) : Option Double :=
  if s = ['i', 'n', 'f'] then some (infinity negative) else readDecimal? negative s

def ofText? (s : List Char) : Option Double :=
  match s with
  | ['n', 'a', 'n'] => some (nan none)
  | '-' :: r => readSigned? true r
  | r => readSigned? false r

end Double
end Perhaps
