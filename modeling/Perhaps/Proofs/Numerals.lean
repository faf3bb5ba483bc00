import Perhaps.Double

/-! Numbers as they are written. A written finite double, positional or with an exponent, is a numeral: digits,
digits behind a point, and a power of ten. Its digits are those of the coefficient up to zeros on either side,
so that reading the numeral gives the double back. -/
namespace Perhaps

theorem takenRun {p : Char → Bool} {run rest : List Char} (all : ∀ c ∈ run, p c = true)
    (stop : ∀ c ∈ rest.head?, p c = false) : (run ++ rest).takeWhile p = run := by
  rw [List.takeWhile_append_of_pos all]
  cases rest with
  | nil => simp
  | cons c rest => simp [stop c rfl]

theorem droppedRun {p : Char → Bool} {run rest : List Char} (all : ∀ c ∈ run, p c = true)
    (stop : ∀ c ∈ rest.head?, p c = false) : (run ++ rest).dropWhile p = rest := by
  rw [List.dropWhile_append_of_pos all]
  cases rest with
  | nil => simp
  | cons c rest => simp [stop c rfl]

theorem decimalDigits (n : Nat) : ∀ c ∈ decimal n, isDigit c = true := fun _ member =>
  Nat.isDigit_of_mem_toDigits (by decide) (by decide) member

theorem decimalFilled (n : Nat) : decimal n ≠ [] := Nat.toDigits_ne_nil

theorem decimalRead (n : Nat) : decimalValue (decimal n) = n := Nat.ofDigitChars_ten_toDigits

theorem decimalLast (n : Nat) : ∃ front, decimal n = front ++ [Nat.digitChar (n % 10)] := by
  rw [decimal, Nat.toDigits_eq_if (by decide)]
  split
  · next small => exact ⟨[], by rw [Nat.mod_eq_of_lt small, List.nil_append]⟩
  · exact ⟨_, rfl⟩

theorem headOfFront {front : List Char} (filled : front ≠ []) (back : List Char) :
    (front ++ back).head? = front.head? := by
  rw [List.head?_append, Option.or_of_isSome (List.isSome_head?.mpr filled)]

theorem decimalFirst (n : Nat) : n = 0 ∨ ∀ c ∈ (decimal n).head?, c ≠ '0' := by
  induction n using Nat.strongRecOn with
  | ind n ih =>
    rw [decimal, Nat.toDigits_eq_if (by decide)]
    split
    · by_cases zero : n = 0
      · exact .inl zero
      · refine .inr fun c first same => zero ?_
        rw [List.head?_cons, Option.mem_some_iff] at first
        exact Nat.digitChar_eq_zero.mp (first.trans same)
    · next large =>
      have early := (ih (n / 10) (by omega)).resolve_left (by omega)
      exact .inr (headOfFront (decimalFilled (n / 10)) _ ▸ early)

theorem zerosBefore (k : Nat) (ds : List Char) : decimalValue (List.replicate k '0' ++ ds) = decimalValue ds := by
  induction k with
  | zero => rfl
  | succ k ih => exact ih

theorem zerosAreDigits (k : Nat) : ∀ c ∈ List.replicate k '0', isDigit c = true := fun _ member =>
  List.eq_of_mem_replicate member ▸ rfl

namespace Double

structure Numeral where
  whole : List Char
  fraction : List Char
  power : Option Int

namespace Numeral

def text (m : Numeral) : List Char :=
  m.whole ++ (if m.fraction = [] then [] else '.' :: m.fraction) ++
    m.power.elim [] fun e => 'e' :: exponentText e

def value (m : Numeral) (negative : Bool) : Double :=
  ofDigits negative (m.whole ++ m.fraction) (m.power.getD 0 - m.fraction.length)

/- No zero stands before other digits, and a point or a power tells a double from a whole number. -/
structure WellFormed (m : Numeral) : Prop where
  digits : ∀ d ∈ m.whole ++ m.fraction, isDigit d = true
  filled : m.whole ≠ []
  first : m.whole = ['0'] ∨ ∀ d ∈ m.whole.head?, d ≠ '0'
  shown : m.fraction = [] → m.power.isSome = true

/- A numeral whose digits are those of a coefficient but for zeros on either side. -/
structure Pads (m : Numeral) (c : Coefficient) (before after : Nat) : Prop where
  filled : m.whole ≠ []
  first : m.whole = ['0'] ∨ ∀ d ∈ m.whole.head?, d ≠ '0'
  shown : m.fraction = [] → m.power.isSome = true
  same : m.whole ++ m.fraction = List.replicate before '0' ++ decimal c.val ++ List.replicate after '0'

variable {m : Numeral} {c : Coefficient} {before after : Nat}

theorem Pads.wellFormed (pads : m.Pads c before after) : m.WellFormed := by
  refine ⟨fun d member => ?_, pads.filled, pads.first, pads.shown⟩
  rw [pads.same, List.mem_append, List.mem_append] at member
  rcases member with (early | middle) | late
  · exact zerosAreDigits before d early
  · exact decimalDigits c.val d middle
  · exact zerosAreDigits after d late

theorem Pads.value (pads : m.Pads c before after) (negative : Bool) :
    m.value negative = ofCoefficient negative c (m.power.getD 0 - m.fraction.length + after) := by
  obtain ⟨front, digits⟩ := decimalLast c.val
  have last : Nat.digitChar (c.val % 10) ≠ '0' := fun zero => c.notRound (Nat.digitChar_eq_zero.mp zero)
  have kept : ((m.whole ++ m.fraction).reverse.dropWhile (· == '0')).reverse =
      List.replicate before '0' ++ decimal c.val := by
    rw [pads.same, List.reverse_append, List.dropWhile_append_of_pos (by simp), digits]
    simp [last]
  have read : decimalValue (List.replicate before '0' ++ decimal c.val) = c.val := by
    rw [zerosBefore, decimalRead]
  have length : (m.whole ++ m.fraction).length = (List.replicate before '0' ++ decimal c.val).length + after := by
    rw [pads.same, List.length_append, List.length_replicate]
  simp only [Numeral.value, ofDigits, kept, read, dif_pos c.notRound, length, Nat.add_sub_cancel_left]

end Numeral

theorem coefficientFirst (c : Coefficient) : ∀ d ∈ (decimal c.val).head?, d ≠ '0' :=
  (decimalFirst c.val).resolve_left fun zero => c.notRound (by rw [zero])

theorem positionalPads (c : Coefficient) (point : Int) :
    ∃ (m : Numeral) (before after : Nat), m.text = positional (decimal c.val) point ∧ m.Pads c before after ∧
      m.power.getD 0 - m.fraction.length + after = point - (decimal c.val).length := by
  have filled := decimalFilled c.val
  rw [positional]
  split
  case isTrue low =>
    refine ⟨⟨['0'], List.replicate point.natAbs '0' ++ decimal c.val, none⟩, point.natAbs + 1, 0, ?_,
      ⟨List.cons_ne_nil _ _, .inl rfl, ?_, ?_⟩, ?_⟩
    · simp [Numeral.text, filled]
    · simp [filled]
    · simp [List.replicate_succ]
    · simp only [Option.getD_none, List.length_append, List.length_replicate]
      omega
  case isFalse high =>
    split
    case isTrue short =>
      refine ⟨⟨decimal c.val ++ List.replicate (point.toNat - (decimal c.val).length) '0', ['0'], none⟩, 0,
        point.toNat - (decimal c.val).length + 1, ?_, ⟨?_, .inr ?_, ?_, ?_⟩, ?_⟩
      · simp [Numeral.text]
      · simp [filled]
      · exact headOfFront filled _ ▸ coefficientFirst c
      · simp
      · simp [List.replicate_succ']
      · simp only [Option.getD_none, List.length_singleton]
        omega
    case isFalse long =>
      have behind : (decimal c.val).drop point.toNat ≠ [] := by
        rw [Ne, List.drop_eq_nil_iff]
        omega
      refine ⟨⟨(decimal c.val).take point.toNat, (decimal c.val).drop point.toNat, none⟩, 0, 0, ?_,
        ⟨?_, .inr ?_, fun none => absurd none behind, ?_⟩, ?_⟩
      · simp [Numeral.text, behind]
      · exact fun none => (List.take_eq_nil_iff.mp none).elim (by omega) filled
      · rw [List.head?_take, if_neg (by omega)]
        exact coefficientFirst c
      · simp
      · simp only [Option.getD_none, List.length_drop]
        omega

theorem scientificPads (c : Coefficient) (point : Int) :
    ∃ m : Numeral, m.text = scientific (decimal c.val) point ∧ m.Pads c 0 0 ∧
      m.power.getD 0 - m.fraction.length = point - (decimal c.val).length := by
  have filled := List.length_pos_iff.mpr (decimalFilled c.val)
  have single : (decimal c.val).drop 1 = [] ↔ (decimal c.val).length ≤ 1 := List.drop_eq_nil_iff
  refine ⟨⟨(decimal c.val).take 1, (decimal c.val).drop 1, some (point - 1)⟩, ?_, ⟨?_, .inr ?_, fun _ => rfl, ?_⟩, ?_⟩
  · simp only [Numeral.text, scientific, single, Option.elim_some]
  · rw [Ne, List.take_eq_nil_iff, ← List.length_eq_zero_iff]
    omega
  · rw [List.head?_take, if_neg (by decide)]
    exact coefficientFirst c
  · simp only [List.take_append_drop, List.replicate_zero, List.nil_append, List.append_nil]
  · simp only [Option.getD_some, List.length_drop]
    omega

/- What is written of a finite double behind its sign is a numeral with its value. -/
theorem layoutNumeral (c : Coefficient) (e : Int) :
    ∃ m : Numeral, m.text = layout (decimal c.val) ((decimal c.val).length + e) ∧ m.WellFormed ∧
      ∀ negative, m.value negative = ofCoefficient negative c e := by
  rw [layout]
  split
  case isTrue near =>
    obtain ⟨m, before, after, text, pads, power⟩ := positionalPads c ((decimal c.val).length + e)
    refine ⟨m, text, pads.wellFormed, fun negative => ?_⟩
    rw [pads.value, power]
    congr 1
    omega
  case isFalse far =>
    obtain ⟨m, text, pads, power⟩ := scientificPads c ((decimal c.val).length + e)
    refine ⟨m, text, pads.wellFormed, fun negative => ?_⟩
    rw [pads.value, power]
    congr 1
    omega

def isSpecial : Double → Bool
  | nan _ | infinity _ => true
  | _ => false

theorem numeralOfText (x : Double) (ordinary : x.isSpecial = false) :
    ∃ (m : Numeral) (negative : Bool), x.text = signText negative ++ m.text ∧ m.WellFormed ∧
      m.value negative = x := by
  cases x with
  | nan o => contradiction
  | infinity negative => contradiction
  | zero negative =>
    refine ⟨⟨['0'], ['0'], none⟩, negative, rfl, ⟨List.all_eq_true.mp rfl, by decide, .inl rfl, by decide⟩, ?_⟩
    cases negative <;> rfl
  | finite negative d =>
    obtain ⟨m, text, wellFormed, value⟩ := layoutNumeral d.coefficient d.exponent
    exact ⟨m, negative, by rw [text]; rfl, wellFormed, (value negative).trans (ofCoefficientHeld negative d)⟩

def unnumbered : Double → Double
  | nan _ => nan none
  | x => x

theorem textUnnumbered (x : Double) : x.unnumbered.text = x.text := by cases x <;> rfl

def specialTexts : List (List Char × Double) :=
  [(['n', 'a', 'n'], nan none), (['i', 'n', 'f'], infinity false), (['-', 'i', 'n', 'f'], infinity true)]

theorem unnumberedOrdinary {x : Double} (ordinary : x.isSpecial = false) : x.unnumbered = x := by
  cases x <;> first | rfl | contradiction

theorem textForms (x : Double) : (x.text, x.unnumbered) ∈ specialTexts ∨
    ∃ (m : Numeral) (negative : Bool), x.text = signText negative ++ m.text ∧ m.WellFormed ∧
      m.value negative = x.unnumbered := by
  cases special : x.isSpecial with
  | false =>
    rw [unnumberedOrdinary special]
    exact .inr (numeralOfText x special)
  | true =>
    refine .inl ?_
    cases x with
    | nan o => exact List.mem_cons_self
    | infinity negative => cases negative <;> decide
    | zero negative => contradiction
    | finite negative d => contradiction

theorem exponentDigits (e : Int) : ∃ ds : List Char, exponentText e = (if e < 0 then '-' else '+') :: ds ∧
    ds ≠ [] ∧ (∀ c ∈ ds, isDigit c = true) ∧ decimalValue ds = e.natAbs := by
  have digits := decimalDigits e.natAbs
  rw [exponentText]
  refine ⟨_, rfl, ?_⟩
  split
  · exact ⟨List.cons_ne_nil _ _, List.forall_mem_cons.mpr ⟨rfl, digits⟩, (zerosBefore 1 _).trans (decimalRead _)⟩
  · exact ⟨decimalFilled _, digits, decimalRead _⟩

theorem exponentRead (e : Int) : readExponent? ('e' :: exponentText e) = some e := by
  obtain ⟨ds, text, filled, digits, value⟩ := exponentDigits e
  have whole : ¬(ds.isEmpty || !ds.all isDigit) = true := by simpa [filled] using digits
  by_cases negative : e < 0
  · have amount : -(e.natAbs : Int) = e := by omega
    rw [text, if_pos negative, readExponent?, if_neg whole, if_pos rfl, value, amount]
  · have amount : (e.natAbs : Int) = e := by omega
    rw [text, if_neg negative, readExponent?, if_neg whole, if_neg (by decide), if_pos rfl, value, amount]

namespace Numeral

variable {m : Numeral}

def tail (m : Numeral) : List Char := m.power.elim [] fun e => 'e' :: exponentText e

theorem tailRead {read : List Char → Option Int} (finished : read [] = some 0)
    (powers : ∀ e, read ('e' :: exponentText e) = some e) (m : Numeral) : read m.tail = some (m.power.getD 0) := by
  cases power : m.power with
  | none => simpa [tail, power] using finished
  | some e => simpa [tail, power] using powers e

theorem tailStops (m : Numeral) : ∀ c ∈ m.tail.head?, isDigit c = false := by
  intro c first
  cases power : m.power with
  | none => simp [tail, power] at first
  | some e =>
    simp only [tail, power, Option.elim_some, List.head?_cons, Option.mem_some_iff] at first
    exact first ▸ rfl

theorem WellFormed.shape (wellFormed : m.WellFormed) :
    (∃ e, m.fraction = [] ∧ m.power = some e ∧ m.text = m.whole ++ 'e' :: exponentText e) ∨
      (m.fraction ≠ [] ∧ m.text = m.whole ++ '.' :: (m.fraction ++ m.tail)) := by
  by_cases none : m.fraction = []
  · obtain ⟨e, power⟩ := Option.isSome_iff_exists.mp (wellFormed.shown none)
    exact .inl ⟨e, none, power, by simp [text, none, power]⟩
  · exact .inr ⟨none, by simp [text, tail, none]⟩

theorem WellFormed.read (wellFormed : m.WellFormed) (negative : Bool) :
    readDecimal? negative m.text = some (m.value negative) := by
  obtain ⟨whole, fraction⟩ := List.forall_mem_append.mp wellFormed.digits
  rcases wellFormed.shape with ⟨e, none, power, text⟩ | ⟨some, text⟩
  · have stop : ∀ c ∈ ('e' :: exponentText e).head?, isDigit c = false := by simp [isDigit]
    simp [readDecimal?, text, takenRun whole stop, droppedRun whole stop, exponentRead, wellFormed.filled, value, none,
      power]
  · have stop : ∀ c ∈ ('.' :: (m.fraction ++ m.tail)).head?, isDigit c = false := by simp [isDigit]
    simp [readDecimal?, text, takenRun whole stop, droppedRun whole stop, takenRun fraction m.tailStops,
      droppedRun fraction m.tailStops, m.tailRead rfl exponentRead, wellFormed.filled, value]

theorem WellFormed.startsWithDigit (wellFormed : m.WellFormed) :
    ∃ d rest, m.text = d :: rest ∧ isDigit d = true := by
  obtain ⟨d, rest, whole⟩ := List.exists_cons_of_ne_nil wellFormed.filled
  refine ⟨d, _, by rw [text, whole]; rfl, wellFormed.digits d ?_⟩
  rw [whole]
  exact List.mem_cons_self

theorem WellFormed.notWhole (wellFormed : m.WellFormed) : m.text.all isDigit = false := by
  rw [List.all_eq_false]
  rcases wellFormed.shape with ⟨e, -, -, text⟩ | ⟨-, text⟩
  · exact ⟨'e', by simp [text], by decide⟩
  · exact ⟨'.', by simp [text], by decide⟩

end Numeral

theorem textRead (x : Double) : ofText? x.text = some x.unnumbered := by
  rcases x.textForms with special | ⟨m, negative, text, wellFormed, value⟩
  · have each : ∀ p ∈ specialTexts, ofText? p.1 = some p.2 := by decide
    exact each _ special
  · obtain ⟨d, rest, start, digit⟩ := wellFormed.startsWithDigit
    have read : readSigned? negative m.text = some x.unnumbered := by
      rw [readSigned?, if_neg, wellFormed.read, value]
      rintro special
      rw [start] at special
      cases special
      contradiction
    rw [text, ← read]
    cases negative with
    | true => rfl
    | false =>
      rw [start]
      unfold ofText?
      split <;> simp_all [signText, isDigit]

end Double

def inNumber (c : Char) : Bool := isDigit c || ['-', '+', '.', 'e', 'i', 'n', 'f', 'a'].contains c

theorem digitInNumber {c : Char} (digit : isDigit c = true) : inNumber c = true := by
  rw [inNumber, digit, Bool.true_or]

theorem numberUnnamed {β : Type} {names : List (List Char × β)}
    (lettered : ∀ p ∈ names, ¬p.1.all inNumber = true) {w : List Char} (number : ∀ c ∈ w, inNumber c = true) :
    names.lookup w = none := by
  rw [List.lookup_eq_none_iff]
  intro p member
  rw [bne_iff_ne]
  rintro rfl
  exact lettered p member (List.all_eq_true.mpr number)

theorem decimalIntFilled (n : Int) : decimalInt n ≠ [] := by
  rw [decimalInt]
  split
  · exact List.cons_ne_nil _ _
  · exact decimalFilled n.natAbs

theorem decimalIntInNumber (n : Int) : ∀ c ∈ decimalInt n, inNumber c = true := by
  have digits : ∀ c ∈ decimal n.natAbs, inNumber c = true := fun c member =>
    digitInNumber (decimalDigits n.natAbs c member)
  rw [decimalInt]
  split
  · exact List.forall_mem_cons.mpr ⟨rfl, digits⟩
  · exact digits

namespace Double

theorem exponentInNumber (e : Int) : ∀ c ∈ exponentText e, inNumber c = true := by
  obtain ⟨ds, text, -, digits, -⟩ := exponentDigits e
  have sign : inNumber (if e < 0 then '-' else '+') = true := by split <;> rfl
  rw [text, List.forall_mem_cons]
  exact ⟨sign, fun c member => digitInNumber (digits c member)⟩

theorem Numeral.WellFormed.inNumber {m : Numeral} (wellFormed : m.WellFormed) :
    ∀ c ∈ m.text, inNumber c = true := by
  have digits : ∀ c ∈ m.whole ++ m.fraction, Perhaps.inNumber c = true := fun c member =>
    digitInNumber (wellFormed.digits c member)
  rw [List.forall_mem_append] at digits
  simp only [text, List.forall_mem_append]
  refine ⟨⟨digits.1, ?fraction⟩, ?power⟩
  case fraction =>
    split
    · exact fun c none => nomatch none
    · exact List.forall_mem_cons.mpr ⟨rfl, digits.2⟩
  case power =>
    cases m.power with
    | none => exact fun c none => nomatch none
    | some e => exact List.forall_mem_cons.mpr ⟨rfl, exponentInNumber e⟩

theorem textFilled (x : Double) : x.text ≠ [] := by
  rcases x.textForms with special | ⟨m, negative, text, wellFormed, -⟩
  · have each : ∀ p ∈ specialTexts, p.1 ≠ [] := by decide
    exact each _ special
  · obtain ⟨d, rest, start, -⟩ := wellFormed.startsWithDigit
    rw [text, start]
    simp

theorem textInNumber (x : Double) : ∀ c ∈ x.text, inNumber c = true := by
  rcases x.textForms with special | ⟨m, negative, text, wellFormed, -⟩
  · have each : ∀ p ∈ specialTexts, p.1.all inNumber = true := List.all_eq_true.mp rfl
    exact List.all_eq_true.mp (each _ special)
  · rw [text, List.forall_mem_append]
    refine ⟨?_, wellFormed.inNumber⟩
    cases negative <;> exact List.all_eq_true.mp rfl

end Double
end Perhaps
