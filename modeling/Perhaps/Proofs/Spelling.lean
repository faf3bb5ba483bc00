import Mathlib.Data.List.Chain
import Mathlib.Data.List.Forall2
import Mathlib.Data.List.TakeWhile
import Perhaps.Text.Blank
import Perhaps.Text.UpperCase

/-! Spellings of names in capital letters. Besides its small form two capitals have a further character that
upper-casing turns into them, and the characters that it expands give either something that is no capital or
two capitals in a row that no such name has. Stripping and upper-casing do not disturb each other. -/
namespace Perhaps.Text

/- The characters that upper-casing turns into a capital letter. -/
inductive Spells (letter : Char) : Char → Prop where
  | capital : Spells letter letter
  | small : Spells letter letter.toLower
  | dotless (i : letter = 'I') : Spells letter '\u0131'
  | long (s : letter = 'S') : Spells letter '\u017f'

def ligatures : List (Char × Char) := [('S', 'S'), ('F', 'F'), ('F', 'I'), ('F', 'L'), ('S', 'T')]

structure Plain (name : List Char) : Prop where
  capitals : ∀ letter ∈ name, letter.isUpper = true
  apart : name.IsChain fun a b => (a, b) ∉ ligatures

theorem Plain.tail {letter : Char} {name : List Char} (plain : Plain (letter :: name)) : Plain name :=
  ⟨fun other member => plain.capitals other (List.mem_cons_of_mem letter member), plain.apart.tail⟩

theorem capitalCode {c : Char} (capital : c.isUpper = true) : 65 ≤ c.toNat ∧ c.toNat ≤ 90 := by
  have within : 65 ≤ c.val ∧ c.val ≤ 90 := of_decide_eq_true capital
  exact ⟨UInt32.le_iff_toNat_le.mp within.1, UInt32.le_iff_toNat_le.mp within.2⟩

theorem smallCode {c : Char} (small : c.isLower = true) : 97 ≤ c.toNat ∧ c.toNat ≤ 122 := by
  have within : (decide (97 ≤ c.val) && decide (c.val ≤ 122)) = true := small
  rw [Bool.and_eq_true, decide_eq_true_eq, decide_eq_true_eq] at within
  exact ⟨UInt32.le_iff_toNat_le.mp within.1, UInt32.le_iff_toNat_le.mp within.2⟩

def settledCodes : List Nat := 0x131 :: 0x17f :: blankCodes

theorem upperCodesCases (n : Nat) : (n, upperCodes n) ∈ caseExpansions ∨
    (∃ r ∈ caseRuns, r.covers n = true ∧ upperCodes n = [((n : Int) + r.shift).toNat]) ∨ upperCodes n = [n] := by
  unfold upperCodes
  cases expanded : caseExpansions.lookup n with
  | some codes =>
    obtain ⟨before, after, split, _⟩ := List.lookup_eq_some_iff.mp expanded
    exact .inl (by simp [split])
  | none =>
    cases found : caseRuns.find? (·.covers n) with
    | some r =>
      have covers : r.covers n = true := by simpa using List.find?_some found
      exact .inr (.inl ⟨r, List.mem_of_find?_eq_some found, covers, rfl⟩)
    | none => exact .inr (.inr rfl)

namespace CaseRun

theorem coversWithin {r : CaseRun} {n : Nat} (covers : r.covers n = true) : r.first ≤ n ∧ n ≤ r.last := by
  simp only [CaseRun.covers, Bool.and_eq_true, decide_eq_true_eq] at covers
  exact covers.1

def reaches (r : CaseRun) (code : Nat) : Bool := r.covers ((code : Int) - r.shift).toNat

theorem coversReaches {r : CaseRun} {n code : Nat} (covers : r.covers n = true) (positive : 0 < code)
    (same : ((n : Int) + r.shift).toNat = code) : r.reaches code = true := by
  have back : ((code : Int) - r.shift).toNat = n := by omega
  rwa [reaches, back]

/- The tables are checked entry by entry, which leaves the kernel with lists of booleans. -/
theorem unsettled {r : CaseRun} (run : r ∈ caseRuns) {code : Nat} (settled : code ∈ settledCodes) :
    r.reaches code = false := by
  have table : caseRuns.all (fun r => settledCodes.all fun code => !r.reaches code) = true := by decide +kernel
  simpa using List.all_eq_true.mp (List.all_eq_true.mp table r run) code settled

theorem lowOrHigh {r : CaseRun} (run : r ∈ caseRuns) : r.last < 128 ∨ 128 ≤ (r.first : Int) + r.shift ∨
    r = ⟨0x131, 0x131, 1, -232⟩ ∨ r = ⟨0x17f, 0x17f, 1, -300⟩ := by
  have table : caseRuns.all (fun r => r.last < 128 || 128 ≤ (r.first : Int) + r.shift ||
      r == ⟨0x131, 0x131, 1, -232⟩ || r == ⟨0x17f, 0x17f, 1, -300⟩) = true := by decide +kernel
  simpa [or_assoc] using List.all_eq_true.mp table r run

end CaseRun

structure Expands (codes : List Nat) : Prop where
  long : 2 ≤ codes.length
  unsettled : ∀ code ∈ codes, code ∉ settledCodes
  low : ∀ code ∈ codes, code < 128 → 65 ≤ code ∧ code ≤ 90
  foreign : (∃ d ∈ codes.map Char.ofNat, d.isUpper = false) ∨
    ∃ pair ∈ ligatures, [pair.1, pair.2] <+: codes.map Char.ofNat

theorem expansionExpands {n : Nat} {codes : List Nat} (entry : (n, codes) ∈ caseExpansions) : Expands codes := by
  have long : caseExpansions.all (fun e => 2 ≤ e.2.length) = true := by decide +kernel
  have unsettled : caseExpansions.all (fun e => e.2.all fun code => !settledCodes.contains code) = true := by
    decide +kernel
  have low : caseExpansions.all (fun e => e.2.all fun code => 128 ≤ code || 65 ≤ code && code ≤ 90) = true := by
    decide +kernel
  have foreign : caseExpansions.all (fun e => (e.2.map Char.ofNat).any (fun d => !d.isUpper) ||
      ligatures.any fun pair => [pair.1, pair.2].isPrefixOf (e.2.map Char.ofNat)) = true := by decide +kernel
  refine ⟨?long, ?unsettled, ?low, ?foreign⟩
  case long => simpa using List.all_eq_true.mp long _ entry
  case unsettled =>
    intro code member
    simpa using List.all_eq_true.mp (List.all_eq_true.mp unsettled _ entry) code member
  case low =>
    intro code member below
    have given := List.all_eq_true.mp (List.all_eq_true.mp low _ entry) code member
    simp only [Bool.or_eq_true, Bool.and_eq_true, decide_eq_true_eq] at given
    omega
  case foreign =>
    have given := List.all_eq_true.mp foreign _ entry
    simpa only [Bool.or_eq_true, List.any_eq_true, Bool.not_eq_true', List.isPrefixOf_iff_prefix] using given

theorem runIntoAscii {r : CaseRun} {n : Nat} (run : r ∈ caseRuns) (covers : r.covers n = true) (high : 128 ≤ n)
    (low : ((n : Int) + r.shift).toNat < 128) :
    (n = 0x131 ∧ ((n : Int) + r.shift).toNat = 73) ∨ (n = 0x17f ∧ ((n : Int) + r.shift).toNat = 83) := by
  have within := CaseRun.coversWithin covers
  rcases CaseRun.lowOrHigh run with last | first | rfl | rfl
  · omega
  · omega
  · exact .inl (by simp only at within ⊢; omega)
  · exact .inr (by simp only at within ⊢; omega)

theorem codeSettled {n code : Nat} (reached : code ∈ upperCodes n) (settled : code ∈ settledCodes) : code = n := by
  rcases upperCodesCases n with expanded | ⟨r, run, covers, same⟩ | same
  · exact absurd settled ((expansionExpands expanded).unsettled code reached)
  · rw [same, List.mem_singleton] at reached
    have positive : 0 < code := by
      have none : 0 ∉ settledCodes := by decide
      exact Nat.pos_of_ne_zero fun zero => none (zero ▸ settled)
    have reaches := CaseRun.coversReaches covers positive reached.symm
    rw [CaseRun.unsettled run settled] at reaches
    contradiction
  · rwa [same, List.mem_singleton] at reached

theorem codeIntoAscii {n code : Nat} (reached : code ∈ upperCodes n) (high : 128 ≤ n) (low : code < 128) :
    65 ≤ code ∧ code ≤ 90 := by
  rcases upperCodesCases n with expanded | ⟨r, run, covers, same⟩ | same
  · exact (expansionExpands expanded).low code reached low
  · rw [same, List.mem_singleton] at reached
    have ends := runIntoAscii run covers high (reached ▸ low)
    omega
  · rw [same, List.mem_singleton] at reached
    omega

theorem upperHigh {c : Char} (high : ¬ c.toNat < 128) : upperChar c = (upperCodes c.toNat).map Char.ofNat := by
  rw [upperChar, if_neg high]

theorem upperHighCode {c d : Char} (high : ¬ c.toNat < 128) (member : d ∈ upperChar c) (given : d.toNat ≠ 0) :
    d.toNat ∈ upperCodes c.toNat := by
  rw [upperHigh high] at member
  obtain ⟨code, reached, rfl⟩ := List.mem_map.mp member
  by_cases valid : code.isValidChar
  · have same : (Char.ofNat code).toNat = code := by rw [Char.ofNat, dif_pos valid]; rfl
    rwa [same]
  · have zero : (Char.ofNat code).toNat = 0 := by rw [Char.ofNat, dif_neg valid]; rfl
    exact absurd zero given

theorem asciiUpper {c : Char} (low : c.toNat < 128) : c.toUpper.isLower = false ∧
    (c.toUpper = c ∨ c.toUpper.isUpper = true ∧ c.toUpper.toLower = c) := by
  have table : ∀ n < 128, (Char.ofNat n).toUpper.isLower = false ∧ ((Char.ofNat n).toUpper = Char.ofNat n ∨
      (Char.ofNat n).toUpper.isUpper = true ∧ (Char.ofNat n).toUpper.toLower = Char.ofNat n) := by decide +kernel
  simpa only [Char.ofNat_toNat] using table c.toNat low

theorem capitalCased {letter : Char} (capital : letter.isUpper = true) : letter.toUpper = letter ∧
    letter.toLower.isLower = true ∧ letter.toLower.toUpper = letter := by
  have table : ∀ n < 91, 65 ≤ n → (Char.ofNat n).toUpper = Char.ofNat n ∧ (Char.ofNat n).toLower.isLower = true ∧
      (Char.ofNat n).toLower.toUpper = Char.ofNat n := by decide +kernel
  have code := capitalCode capital
  simpa only [Char.ofNat_toNat] using table letter.toNat (by omega) code.1

theorem asciiSpelled {c : Char} (low : c.toNat < 128) : Spells c.toUpper c := by
  rcases (asciiUpper low).2 with same | ⟨-, small⟩
  · rw [same]
    exact .capital
  · have spells : Spells c.toUpper c.toUpper.toLower := .small
    rwa [small] at spells

theorem highSpelled {letter c : Char} (capital : letter.isUpper = true) (high : ¬ c.toNat < 128)
    (same : upperChar c = [letter]) : Spells letter c := by
  have code := capitalCode capital
  have single : (upperCodes c.toNat).map Char.ofNat = [letter] := by rw [← upperHigh high, same]
  have reached : letter.toNat ∈ upperCodes c.toNat :=
    upperHighCode high (by simp [same]) (by omega)
  rcases upperCodesCases c.toNat with expanded | ⟨r, run, covers, codes⟩ | codes
  · have long := (expansionExpands expanded).long
    have short := congrArg List.length single
    simp only [List.length_map, List.length_singleton] at short
    omega
  · rw [codes, List.mem_singleton] at reached
    rcases runIntoAscii run covers (by omega) (by omega) with ⟨from', to'⟩ | ⟨from', to'⟩
    · obtain rfl : c = '\u0131' := Char.toNat_inj.mp from'
      exact .dotless (Char.toNat_inj.mp (reached.trans to'))
    · obtain rfl : c = '\u017f' := Char.toNat_inj.mp from'
      exact .long (Char.toNat_inj.mp (reached.trans to'))
  · rw [codes, List.mem_singleton] at reached
    omega

theorem letterSpelled {letter c : Char} (capital : letter.isUpper = true) :
    upperChar c = [letter] ↔ Spells letter c := by
  constructor
  · intro same
    by_cases low : c.toNat < 128
    · rw [upperChar, if_pos low, List.singleton_inj] at same
      exact same ▸ asciiSpelled low
    · exact highSpelled capital low same
  · intro spells
    have code := capitalCode capital
    obtain ⟨kept, lower, back⟩ := capitalCased capital
    cases spells with
    | capital => rw [upperChar, if_pos (by omega), kept]
    | small =>
      have ascii := smallCode lower
      rw [upperChar, if_pos (by omega), back]
    | dotless i => subst i; decide +kernel
    | long s => subst s; decide +kernel

theorem upperCharCases (c : Char) : (∃ d, upperChar c = [d]) ∨ (∃ d ∈ upperChar c, d.isUpper = false) ∨
    ∃ pair ∈ ligatures, [pair.1, pair.2] <+: upperChar c := by
  by_cases low : c.toNat < 128
  · exact .inl ⟨c.toUpper, by rw [upperChar, if_pos low]⟩
  · rw [upperHigh low]
    rcases upperCodesCases c.toNat with expanded | ⟨r, _, _, codes⟩ | codes
    · exact .inr (expansionExpands expanded).foreign
    · exact .inl ⟨_, by rw [codes]; rfl⟩
    · exact .inl ⟨_, by rw [codes]; rfl⟩

/- By the characters of the text: each takes one letter off the name, since nothing else fits a plain name. -/
theorem upperSpelled {name text : List Char} (plain : Plain name) (same : upper text = name) :
    List.Forall₂ Spells name text := by
  induction text generalizing name with
  | nil => subst same; exact .nil
  | cons c text ih =>
    rw [upperCons] at same
    rcases upperCharCases c with ⟨d, single⟩ | ⟨d, member, foreign⟩ | ⟨⟨a, b⟩, ligature, rest, starts⟩
    · rw [single, List.singleton_append] at same
      subst same
      have capital := plain.capitals d List.mem_cons_self
      exact .cons ((letterSpelled capital).mp single) (ih plain.tail rfl)
    · have capital := plain.capitals d (same ▸ List.mem_append_left _ member)
      rw [foreign] at capital
      contradiction
    · subst same
      have apart := plain.apart
      rw [← starts] at apart
      exact absurd ligature (List.isChain_cons_cons.mp apart).1

theorem spelledUpper {name text : List Char} (capitals : ∀ letter ∈ name, letter.isUpper = true)
    (spelled : List.Forall₂ Spells name text) : upper text = name := by
  induction spelled with
  | nil => rfl
  | cons spells rest ih =>
    have first := (letterSpelled (capitals _ List.mem_cons_self)).mpr spells
    rw [upperCons, first, ih fun letter member => capitals letter (List.mem_cons_of_mem _ member),
      List.singleton_append]

theorem upperIffSpelled {name text : List Char} (plain : Plain name) :
    upper text = name ↔ List.Forall₂ Spells name text :=
  ⟨upperSpelled plain, spelledUpper plain.capitals⟩

theorem capitalUnsettled {code : Nat} (settled : code ∈ settledCodes) : code < 65 ∨ 90 < code := by
  have table : settledCodes.all (fun code => code < 65 || 90 < code) = true := by decide +kernel
  simpa using List.all_eq_true.mp table code settled

theorem upperSettled {c d : Char} (member : d ∈ upperChar c) (settled : d.toNat ∈ settledCodes) : d = c := by
  have apart := capitalUnsettled settled
  by_cases low : c.toNat < 128
  · rw [upperChar, if_pos low, List.mem_singleton] at member
    rcases (asciiUpper low).2 with same | ⟨turned, -⟩
    · rw [member, same]
    · have capital := capitalCode turned
      rw [← member] at capital
      omega
  · have given : d.toNat ≠ 0 := fun zero => absurd (zero ▸ settled) (by decide)
    exact Char.toNat_inj.mp (codeSettled (upperHighCode low member given) settled)

theorem spellsSettled {letter c d : Char} (capital : letter.isUpper = true) (member : d ∈ upperChar c)
    (spells : Spells letter d) : d = letter := by
  have turned := (letterSpelled capital).mpr spells
  cases spells with
  | capital => rfl
  | small =>
    have small := (capitalCased capital).2.1
    by_cases low : c.toNat < 128
    · rw [upperChar, if_pos low, List.mem_singleton] at member
      rw [member, (asciiUpper low).1] at small
      contradiction
    · have code := smallCode small
      have reached := upperHighCode low member (by omega)
      have ends := codeIntoAscii reached (by omega) (by omega)
      omega
  | dotless own | long own =>
    have same := upperSettled member (by decide)
    subst same
    rw [turned, List.mem_singleton] at member
    exact member

theorem spelledBySelf {name text : List Char} (capitals : ∀ letter ∈ name, letter.isUpper = true)
    (settled : ∀ d ∈ text, ∃ c, d ∈ upperChar c) (spelled : List.Forall₂ Spells name text) : text = name := by
  induction spelled with
  | nil => rfl
  | @cons letter d name text spells _ ih =>
    obtain ⟨c, member⟩ := settled d List.mem_cons_self
    have first := spellsSettled (capitals letter List.mem_cons_self) member spells
    have rest := ih (fun other member => capitals other (List.mem_cons_of_mem letter member))
      fun other member => settled other (List.mem_cons_of_mem d member)
    rw [first, rest]

theorem upperOnceMore {name text : List Char} (plain : Plain name) :
    upper (upper text) = name ↔ upper text = name := by
  constructor
  · intro twice
    refine spelledBySelf plain.capitals ?_ (upperSpelled plain twice)
    intro d member
    obtain ⟨c, _, inside⟩ := List.mem_flatMap.mp member
    exact ⟨c, inside⟩
  · intro once
    rw [once]
    exact spelledUpper plain.capitals (List.forall₂_same.mpr fun _ _ => .capital)

theorem blankUpper {c : Char} (blank : isBlank c = true) : upperChar c = [c] := by
  have table : blankCodes.all (fun n => upperChar (Char.ofNat n) == [Char.ofNat n]) = true := by decide +kernel
  have kept := List.all_eq_true.mp table c.toNat (by simpa [isBlank] using blank)
  simpa only [Char.ofNat_toNat, beq_iff_eq] using kept

theorem blankSettled {c : Char} (blank : isBlank c = true) : c.toNat ∈ settledCodes := by
  have code : c.toNat ∈ blankCodes := by simpa [isBlank] using blank
  exact List.mem_cons_of_mem _ (List.mem_cons_of_mem _ code)

theorem solidUpper {c : Char} (solid : isBlank c = false) :
    upperChar c ≠ [] ∧ ∀ d ∈ upperChar c, isBlank d = false := by
  constructor
  · by_cases low : c.toNat < 128
    · simp [upperChar, low]
    · rw [upperHigh low]
      rcases upperCodesCases c.toNat with expanded | ⟨r, _, _, codes⟩ | codes
      · have long := (expansionExpands expanded).long
        intro empty
        simp only [List.map_eq_nil_iff] at empty
        simp [empty] at long
      · simp [codes]
      · simp [codes]
  · intro d member
    by_contra blank
    rw [Bool.not_eq_false] at blank
    rw [upperSettled member (blankSettled blank), solid] at blank
    contradiction

theorem spelledSolid {letter c : Char} (capital : letter.isUpper = true) (spells : Spells letter c) :
    isBlank c = false := by
  have turned := (letterSpelled capital).mpr spells
  by_contra blank
  rw [Bool.not_eq_false] at blank
  rw [blankUpper blank, List.singleton_inj] at turned
  subst turned
  have code := capitalCode capital
  have apart := capitalUnsettled (blankSettled blank)
  omega

theorem spelledTextSolid {name text : List Char} (capitals : ∀ letter ∈ name, letter.isUpper = true)
    (spelled : List.Forall₂ Spells name text) : ∀ c ∈ text, isBlank c = false := by
  induction spelled with
  | nil => simp
  | cons spells _ ih =>
    intro c member
    rcases List.mem_cons.mp member with rfl | later
    · exact spelledSolid (capitals _ List.mem_cons_self) spells
    · exact ih (fun letter inside => capitals letter (List.mem_cons_of_mem _ inside)) c later

theorem dropWhileTurned {f : Char → List Char} (kept : ∀ c, isBlank c = true → f c = [c])
    (turned : ∀ c, isBlank c = false → f c ≠ [] ∧ ∀ d ∈ f c, isBlank d = false) (s : List Char) :
    (s.flatMap f).dropWhile isBlank = (s.dropWhile isBlank).flatMap f := by
  induction s with
  | nil => rfl
  | cons c s ih =>
    cases blank : isBlank c with
    | true =>
      rw [List.flatMap_cons, kept c blank, List.singleton_append, List.dropWhile_cons_of_pos blank,
        List.dropWhile_cons_of_pos blank, ih]
    | false =>
      rw [List.dropWhile_cons_of_neg (by simp [blank]), List.flatMap_cons]
      obtain ⟨given, solid⟩ := turned c blank
      cases first : f c with
      | nil => exact absurd first given
      | cons d ds =>
        have stays : isBlank d = false := solid d (by simp [first])
        rw [List.cons_append, List.dropWhile_cons_of_neg (by simp [stays])]

theorem stripUpper (s : List Char) : strip (upper s) = upper (strip s) := by
  have front := dropWhileTurned (f := upperChar) (fun _ => blankUpper) (fun _ => solidUpper)
  have back := dropWhileTurned (f := List.reverse ∘ upperChar)
    (fun c blank => by simp [blankUpper blank])
    (fun c solid => by simpa using solidUpper solid)
  simp only [strip, stripEnd, upper]
  rw [front, List.reverse_flatMap, back, List.reverse_flatMap]
  simp [Function.comp_def]

theorem stripEndPadded (s : List Char) {after : List Char} (blank : ∀ c ∈ after, isBlank c = true) :
    stripEnd (s ++ after) = stripEnd s := by
  rw [stripEnd, stripEnd, List.reverse_append,
    List.dropWhile_append_of_pos fun c member => blank c (List.mem_reverse.mp member)]

theorem stripPadded (s : List Char) {before after : List Char} (front : ∀ c ∈ before, isBlank c = true)
    (back : ∀ c ∈ after, isBlank c = true) : strip (before ++ s ++ after) = strip s := by
  rw [strip, List.append_assoc, List.dropWhile_append_of_pos front, List.dropWhile_append]
  split
  · next empty =>
    rw [strip, List.isEmpty_iff.mp empty, List.dropWhile_eq_nil_iff.mpr back]
  · exact stripEndPadded _ back

theorem stripEndSplit (s : List Char) : ∃ after, s = stripEnd s ++ after ∧ ∀ c ∈ after, isBlank c = true := by
  refine ⟨(s.reverse.takeWhile isBlank).reverse, ?_, ?_⟩
  · rw [stripEnd, ← List.reverse_append, List.takeWhile_append_dropWhile, List.reverse_reverse]
  · intro c member
    exact List.mem_takeWhile_imp (List.mem_reverse.mp member)

theorem stripSplit (s : List Char) : ∃ before after, s = before ++ strip s ++ after ∧
    (∀ c ∈ before, isBlank c = true) ∧ ∀ c ∈ after, isBlank c = true := by
  obtain ⟨after, split, back⟩ := stripEndSplit (s.dropWhile isBlank)
  refine ⟨s.takeWhile isBlank, after, ?_, fun c member => List.mem_takeWhile_imp member, back⟩
  rw [strip, List.append_assoc, ← split, List.takeWhile_append_dropWhile]

theorem stripSolid {s : List Char} (solid : ∀ c ∈ s, isBlank c = false) : strip s = s := by
  have kept {t : List Char} (solid : ∀ c ∈ t, isBlank c = false) : t.dropWhile isBlank = t := by
    cases t with
    | nil => rfl
    | cons c t => exact List.dropWhile_cons_of_neg (by simp [solid c])
  rw [strip, stripEnd, kept solid, kept fun c member => solid c (List.mem_reverse.mp member), List.reverse_reverse]

end Perhaps.Text
