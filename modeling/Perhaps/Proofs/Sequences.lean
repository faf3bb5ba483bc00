import Perhaps.Proofs.Numerals
import Perhaps.Value.Text

/-! Items between brackets, read back. A reader of items that stops where an item ends reads a sequence of them,
with commas between and with or without a comma at the end. What can follow an item is a break: a comma, a
colon, a bracket, a blank, or the end of the text. -/
namespace Perhaps.Text

def spaces : List Char := [' ', '\t', '\n', '\r']

def closers : List Char := [']', ')', '\x7d']

def breaks : List Char := [',', ':', '[', '(', '\x7b'] ++ closers ++ spaces

def isBreak (c : Char) : Bool := breaks.contains c

def isSpace (c : Char) : Bool := spaces.contains c

def opens (c : Char) : Bool := !isSpace c && !closers.contains c

def Breaks (rest : List Char) : Prop := ∀ c ∈ rest.head?, isBreak c = true

def skip (s : List Char) : List Char := s.dropWhile isSpace

variable {α β : Type}

/- Items up to a closing bracket; `trailing` lets a comma stand behind the last. -/
def readItems (trailing : Bool) (close : Char) (item : List Char → Option (β × List Char)) :
    Nat → List Char → Option (List β × List Char)
  | 0, _ => none
  | n + 1, s => do
    let (x, s) ← item s
    match skip s with
    | [] => none
    | c :: s =>
      if c = close then some ([x], s)
      else if c ≠ ',' then none
      else if trailing ∧ (skip s).head? = some close then some ([x], (skip s).tail)
      else do
        let (xs, s) ← readItems trailing close item n (skip s)
        some (x :: xs, s)

def readSequence (trailing : Bool) (close : Char) (item : List Char → Option (β × List Char)) (s : List Char) :
    Option (List β × List Char) :=
  if (skip s).head? = some close then some ([], (skip s).tail)
  else readItems trailing close item s.length (skip s)

theorem skipSolid {c : Char} (solid : isSpace c = false) (s : List Char) : skip (c :: s) = c :: s :=
  List.dropWhile_cons_of_neg (by rw [solid]; decide)

theorem breaksCons {c : Char} (stops : isBreak c = true) (s : List Char) : Breaks (c :: s) := fun _ first =>
  Option.mem_some_iff.mp first ▸ stops

theorem breaksEnd : Breaks [] := fun _ first => nomatch first

theorem wordRun {w rest : List Char} (solid : ∀ c ∈ w, isBreak c = false) (breaks : Breaks rest) :
    (w ++ rest).takeWhile (fun c => !isBreak c) = w ∧ (w ++ rest).dropWhile (fun c => !isBreak c) = rest := by
  have all : ∀ c ∈ w, (!isBreak c) = true := fun c member => by rw [solid c member]; rfl
  have stop : ∀ c ∈ rest.head?, (!isBreak c) = false := fun c member => by rw [breaks c member]; rfl
  exact ⟨takenRun all stop, droppedRun all stop⟩

theorem opensSolid {c : Char} (opens : opens c = true) : isSpace c = false := by
  rw [Text.opens, Bool.and_eq_true, Bool.not_eq_true'] at opens
  exact opens.1

theorem opensOther {c close : Char} (opens : opens c = true) (closing : close ∈ closers) : c ≠ close := by
  rintro rfl
  simp [Text.opens, closing] at opens

theorem opensOfSolid {c : Char} (solid : isBreak c = false) : opens c = true := by
  have apart : c ∉ closers ∧ c ∉ spaces := by simp_all [isBreak, breaks]
  simp [opens, isSpace, apart]

theorem numberSolid {c : Char} (number : inNumber c = true) : isBreak c = false := by
  have foreign : ∀ d ∈ breaks, ¬inNumber d = true := List.any_eq_false.mp rfl
  cases among : isBreak c with
  | false => rfl
  | true => exact absurd number (foreign c (List.contains_iff_mem.mp among))

theorem closerBreaks {close : Char} (closing : close ∈ closers) : isBreak close = true := by
  simp [isBreak, breaks, closing]

theorem closerSolid {close : Char} (closing : close ∈ closers) : isSpace close = false :=
  eq_false_of_ne_true (List.any_eq_false.mp rfl close closing)

/- A written form that reads as a value wherever a break follows, and that cannot be taken for a bracket. -/
structure Reads (item : List Char → Option (β × List Char)) (form : List Char) (value : β) : Prop where
  read : ∀ rest, Breaks rest → item (form ++ rest) = some (value, rest)
  first : ∃ c s, form = c :: s ∧ opens c = true

theorem commaSeparatedFirst {p : List Char} (ps : List (List Char)) {c : Char} {s : List Char} (start : p = c :: s) :
    ∃ t, commaSeparated (p :: ps) = c :: t := by
  subst start
  cases ps with
  | nil => exact ⟨s, rfl⟩
  | cons q ps => exact ⟨_, rfl⟩

theorem separatorsCount (p : List Char) (ps : List (List Char)) : ps.length ≤ (commaSeparated (p :: ps)).length := by
  induction ps generalizing p with
  | nil => exact Nat.zero_le _
  | cons q ps ih =>
    have later := ih q
    simp only [commaSeparated, List.length_append, List.length_cons] at later ⊢
    omega

theorem commaSeparatedLength {p : List Char} {ps : List (List Char)} (member : p ∈ ps) :
    p.length ≤ (commaSeparated ps).length := by
  induction ps with
  | nil => contradiction
  | cons q ps ih =>
    cases ps with
    | nil => rw [List.mem_singleton.mp member]; exact Nat.le_refl _
    | cons r ps =>
      simp only [commaSeparated, List.length_append, List.length_cons] at ih ⊢
      rcases List.mem_cons.mp member with rfl | later
      · omega
      · have shorter := ih later
        omega

theorem parenthesizedFirst (ps : List (List Char)) : ∃ s, parenthesized ps = '(' :: s :=
  match ps with
  | [] | [_] | _ :: _ :: _ => ⟨_, rfl⟩

theorem parenthesizedLength (ps : List (List Char)) : (commaSeparated ps).length < (parenthesized ps).length :=
  match ps with
  | [] => by decide
  | [p] => by simp only [parenthesized, commaSeparated, List.length_append, List.length_cons]; omega
  | p :: q :: ps => by simp only [parenthesized, List.length_append, List.length_cons]; omega

variable {trailing : Bool} {close : Char} {item : List Char → Option (β × List Char)} {form : α → List Char}
  {value : α → β}

theorem itemsRead (closing : close ∈ closers) {x : α} {xs : List α}
    (reads : ∀ y ∈ x :: xs, Reads item (form y) (value y)) (rest : List Char) {n : Nat} (enough : xs.length ≤ n) :
    readItems trailing close item (n + 1) (commaSeparated ((x :: xs).map form) ++ close :: rest) =
      some ((x :: xs).map value, rest) := by
  have noComma : ',' ≠ close := by
    rintro rfl
    exact absurd closing (by decide)
  induction xs generalizing x n with
  | nil =>
    have here := (reads x List.mem_cons_self).read (close :: rest) (breaksCons (closerBreaks closing) rest)
    simp [readItems, commaSeparated, here, skipSolid (closerSolid closing)]
  | cons y xs ih =>
    cases n with
    | zero => contradiction
    | succ n =>
      have later := ih (fun z member => reads z (List.mem_cons_of_mem x member)) (Nat.le_of_succ_le_succ enough)
      -- What is left behind the comma starts with the next item, so no blank and no bracket is skipped in it.
      obtain ⟨d, s, start, opens⟩ := (reads y (List.mem_cons_of_mem x List.mem_cons_self)).first
      obtain ⟨t, ahead⟩ := commaSeparatedFirst (xs.map form) start
      rw [List.map_cons, ahead, List.cons_append] at later
      have here := (reads x List.mem_cons_self).read (',' :: ' ' :: d :: (t ++ close :: rest)) (breaksCons rfl _)
      have comma : skip (',' :: ' ' :: d :: (t ++ close :: rest)) = ',' :: ' ' :: d :: (t ++ close :: rest) :=
        skipSolid rfl _
      have blank : skip (' ' :: d :: (t ++ close :: rest)) = d :: (t ++ close :: rest) :=
        skipSolid (opensSolid opens) _
      have text : commaSeparated ((x :: y :: xs).map form) ++ close :: rest =
          form x ++ ',' :: ' ' :: d :: (t ++ close :: rest) := by
        simp only [List.map_cons, commaSeparated, ahead, List.append_assoc, List.cons_append]
      rw [text, readItems, here]
      simp [comma, noComma, blank, opensOther opens closing, later]

theorem sequenceRead (closing : close ∈ closers) {xs : List α}
    (reads : ∀ x ∈ xs, Reads item (form x) (value x)) (rest : List Char) :
    readSequence trailing close item (commaSeparated (xs.map form) ++ close :: rest) =
      some (xs.map value, rest) := by
  cases xs with
  | nil => simp [readSequence, commaSeparated, skipSolid (closerSolid closing)]
  | cons x xs =>
    obtain ⟨d, s, start, opens⟩ := (reads x List.mem_cons_self).first
    obtain ⟨t, ahead⟩ := commaSeparatedFirst (xs.map form) start
    have blank : skip (commaSeparated ((x :: xs).map form) ++ close :: rest) =
        commaSeparated ((x :: xs).map form) ++ close :: rest := by
      rw [List.map_cons, ahead, List.cons_append, skipSolid (opensSolid opens)]
    have more : (skip (commaSeparated ((x :: xs).map form) ++ close :: rest)).head? ≠ some close := by
      rw [blank, List.map_cons, ahead]
      simpa using opensOther opens closing
    have enough : xs.length ≤ (commaSeparated ((x :: xs).map form) ++ rest).length := by
      have separators := separatorsCount (form x) (xs.map form)
      rw [List.length_map] at separators
      exact Nat.le_trans separators (by simp)
    have length : (commaSeparated ((x :: xs).map form) ++ close :: rest).length =
        (commaSeparated ((x :: xs).map form) ++ rest).length + 1 := by simp [Nat.add_assoc]
    rw [readSequence, if_neg more, blank, length]
    exact itemsRead closing reads rest enough

theorem parenthesizedRead {xs : List α} (reads : ∀ x ∈ xs, Reads item (form x) (value x)) (rest : List Char) :
    ∃ s, parenthesized (xs.map form) ++ rest = '(' :: s ∧
      readSequence true ')' item s = some (xs.map value, rest) := by
  have closing : ')' ∈ closers := by decide
  match xs with
  | [] =>
    have read : readSequence true ')' item (commaSeparated ([].map form) ++ ')' :: rest) =
        some ([].map value, rest) := sequenceRead closing reads rest
    exact ⟨_, rfl, read⟩
  | [x] =>
    obtain ⟨read, c, s, start, opens⟩ := reads x List.mem_cons_self
    have here := read (',' :: ')' :: rest) (breaksCons rfl _)
    refine ⟨form x ++ ',' :: ')' :: rest, by simp [parenthesized], ?_⟩
    rw [start, List.cons_append] at here ⊢
    have comma : skip (',' :: ')' :: rest) = ',' :: ')' :: rest := skipSolid rfl _
    have closed : skip (')' :: rest) = ')' :: rest := skipSolid rfl _
    simp [readSequence, skipSolid (opensSolid opens), opensOther opens closing, readItems, here, comma, closed]
  | x :: y :: xs =>
    refine ⟨commaSeparated ((x :: y :: xs).map form) ++ ')' :: rest, ?_, sequenceRead closing reads rest⟩
    simp [parenthesized]

end Perhaps.Text
