import Perhaps.Text.Quoted

/-! Text between quotes, read back. A reader takes one character at a time, bare or behind a backslash, until the
quote; where each character reads back alone, so does the text. Quoted text and quoted bytes read back whatever
is in them. -/
namespace Perhaps.Text

def hexValue? (d : Char) : Option Nat :=
  if '0' ≤ d ∧ d ≤ '9' then some (d.toNat - 48)
  else if 'a' ≤ d ∧ d ≤ 'f' then some (d.toNat - 87)
  else if 'A' ≤ d ∧ d ≤ 'F' then some (d.toNat - 55)
  else none

def hexNumber? (ds : List Char) : Option Nat := ds.foldlM (fun n d => (hexValue? d).map fun v => 16 * n + v) 0

def readHex (width : Nat) (s : List Char) : Option (Nat × List Char) :=
  if s.length < width then none else (hexNumber? (s.take width)).map fun n => (n, s.drop width)

theorem hexDigitRead : ∀ n < 16, hexValue? (hexDigit n) = some n := by decide

theorem hexNumberRead {width n : Nat} (fits : n < Nat.pow 16 width) : hexNumber? (hex width n) = some n := by
  induction width generalizing n with
  | zero => rw [Nat.lt_one_iff.mp fits]; rfl
  | succ width ih =>
    have high : n / 16 < Nat.pow 16 width := Nat.div_lt_of_lt_mul (by rwa [Nat.mul_comm])
    have front : (hex width (n / 16)).foldlM (fun n d => (hexValue? d).map fun v => 16 * n + v) 0 = some (n / 16) :=
      ih high
    rw [hexNumber?, hex, List.foldlM_append, front]
    simp [hexDigitRead (n % 16) (Nat.mod_lt n (by decide)), Nat.div_add_mod]

theorem hexRead {width n : Nat} (fits : n < Nat.pow 16 width) (rest : List Char) :
    readHex width (hex width n ++ rest) = some (n, rest) := by
  have length : (hex width n ++ rest).length = width + rest.length := by rw [List.length_append, hexLength]
  rw [readHex, if_neg (by omega), List.take_left' (hexLength width n), List.drop_left' (hexLength width n),
    hexNumberRead fits, Option.map_some]

/- How text stands between quotes: the characters that stand bare, and what stands behind a backslash. -/
structure Quoting where
  bare : Char → Bool
  escape : List Char → Option (Char × List Char)

namespace Quoting

def readChar (q : Quoting) : List Char → Option (Char × List Char)
  | [] => none
  | c :: s => if c = '\\' then q.escape s else if q.bare c then some (c, s) else none

def readChars (q : Quoting) (quote : Char) : Nat → List Char → Option (List Char × List Char)
  | 0, _ => none
  | n + 1, s =>
    if s.head? = some quote then some ([], s.tail)
    else do
      let (c, s) ← q.readChar s
      let (cs, s) ← q.readChars quote n s
      some (c :: cs, s)

def read? (q : Quoting) (quote : Char) (s : List Char) : Option (List Char × List Char) :=
  q.readChars quote s.length s

/- A written form of a character: read back alone, and not taken for the quote. -/
structure Writes (q : Quoting) (quote : Char) (form : List Char) (c : Char) : Prop where
  read : ∀ s, q.readChar (form ++ s) = some (c, s)
  first : ∃ d s, form = d :: s ∧ d ≠ quote

variable {α : Type} {q : Quoting} {quote : Char} {form : α → List Char} {value : α → Char} {items : List α}

theorem charsRead (writes : ∀ a ∈ items, q.Writes quote (form a) (value a)) (rest : List Char) {n : Nat}
    (enough : items.length < n) :
    q.readChars quote n (items.flatMap form ++ quote :: rest) = some (items.map value, rest) := by
  induction items generalizing n with
  | nil =>
    cases n with
    | zero => contradiction
    | succ n => simp [readChars]
  | cons a items ih =>
    cases n with
    | zero => contradiction
    | succ n =>
      obtain ⟨read, d, s, start, other⟩ := writes a List.mem_cons_self
      have later := ih (fun b member => writes b (List.mem_cons_of_mem a member)) (Nat.lt_of_succ_lt_succ enough)
      have here := read (items.flatMap form ++ quote :: rest)
      rw [start, List.cons_append] at here
      simp [readChars, start, other, here, later]

theorem textRead (writes : ∀ a ∈ items, q.Writes quote (form a) (value a)) (rest : List Char) :
    q.read? quote (items.flatMap form ++ quote :: rest) = some (items.map value, rest) := by
  have longer : items.length ≤ (items.flatMap form).length := by
    induction items with
    | nil => exact Nat.zero_le _
    | cons a items ih =>
      obtain ⟨-, d, s, start, -⟩ := writes a List.mem_cons_self
      have later := ih fun b member => writes b (List.mem_cons_of_mem a member)
      simp only [List.flatMap_cons, start, List.length_append, List.length_cons]
      omega
  exact charsRead writes rest (by rw [List.length_append, List.length_cons]; omega)

end Quoting

def readCode (width : Nat) (s : List Char) : Option (Char × List Char) :=
  (readHex width s).map fun p => (Char.ofNat p.1, p.2)

def literalEscape : List Char → Option (Char × List Char)
  | 'n' :: s => some ('\n', s)
  | 'r' :: s => some ('\r', s)
  | 't' :: s => some ('\t', s)
  | 'x' :: s => readCode 2 s
  | 'u' :: s => readCode 4 s
  | 'U' :: s => readCode 8 s
  | c :: s => if c = '\\' ∨ c = '\'' ∨ c = '"' then some (c, s) else none
  | [] => none

def literalQuoting : Quoting := ⟨isPrintable, literalEscape⟩

theorem codeRead {width n : Nat} (fits : n < Nat.pow 16 width) (rest : List Char) :
    readCode width (hex width n ++ rest) = some (Char.ofNat n, rest) := by
  rw [readCode, hexRead fits, Option.map_some]

theorem quoteForCases (s : List Char) : quoteFor s = '\'' ∨ quoteFor s = '"' := by
  rw [quoteFor]
  split
  · exact .inr rfl
  · exact .inl rfl

theorem escapeCodeWrites {quote : Char} (known : quote = '\'' ∨ quote = '"') {n : Nat} (fits : n < Nat.pow 16 8) :
    literalQuoting.Writes quote (escapeCode n) (Char.ofNat n) := by
  have apart : '\\' ≠ quote := by rcases known with rfl | rfl <;> decide
  have numbered {mark : Char} {width : Nat} (marked : ∀ s, literalEscape (mark :: s) = readCode width s)
      (fits : n < Nat.pow 16 width) : literalQuoting.Writes quote ('\\' :: mark :: hex width n) (Char.ofNat n) :=
    ⟨fun s => (marked _).trans (codeRead fits s), _, _, rfl, apart⟩
  rw [escapeCode]
  split
  · next small => exact numbered (fun _ => rfl) small
  split
  · next middle => exact numbered (fun _ => rfl) middle
  · exact numbered (fun _ => rfl) fits

theorem escapeCharWrites {quote : Char} (known : quote = '\'' ∨ quote = '"') (c : Char) :
    literalQuoting.Writes quote (escapeChar quote c) c := by
  have apart : '\\' ≠ quote := by rcases known with rfl | rfl <;> decide
  rw [escapeChar]
  split
  · next own =>
    refine ⟨fun s => ?_, _, _, rfl, apart⟩
    rcases own with rfl | rfl
    · rcases known with rfl | rfl <;> rfl
    · rfl
  split
  · next line => exact line ▸ ⟨fun s => rfl, _, _, rfl, apart⟩
  split
  · next line => exact line ▸ ⟨fun s => rfl, _, _, rfl, apart⟩
  split
  · next tab => exact tab ▸ ⟨fun s => rfl, _, _, rfl, apart⟩
  split
  · next own _ _ _ bare =>
    rw [not_or] at own
    refine ⟨fun s => ?_, c, [], rfl, own.1⟩
    simp [Quoting.readChar, literalQuoting, own.2, bare]
  · have fits : c.toNat < Nat.pow 16 8 := c.val.toNat_lt
    have writes := escapeCodeWrites known fits
    rwa [Char.ofNat_toNat] at writes

theorem byteCode (b : UInt8) : (Char.ofNat b.toNat).toNat = b.toNat := by
  have valid : b.toNat.isValidChar := .inl (Nat.lt_trans b.toNat_lt (by decide))
  rw [Char.ofNat, dif_pos valid]
  rfl

theorem escapeByteCases (quote : Char) (b : UInt8) :
    escapeByte quote b = escapeChar quote (Char.ofNat b.toNat) ∨ escapeByte quote b = escapeCode b.toNat := by
  have numbered : '\\' :: 'x' :: hex 2 b.toNat = escapeCode b.toNat := by rw [escapeCode, if_pos b.toNat_lt]
  by_cases bare : 0x20 ≤ b.toNat ∧ b.toNat < 0x7f
  · have printable : isPrintable (Char.ofNat b.toNat) = true := by
      rw [isPrintable, byteCode, printableRuns, List.any_cons, Bool.or_eq_true]
      exact .inl (by simp; omega)
    exact .inl (by simp only [escapeByte, escapeChar, if_pos bare, if_pos printable])
  · rw [escapeByte, escapeChar]
    split
    · exact .inl rfl
    split
    · exact .inl rfl
    split
    · exact .inl rfl
    split
    · exact .inl rfl
    · exact .inr numbered

theorem escapeByteWrites {quote : Char} (known : quote = '\'' ∨ quote = '"') (b : UInt8) :
    literalQuoting.Writes quote (escapeByte quote b) (Char.ofNat b.toNat) := by
  rcases escapeByteCases quote b with like | numbered
  · exact like ▸ escapeCharWrites known _
  · exact numbered ▸ escapeCodeWrites known (Nat.lt_of_lt_of_le b.toNat_lt (by decide))

theorem quotedRead (s rest : List Char) :
    literalQuoting.read? (quoteFor s) (s.flatMap (escapeChar (quoteFor s)) ++ quoteFor s :: rest) =
      some (s, rest) := by
  have writes : ∀ c ∈ s, literalQuoting.Writes (quoteFor s) (escapeChar (quoteFor s) c) c := fun c _ =>
    escapeCharWrites (quoteForCases s) c
  simpa using Quoting.textRead writes rest

def bytesOf (s : List Char) : List UInt8 := s.map fun c => UInt8.ofNat c.toNat

theorem quotedBytesRead {quote : Char} (known : quote = '\'' ∨ quote = '"') (bs : List UInt8) (rest : List Char) :
    (literalQuoting.read? quote (bs.flatMap (escapeByte quote) ++ quote :: rest)).map
      (fun p => (bytesOf p.1, p.2)) = some (bs, rest) := by
  have writes : ∀ b ∈ bs, literalQuoting.Writes quote (escapeByte quote b) (Char.ofNat b.toNat) := fun b _ =>
    escapeByteWrites known b
  have kept : bytesOf (bs.map fun b => Char.ofNat b.toNat) = bs := by
    rw [bytesOf, List.map_map]
    refine List.map_id'' (fun b => ?_) bs
    rw [Function.comp_apply, byteCode, UInt8.ofNat_toNat]
  rw [Quoting.textRead writes rest, Option.map_some, kept]

end Perhaps.Text
