import Perhaps.Program.Stock
import Perhaps.Fields
import Perhaps.Proofs.EscapedText
import Perhaps.Proofs.Sequences
import Perhaps.Text.Json

/-! JSON text, read back. The reader takes any JSON, with white space between its parts and any way of escaping;
of names that occur twice in an object the last counts. What is written of a value that JSON has a form for is in
printable ASCII and reads as that value. -/
namespace Perhaps

namespace Fields

variable {β : Type}

end Fields

namespace Text

def isAscii (c : Char) : Bool := 0x20 ≤ c.toNat && c.toNat < 0x7f

def readUnits (s : List Char) : Option (Char × List Char) := do
  let (n, s) ← readHex 4 s
  if n < 0xd800 ∨ 0xe000 ≤ n then some (Char.ofNat n, s)
  else
    match s with
    | '\\' :: 'u' :: s => do
      let (m, s) ← readHex 4 s
      if n < 0xdc00 ∧ 0xdc00 ≤ m ∧ m < 0xe000 then
        some (Char.ofNat (0x10000 + (n - 0xd800) * 0x400 + (m - 0xdc00)), s)
      else none
    | _ => none

def jsonEscape : List Char → Option (Char × List Char)
  | 'n' :: s => some ('\n', s)
  | 'r' :: s => some ('\r', s)
  | 't' :: s => some ('\t', s)
  | 'b' :: s => some ('\x08', s)
  | 'f' :: s => some ('\x0c', s)
  | 'u' :: s => readUnits s
  | c :: s => if c = '"' ∨ c = '\\' ∨ c = '/' then some (c, s) else none
  | [] => none

def jsonQuoting : Quoting := ⟨fun c => 0x20 ≤ c.toNat, jsonEscape⟩

theorem unitRead {n : Nat} (basic : n < 0xd800 ∨ 0xe000 ≤ n) (fits : n < 0x10000) (s : List Char) :
    readUnits (hex 4 n ++ s) = some (Char.ofNat n, s) := by
  have read : readHex 4 (hex 4 n ++ s) = some (n, s) := hexRead fits s
  simp [readUnits, read, basic]

theorem pairRead {n : Nat} (fits : n < 0x100000) (s : List Char) :
    readUnits (hex 4 (0xd800 + n / 0x400) ++ escapeUnit (0xdc00 + n % 0x400) ++ s) =
      some (Char.ofNat (0x10000 + n), s) := by
  have high : 0xd800 + n / 0x400 < 0xdc00 := by omega
  have low : 0xdc00 + n % 0x400 < 0xe000 := by omega
  have first : readHex 4 (hex 4 (0xd800 + n / 0x400) ++ (escapeUnit (0xdc00 + n % 0x400) ++ s)) =
      some (0xd800 + n / 0x400, escapeUnit (0xdc00 + n % 0x400) ++ s) :=
    hexRead (Nat.lt_trans high (by decide)) _
  have second : readHex 4 (hex 4 (0xdc00 + n % 0x400) ++ s) = some (0xdc00 + n % 0x400, s) :=
    hexRead (Nat.lt_trans low (by decide)) s
  have surrogate : ¬ (0xd800 + n / 0x400 < 0xd800 ∨ 0xe000 ≤ 0xd800 + n / 0x400) := by omega
  have whole : 0x10000 + n / 0x400 * 0x400 + n % 0x400 = 0x10000 + n := by omega
  rw [List.append_assoc, readUnits, first]
  simp only [Option.bind_eq_bind, Option.bind_some, if_neg surrogate, escapeUnit, List.cons_append, second]
  rw [if_pos ⟨high, Nat.le_add_right _ _, low⟩, Nat.add_sub_cancel_left, Nat.add_sub_cancel_left, whole]

theorem escapeJsonCharWrites (c : Char) : jsonQuoting.Writes '"' (escapeJsonChar c) c := by
  have apart : '\\' ≠ '"' := by decide
  rw [escapeJsonChar]
  iterate 7
    split
    · next own =>
      subst own
      exact ⟨fun s => rfl, _, _, rfl, apart⟩
  split
  · next quote slash _ _ _ _ _ bare =>
    refine ⟨fun s => ?_, c, [], rfl, quote⟩
    simp [Quoting.readChar, jsonQuoting, slash, bare]
  have valid : c.toNat < 0xd800 ∨ (0xdfff < c.toNat ∧ c.toNat < 0x110000) := c.valid
  split
  · next basic =>
    refine ⟨fun s => ?_, _, _, rfl, apart⟩
    have read := unitRead (by omega) basic s
    rwa [Char.ofNat_toNat] at read
  · next beyond =>
    refine ⟨fun s => ?_, _, _, rfl, apart⟩
    have read := pairRead (n := c.toNat - 0x10000) (by omega) s
    rw [Nat.add_sub_cancel' (by omega), Char.ofNat_toNat] at read
    exact read

theorem hexAscii (width n : Nat) : ∀ d ∈ hex width n, isAscii d = true := by
  have digits : ∀ m < 16, isAscii (hexDigit m) = true := by decide
  induction width generalizing n with
  | zero => exact fun d none => nomatch none
  | succ width ih =>
    rw [hex, List.forall_mem_append]
    exact ⟨ih (n / 16), fun d last => List.mem_singleton.mp last ▸ digits _ (Nat.mod_lt n (by decide))⟩

theorem escapeUnitAscii (n : Nat) : ∀ d ∈ escapeUnit n, isAscii d = true :=
  List.forall_mem_cons.mpr ⟨rfl, List.forall_mem_cons.mpr ⟨rfl, hexAscii 4 n⟩⟩

theorem escapeJsonCharAscii (c : Char) : ∀ d ∈ escapeJsonChar c, isAscii d = true := by
  rw [escapeJsonChar]
  iterate 7
    split
    · exact List.all_eq_true.mp rfl
  split
  · next bare => exact List.forall_mem_singleton.mpr (by simpa [isAscii] using bare)
  split
  · exact escapeUnitAscii _
  · exact List.forall_mem_append.mpr ⟨escapeUnitAscii _, escapeUnitAscii _⟩

theorem jsonStringAscii (s : List Char) : ∀ d ∈ jsonString s, isAscii d = true := by
  rw [jsonString, List.forall_mem_append, List.forall_mem_cons, List.forall_mem_singleton]
  refine ⟨⟨rfl, fun d member => ?_⟩, rfl⟩
  obtain ⟨c, -, within⟩ := List.mem_flatMap.mp member
  exact escapeJsonCharAscii c d within

theorem jsonStringRead (s rest : List Char) :
    jsonQuoting.read? '"' (s.flatMap escapeJsonChar ++ '"' :: rest) = some (s, rest) := by
  simpa using Quoting.textRead (fun c (_ : c ∈ s) => escapeJsonCharWrites c) rest

end Text

namespace Value

def jsonNames : List (List Char × Value) :=
  [(word "null", absent), (word "true", bool true), (word "false", bool false)]

def jsonPower? : List Char → Option Int
  | [] => some 0
  | e :: s => if e = 'e' ∨ e = 'E' then (Program.readInt? s).map Prod.fst else none

def jsonUnsigned? (negative : Bool) (s : List Char) : Option Value :=
  let whole := s.takeWhile isDigit
  if whole = [] ∨ (whole.head? = some '0' ∧ whole ≠ ['0']) then none
  else
    match s.dropWhile isDigit with
    | [] => some (int (if negative then -decimalValue whole else decimalValue whole))
    | '.' :: r =>
      let fraction := r.takeWhile isDigit
      if fraction = [] then none
      else (jsonPower? (r.dropWhile isDigit)).map fun e =>
        float (Double.ofDigits negative (whole ++ fraction) (e - fraction.length))
    | tail => (jsonPower? tail).map fun e => float (Double.ofDigits negative whole e)

def jsonNumber? : List Char → Option Value
  | '-' :: s => jsonUnsigned? true s
  | s => jsonUnsigned? false s

def ofJsonWord? (w : List Char) : Option Value :=
  match jsonNames.lookup w with
  | some v => some v
  | none => jsonNumber? w

def readMember (item : List Char → Option (Value × List Char)) : List Char → Option ((String × Value) × List Char)
  | '"' :: s => do
    let (name, s) ← Text.jsonQuoting.read? '"' s
    match Text.skip s with
    | ':' :: s => do
      let (v, s) ← item (Text.skip s)
      some ((String.ofList name, v), s)
    | _ => none
  | _ => none

def ofFields (fs : Fields Value) : Value := dict (fs.map fun f => (str f.1, f.2))

def readJson : Nat → List Char → Option (Value × List Char)
  | 0, _ => none
  | _ + 1, [] => none
  | n + 1, c :: s =>
    if c = '[' then (Text.readSequence false ']' (readJson n) s).map fun p => (list p.1, p.2)
    else if c = '\x7b' then
      (Text.readSequence false '\x7d' (readMember (readJson n)) s).map fun p => (ofFields (.ofAssignments p.1), p.2)
    else if c = '"' then (Text.jsonQuoting.read? c s).map fun p => (str (String.ofList p.1), p.2)
    else
      let w := (c :: s).takeWhile fun d => !Text.isBreak d
      (ofJsonWord? w).map fun v => (v, (c :: s).dropWhile fun d => !Text.isBreak d)

/- The values that JSON has a form for and that can be written. -/
inductive Json : Value → Prop where
  | null : Json absent
  | bool (b : Bool) : Json (bool b)
  | whole (n : Int) (short : (int n).isTooLong = false) : Json (int n)
  | number (x : Double) (ordinary : x.isSpecial = false) : Json (float x)
  | text (s : String) : Json (str s)
  | array (items : List Value) (each : ∀ v ∈ items, Json v) : Json (list items)
  | object (fields : Fields Value) (each : ∀ f ∈ fields, Json f.2) (distinct : (fields.map Prod.fst).Nodup) :
    Json (ofFields fields)

/- What is written of a value in JSON: printable ASCII that reads as the value wherever a break follows. -/
structure JsonForm (v : Value) (text : List Char) : Prop where
  written : v.json = .ok text
  ascii : ∀ c ∈ text, Text.isAscii c = true
  first : ∃ c s, text = c :: s ∧ Text.opens c = true
  read : ∀ n, text.length ≤ n → ∀ rest, Text.Breaks rest → readJson n (text ++ rest) = some (v, rest)

variable {v : Value} {text : List Char} {n : Nat}

theorem JsonForm.reads (form : JsonForm v text) (enough : text.length ≤ n) : Text.Reads (readJson n) text v :=
  ⟨form.read n enough, form.first⟩

/- A form may be checked with the fuel that its first character leaves. -/
theorem JsonForm.ofCons {c : Char} {s : List Char} (written : v.json = .ok (c :: s))
    (ascii : ∀ d ∈ c :: s, Text.isAscii d = true) (opens : Text.opens c = true)
    (read : ∀ n, s.length ≤ n → ∀ rest, Text.Breaks rest → readJson (n + 1) (c :: (s ++ rest)) = some (v, rest)) :
    JsonForm v (c :: s) := by
  refine ⟨written, ascii, ⟨c, s, rfl, opens⟩, fun n enough rest breaks => ?_⟩
  cases n with
  | zero => contradiction
  | succ n => exact read n (Nat.le_of_succ_le_succ enough) rest breaks

theorem textForms (s : String) : JsonForm (str s) (Text.jsonString s.toList) := by
  refine .ofCons (by rw [json]; rfl) (Text.jsonStringAscii s.toList) rfl fun n _ rest _ => ?_
  have read := Text.jsonStringRead s.toList rest
  simp [readJson, read]

end Value
end Perhaps
