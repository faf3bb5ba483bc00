import Perhaps.Program.Evaluation
import Perhaps.Proofs.EqualityLaws
import Perhaps.Proofs.EscapedText
import Perhaps.Proofs.Numerals
import Perhaps.Proofs.Sequences

/-! Literal forms, read back. The first character tells a list, a tuple, a dictionary, text, bytes and a class from
each other and from words, and a word tells its own length, so the form of a value without errors in it reads as
the value, up to the numbers of its objects. So no two such values share a form, however their text reads. -/
namespace Perhaps

namespace ErrorKind

def all : List ErrorKind :=
  ContainerError.all.map .container ++ .frozenInstance :: StandardError.all.map .standard

theorem standardListed (kind : StandardError) : kind ∈ StandardError.all := by cases kind <;> decide +kernel

theorem listed (kind : ErrorKind) : kind ∈ all := by
  cases kind with
  | standard kind =>
    exact List.mem_append_right _ (List.mem_cons_of_mem _ (List.mem_map_of_mem (standardListed kind)))
  | container kind => cases kind <;> decide
  | frozenInstance => decide

def qualifiedName (kind : ErrorKind) : List Char := kind.qualifier.toList ++ kind.name.toList

def ofQualifiedName? (s : List Char) : Option ErrorKind := all.find? fun kind => kind.qualifiedName == s

theorem qualifiedNameRead (kind : ErrorKind) : ofQualifiedName? kind.qualifiedName = some kind := by
  have each : all.all (fun kind => ofQualifiedName? kind.qualifiedName == some kind) = true := by decide +kernel
  exact beq_iff_eq.mp (List.all_eq_true.mp each kind (listed kind))

theorem qualifiedNameUnquoted (kind : ErrorKind) : ∀ c ∈ kind.qualifiedName, (c != '\'') = true := by
  have each : all.all (fun kind => kind.qualifiedName.all (· != '\'')) = true := by decide +kernel
  exact List.all_eq_true.mp (List.all_eq_true.mp each kind (listed kind))

end ErrorKind

open Text (literalQuoting bytesOf readSequence isBreak opens Breaks Reads)

namespace Value

def noError : Value → Bool
  | error .. => false
  | _ => true

mutual

/- A value without the numbers of its objects, which are not written. -/
def unnumbered : Value → Value
  | float x => float x.unnumbered
  | list items => list (unnumberedItems items)
  | tuple items => tuple (unnumberedItems items)
  | dict entries => dict (unnumberedEntries entries)
  | present payload _ => present payload.unnumbered none
  | error kind args _ => error kind (unnumberedItems args) none
  | v => v

def unnumberedItems : List Value → List Value
  | [] => []
  | v :: vs => v.unnumbered :: unnumberedItems vs

def unnumberedEntries : List (Value × Value) → List (Value × Value)
  | [] => []
  | (k, v) :: es => (k.unnumbered, v.unnumbered) :: unnumberedEntries es

end

theorem unnumberedItemsMap (vs : List Value) : unnumberedItems vs = vs.map unnumbered := by
  induction vs with
  | nil => simp [unnumberedItems]
  | cons v vs ih => simp [unnumberedItems, ih]

theorem unnumberedEntriesMap (es : List (Value × Value)) :
    unnumberedEntries es = es.map fun e => (e.1.unnumbered, e.2.unnumbered) := by
  induction es with
  | nil => simp [unnumberedEntries]
  | cons e es ih => simp [unnumberedEntries, ih]

def entryLiteral (e : Value × Value) : List Char := e.1.literal ++ ':' :: ' ' :: e.2.literal

theorem literalsMap (vs : List Value) : literals vs = vs.map literal := by
  induction vs with
  | nil => simp [literals]
  | cons v vs ih => simp [literals, ih]

theorem entryLiteralsMap (es : List (Value × Value)) : entryLiterals es = es.map entryLiteral := by
  induction es with
  | nil => simp [entryLiterals]
  | cons e es ih => simp [entryLiterals, entryLiteral, ih]

def namedValues : List (List Char × Value) :=
  [ (word "None", absent), (word "True", bool true), (word "False", bool false),
    (word "Optional.empty", empty), (word "NotImplemented", notImplemented) ]

def ofWord? (w : List Char) : Option Value :=
  match namedValues.lookup w, Program.readInt? w with
  | some v, _ => some v
  | none, some (n, _) => some (int n)
  | none, none => (Double.ofText? w).map float

def readClass (s : List Char) : Option (Value × List Char) :=
  let opening := word "class '"
  let name := (s.drop opening.length).takeWhile (· != '\'')
  match s.take opening.length == opening, (s.drop opening.length).dropWhile (· != '\'') with
  | true, '\'' :: '>' :: s => (ErrorKind.ofQualifiedName? name).map fun kind => (errorClass kind, s)
  | _, _ => none

def readEntry (item : List Char → Option (Value × List Char)) (s : List Char) :
    Option ((Value × Value) × List Char) := do
  let (k, s) ← item s
  match s with
  | ':' :: ' ' :: s => do
    let (v, s) ← item s
    some ((k, v), s)
  | _ => none

def readBytes : List Char → Option (Value × List Char)
  | quote :: s => (literalQuoting.read? quote s).map fun p => (bytes (bytesOf p.1), p.2)
  | [] => none

/- A present container, whose word a bracket follows, or what a word stands for. -/
def readWord (item : List Char → Option (Value × List Char)) (s : List Char) : Option (Value × List Char) :=
  let w := s.takeWhile fun c => !isBreak c
  match w == word "Optional", s.dropWhile fun c => !isBreak c with
  | true, '[' :: s => do
    let (payload, s) ← item s
    match s with
    | ']' :: s => some (present payload none, s)
    | _ => none
  | _, s => (ofWord? w).map fun v => (v, s)

def readLiteral : Nat → List Char → Option (Value × List Char)
  | 0, _ => none
  | _ + 1, [] => none
  | n + 1, c :: s =>
    if c = '[' then (readSequence false ']' (readLiteral n) s).map fun p => (list p.1, p.2)
    else if c = '(' then (readSequence true ')' (readLiteral n) s).map fun p => (tuple p.1, p.2)
    else if c = '\x7b' then (readSequence false '\x7d' (readEntry (readLiteral n)) s).map fun p => (dict p.1, p.2)
    else if c = '\'' ∨ c = '"' then (literalQuoting.read? c s).map fun p => (str (String.ofList p.1), p.2)
    else if c = 'b' then readBytes s
    else if c = '<' then readClass s
    else readWord (readLiteral n) (c :: s)

def ofLiteral? (s : List Char) : Option Value :=
  match readLiteral s.length s with
  | some (v, []) => some v
  | _ => none

def isWord (w : List Char) : Bool :=
  w.all (fun c => !isBreak c) && w.head?.any fun c => !(['\'', '"', 'b', '<'].contains c)

variable {n : Nat} {rest : List Char}

theorem isWordIff {w : List Char} : isWord w = true ↔
    (∀ c ∈ w, isBreak c = false) ∧ ∃ c s, w = c :: s ∧ c ∉ ['\'', '"', 'b', '<'] := by
  cases w <;> simp [isWord]

theorem wordForm {w : List Char} (isWord : isWord w = true) (rest : List Char) :
    readLiteral (n + 1) (w ++ rest) = readWord (readLiteral n) (w ++ rest) := by
  obtain ⟨together, c, s, rfl, other⟩ := isWordIff.mp isWord
  have solid := together c List.mem_cons_self
  have list : c ≠ '[' := by rintro rfl; contradiction
  have tuple : c ≠ '(' := by rintro rfl; contradiction
  have dict : c ≠ '\x7b' := by rintro rfl; contradiction
  simp only [List.mem_cons, List.not_mem_nil, or_false, not_or] at other
  obtain ⟨single, double, bytes, cls⟩ := other
  rw [List.cons_append, readLiteral, if_neg list, if_neg tuple, if_neg dict, if_neg (not_or.mpr ⟨single, double⟩),
    if_neg bytes, if_neg cls]

theorem wordRead {w : List Char} (isWord : isWord w = true) (other : w ≠ word "Optional") {v : Value}
    (named : ofWord? w = some v) (breaks : Breaks rest) : readLiteral (n + 1) (w ++ rest) = some (v, rest) := by
  obtain ⟨run, after⟩ := Text.wordRun (isWordIff.mp isWord).1 breaks
  have unmarked : (w == word "Optional") = false := by simpa using other
  rw [wordForm isWord, readWord, run, after, unmarked, named]
  rfl

theorem presentRead {v : Value} {form : List Char}
    (read : readLiteral n (form ++ ']' :: rest) = some (v, ']' :: rest)) :
    readLiteral (n + 1) (word "Optional[" ++ form ++ ']' :: rest) = some (present v none, rest) := by
  have isWord : isWord (word "Optional") = true := by decide
  have breaks : Breaks ('[' :: (form ++ ']' :: rest)) := Text.breaksCons rfl _
  obtain ⟨run, after⟩ := Text.wordRun (isWordIff.mp isWord).1 breaks
  have text : word "Optional[" ++ form ++ ']' :: rest = word "Optional" ++ '[' :: (form ++ ']' :: rest) := by
    simp [word]
  rw [text, wordForm isWord, readWord, run, after]
  simp [read]

theorem namesLettered : ∀ p ∈ namedValues, ¬p.1.all inNumber = true := List.any_eq_false.mp rfl

theorem numberIsWord {w : List Char} (filled : w ≠ []) (number : ∀ c ∈ w, inNumber c = true) : isWord w = true := by
  have opening : ∀ c ∈ ['\'', '"', 'b', '<'], ¬inNumber c = true := List.any_eq_false.mp rfl
  obtain ⟨c, s, rfl⟩ := List.exists_cons_of_ne_nil filled
  refine isWordIff.mpr ⟨fun d member => Text.numberSolid (number d member), c, s, rfl, fun among => ?_⟩
  exact opening c among (number c List.mem_cons_self)

theorem readUnsigned {d : Char} (digit : isDigit d = true) (s : List Char) :
    Program.readInt? (d :: s) =
        (if (d :: s).all isDigit then some ((decimalValue (d :: s) : Int), (d :: s).length) else none) ∧
      Program.readInt? ('-' :: d :: s) =
        (if (d :: s).all isDigit then some (-(decimalValue (d :: s) : Int), (d :: s).length) else none) := by
  constructor
  · unfold Program.readInt?
    split
    · next same => cases same; contradiction
    · next same => cases same; contradiction
    · cases all : (d :: s).all isDigit <;> simp [all]
  · cases all : (d :: s).all isDigit <;> simp [Program.readInt?, all]

theorem intNamed (n : Int) : ofWord? (decimalInt n) = some (int n) := by
  obtain ⟨d, s, text⟩ := List.exists_cons_of_ne_nil (decimalFilled n.natAbs)
  have digits := decimalDigits n.natAbs
  have value := decimalRead n.natAbs
  rw [text] at digits value
  obtain ⟨plain, negative⟩ := readUnsigned (digits d List.mem_cons_self) s
  rw [if_pos (List.all_eq_true.mpr digits), value] at plain negative
  have read : Program.readInt? (decimalInt n) = some (n, (d :: s).length) := by
    rw [decimalInt, text]
    split
    · rw [negative]
      congr 2
      omega
    · rw [plain]
      congr 2
      omega
  rw [ofWord?, numberUnnamed namesLettered (decimalIntInNumber n), read]

theorem floatNamed (x : Double) : ofWord? x.text = some (float x.unnumbered) := by
  have notWhole : Program.readInt? x.text = none := by
    rcases x.textForms with special | ⟨m, negative, text, wellFormed, -⟩
    · have each : ∀ p ∈ Double.specialTexts, Program.readInt? p.1 = none := by decide
      exact each _ special
    · obtain ⟨d, s, start, digit⟩ := wellFormed.startsWithDigit
      obtain ⟨plain, minus⟩ := readUnsigned digit s
      rw [← start, wellFormed.notWhole] at plain minus
      rw [text]
      cases negative with
      | true => exact minus
      | false => exact plain
  rw [ofWord?, numberUnnamed namesLettered x.textInNumber, notWhole, x.textRead]
  rfl

theorem numberRead {w : List Char} (filled : w ≠ []) (number : ∀ c ∈ w, inNumber c = true) {v : Value}
    (named : ofWord? w = some v) (breaks : Breaks rest) : readLiteral (n + 1) (w ++ rest) = some (v, rest) := by
  refine wordRead (numberIsWord filled number) ?_ named breaks
  rintro rfl
  exact absurd (number 'O' (by decide)) (by decide)

theorem classRead (kind : ErrorKind) (rest : List Char) :
    readClass (word "class '" ++ kind.qualifiedName ++ '\'' :: '>' :: rest) = some (errorClass kind, rest) := by
  have stop : ∀ c ∈ ('\'' :: '>' :: rest).head?, (c != '\'') = false := by simp
  rw [readClass, List.append_assoc, List.take_left, List.drop_left,
    takenRun kind.qualifiedNameUnquoted stop, droppedRun kind.qualifiedNameUnquoted stop, kind.qualifiedNameRead]
  simp

theorem wordOpens {w : List Char} (isWord : isWord w = true) : ∃ c s, w = c :: s ∧ opens c = true := by
  obtain ⟨together, c, s, rfl, -⟩ := isWordIff.mp isWord
  exact ⟨c, s, rfl, Text.opensOfSolid (together c List.mem_cons_self)⟩

theorem literalOpens {v : Value} (plain : v.noError = true) : ∃ c s, v.literal = c :: s ∧ opens c = true := by
  cases v with
  | absent => rw [literal]; exact wordOpens (by decide)
  | bool b => rw [literal]; cases b <;> exact wordOpens (by decide)
  | int n => rw [literal]; exact wordOpens (numberIsWord (decimalIntFilled n) (decimalIntInNumber n))
  | float x => rw [literal]; exact wordOpens (numberIsWord x.textFilled x.textInNumber)
  | str s =>
    rw [literal, Text.quoted]
    refine ⟨_, _, rfl, ?_⟩
    rcases Text.quoteForCases s.toList with quote | quote <;> rw [quote] <;> rfl
  | bytes bs => rw [literal]; exact ⟨_, _, rfl, rfl⟩
  | list items => rw [literal]; exact ⟨_, _, rfl, rfl⟩
  | tuple items =>
    obtain ⟨s, start⟩ := Text.parenthesizedFirst (literals items)
    rw [literal, start]
    exact ⟨_, _, rfl, rfl⟩
  | dict entries => rw [literal]; exact ⟨_, _, rfl, rfl⟩
  | empty => rw [literal]; exact wordOpens (by decide)
  | present payload o => rw [literal]; exact ⟨_, _, rfl, rfl⟩
  | error kind args o => contradiction
  | errorClass kind => rw [literal]; exact ⟨_, _, rfl, rfl⟩
  | notImplemented => rw [literal]; exact wordOpens (by decide)

structure Readable (n : Nat) (v : Value) : Prop where
  plain : v.noError = true
  read : ∀ rest, Breaks rest → readLiteral n (v.literal ++ rest) = some (v.unnumbered, rest)

theorem Readable.reads {v : Value} (readable : Readable n v) : Reads (readLiteral n) v.literal v.unnumbered :=
  ⟨readable.read, literalOpens readable.plain⟩

theorem entryReads {e : Value × Value} (key : Readable n e.1) (payload : Readable n e.2) :
    Reads (readEntry (readLiteral n)) (entryLiteral e) (e.1.unnumbered, e.2.unnumbered) := by
  obtain ⟨c, s, start, opens⟩ := literalOpens key.plain
  refine ⟨fun rest breaks => ?_, c, _, by rw [entryLiteral, start]; rfl, opens⟩
  have first := key.read (':' :: ' ' :: (e.2.literal ++ rest)) (Text.breaksCons rfl _)
  have second := payload.read rest breaks
  rw [entryLiteral, List.append_assoc, List.cons_append, List.cons_append, readEntry, first]
  simp [second]

theorem layerRead {v : Value} (plain : v.noError = true) (parts : ∀ x ∈ v.parts, Readable n x) :
    Readable (n + 1) v := by
  refine ⟨plain, fun rest breaks => ?_⟩
  cases v with
  | absent => rw [literal]; exact wordRead (by decide) (by decide) rfl breaks
  | bool b => rw [literal]; cases b <;> exact wordRead (by decide) (by decide) rfl breaks
  | int m => rw [literal]; exact numberRead (decimalIntFilled m) (decimalIntInNumber m) (intNamed m) breaks
  | float x => rw [literal]; exact numberRead x.textFilled x.textInNumber (floatNamed x) breaks
  | str s =>
    have read := Text.quotedRead s.toList rest
    rcases Text.quoteForCases s.toList with quote | quote <;> rw [quote] at read <;>
      simp [literal, Text.quoted, quote, readLiteral, read, unnumbered]
  | bytes bs =>
    have read := Text.quotedBytesRead (Text.quoteForCases (bs.map fun b => Char.ofNat b.toNat)) bs rest
    obtain ⟨⟨cs, left⟩, scanned, same⟩ := Option.map_eq_some_iff.mp read
    obtain ⟨kept, rfl⟩ := Prod.mk.inj same
    simp [literal, Text.quotedBytes, readLiteral, readBytes, scanned, unnumbered, kept]
  | list items =>
    have reads : ∀ x ∈ items, Reads (readLiteral n) x.literal x.unnumbered := fun x member =>
      (parts x member).reads
    have read : Text.readSequence false ']' (readLiteral n) (commaSeparated (items.map literal) ++ ']' :: rest) =
        some (items.map unnumbered, rest) := Text.sequenceRead (by decide) reads rest
    simp [literal, literalsMap, unnumbered, unnumberedItemsMap, readLiteral, read]
  | tuple items =>
    have reads : ∀ x ∈ items, Reads (readLiteral n) x.literal x.unnumbered := fun x member =>
      (parts x member).reads
    obtain ⟨s, start, read⟩ := Text.parenthesizedRead reads rest
    rw [literal, literalsMap, unnumbered, unnumberedItemsMap, start]
    simp [readLiteral, read]
  | dict entries =>
    have reads : ∀ e ∈ entries,
        Reads (readEntry (readLiteral n)) (entryLiteral e) (e.1.unnumbered, e.2.unnumbered) := by
      intro e member
      obtain ⟨key, payload⟩ := entryParts member
      exact entryReads (parts _ key) (parts _ payload)
    have read : Text.readSequence false '\x7d' (readEntry (readLiteral n))
        (commaSeparated (entries.map entryLiteral) ++ '\x7d' :: rest) =
          some (entries.map fun e => (e.1.unnumbered, e.2.unnumbered), rest) :=
      Text.sequenceRead (by decide) reads rest
    simp [literal, entryLiteralsMap, unnumbered, unnumberedEntriesMap, readLiteral, read]
  | empty => rw [literal]; exact wordRead (by decide) (by decide) rfl breaks
  | present payload o =>
    have read := (parts payload (List.mem_singleton.mpr rfl)).read (']' :: rest) (Text.breaksCons rfl _)
    rw [literal, List.append_assoc, unnumbered]
    exact presentRead read
  | error kind args o => contradiction
  | errorClass kind =>
    have text : (errorClass kind).literal ++ rest =
        '<' :: (word "class '" ++ kind.qualifiedName ++ '\'' :: '>' :: rest) := by
      simp [literal, classLiteral, ErrorKind.qualifiedName, word]
    have bare : (errorClass kind).unnumbered = errorClass kind := by simp [unnumbered]
    rw [text, bare]
    exact classRead kind rest
  | notImplemented => rw [literal]; exact wordRead (by decide) (by decide) rfl breaks

theorem partShorter {v x : Value} (plain : v.noError = true) (part : x ∈ v.parts) :
    x.literal.length < v.literal.length := by
  cases v with
  | list items =>
    have within := Text.commaSeparatedLength (List.mem_map_of_mem part : x.literal ∈ items.map literal)
    simp only [literal, literalsMap, List.length_append, List.length_cons]
    omega
  | tuple items =>
    have within := Text.commaSeparatedLength (List.mem_map_of_mem part : x.literal ∈ items.map literal)
    rw [literal, literalsMap]
    exact Nat.lt_of_le_of_lt within (Text.parenthesizedLength _)
  | dict entries =>
    obtain ⟨e, member, whose⟩ := entryOfPart part
    have within := Text.commaSeparatedLength (List.mem_map_of_mem member : entryLiteral e ∈ entries.map entryLiteral)
    simp only [literal, entryLiteralsMap, entryLiteral, List.length_append, List.length_cons] at within ⊢
    rcases whose with rfl | rfl <;> omega
  | present payload o =>
    rw [List.mem_singleton.mp part, literal]
    simp only [List.length_append, List.length_singleton]
    omega
  | error kind args o => contradiction
  | _ => contradiction

theorem literalRead (v : Value) (plain : v.everywhere noError = true) {n : Nat} (enough : v.literal.length ≤ n) :
    Readable n v := by
  have self := everywhereSelf plain
  cases n with
  | zero =>
    obtain ⟨c, s, start, -⟩ := literalOpens self
    rw [start] at enough
    contradiction
  | succ n =>
    refine layerRead self fun x part => ?_
    -- A part is written in less than the whole, so the fuel that one layer leaves is enough for it.
    have shorter := partShorter self part
    exact literalRead x (partEverywhere plain part) (by omega)
termination_by sizeOf v
decreasing_by exact partSmaller part

theorem ofLiteralRead {v : Value} (plain : v.everywhere noError = true) : ofLiteral? v.literal = some v.unnumbered := by
  have read := (literalRead v plain (Nat.le_refl _)).read [] Text.breaksEnd
  rw [List.append_nil] at read
  rw [ofLiteral?, read]

mutual

theorem literalUnnumbered : (v : Value) → v.unnumbered.literal = v.literal
  | float x => by rw [unnumbered, literal, literal, x.textUnnumbered]
  | list items => by rw [unnumbered, literal, literal, literalsUnnumbered items]
  | tuple items => by rw [unnumbered, literal, literal, literalsUnnumbered items]
  | dict entries => by rw [unnumbered, literal, literal, entryLiteralsUnnumbered entries]
  | present payload _ => by rw [unnumbered, literal, literal, literalUnnumbered payload]
  | error _ args _ => by rw [unnumbered, literal, literal, literalsUnnumbered args]
  | absent | bool _ | int _ | str _ | bytes _ | empty | errorClass _ | notImplemented => by
    simp only [unnumbered]

theorem literalsUnnumbered : (vs : List Value) → literals (unnumberedItems vs) = literals vs
  | [] => by rw [unnumberedItems]
  | v :: vs => by rw [unnumberedItems, literals, literals, literalUnnumbered v, literalsUnnumbered vs]

theorem entryLiteralsUnnumbered :
    (es : List (Value × Value)) → entryLiterals (unnumberedEntries es) = entryLiterals es
  | [] => by rw [unnumberedEntries]
  | (k, v) :: es => by
    rw [unnumberedEntries, entryLiterals, entryLiterals, literalUnnumbered k, literalUnnumbered v,
      entryLiteralsUnnumbered es]

end

theorem literalRuns {σ : Type} (ρ : Program.Registers) (v : Value) :
    (Program.Action.literal.run ρ v : Run σ Value) =
      if v.isTooLong then Run.fail (.tooManyDigits none) else pure (.str v.literalString) := by
  rw [Program.Action.run, writtenIf]
  split <;> rfl

theorem sameForm {a b : Value} (left : a.everywhere noError = true) (right : b.everywhere noError = true) :
    a.literal = b.literal ↔ a.unnumbered = b.unnumbered := by
  constructor
  · intro same
    have read := ofLiteralRead left
    rw [same, ofLiteralRead right] at read
    exact (Option.some.inj read).symm
  · intro same
    rw [← literalUnnumbered a, same, literalUnnumbered]

theorem literalsTellApart :
    (∀ a b : Value, a.everywhere noError = true → b.everywhere noError = true →
      (a.literal = b.literal ↔ a.unnumbered = b.unnumbered)) ∧
    (∀ p q o n, p.everywhere noError = true → q.everywhere noError = true →
      (present p o).literal = (present q n).literal → p.unnumbered = q.unnumbered) ∧
    (∀ payload o, (present payload o).literal ≠ empty.literal) ∧
    ∀ {σ : Type} (ρ : Program.Registers) (a b : Value), a.everywhere noError = true → b.everywhere noError = true →
      ∀ (answer : Value) (w u : σ), (Program.Action.literal.run ρ a w).result = .ok answer →
        (Program.Action.literal.run ρ b u).result = .ok answer → a.unnumbered = b.unnumbered := by
  refine ⟨fun _ _ => sameForm, ?payloads, ?empty, ?runs⟩
  case payloads =>
    intro p q o n left right same
    rw [literal, literal, List.append_left_inj, List.append_right_inj] at same
    exact (sameForm left right).mp same
  case empty =>
    intro payload o same
    rw [literal, literal] at same
    have eighth := congrArg (·[8]?) same
    simp [word] at eighth
  case runs =>
    intro σ ρ a b left right answer w u first second
    rw [literalRuns] at first second
    split at first
    · contradiction
    split at second
    · contradiction
    have same : Value.str a.literalString = .str b.literalString :=
      (Except.ok.inj first).trans (Except.ok.inj second).symm
    have chars := String.ofList_injective (Value.str.inj same)
    exact (sameForm left right).mp chars

theorem lookalikesDiffer :
    let one := present (list [str "1', '2"]) none
    let two := present (list [str "1", str "2"]) none
    let text := present (str "Optional.empty") none
    let first := present (float (.nan (some 0))) (some 1)
    let second := present (float (.nan (some 2))) none
    one.literal ≠ two.literal ∧ text.literal ≠ (present empty none).literal ∧
      (Program.Action.literal.run .empty first ()).result = .ok (.str "Optional[nan]") ∧
      (Program.Action.literal.run .empty second ()).result = .ok (.str "Optional[nan]") ∧
      first.unnumbered = second.unnumbered := by
  obtain ⟨forms, payloads, -, runs⟩ := literalsTellApart
  intro one two text first second
  have firstRuns : (Program.Action.literal.run .empty first ()).result = .ok (.str "Optional[nan]") := rfl
  have secondRuns : (Program.Action.literal.run .empty second ()).result = .ok (.str "Optional[nan]") := rfl
  refine ⟨fun same => ?_, fun same => ?_, firstRuns, secondRuns,
    runs .empty first second rfl rfl _ () () firstRuns secondRuns⟩
  · have values := (forms one two rfl rfl).mp same
    simp [one, two, unnumbered, unnumberedItems] at values
  · have values := payloads (str "Optional.empty") empty none none rfl rfl same
    simp [unnumbered] at values

end Value
end Perhaps
