import Perhaps.Value.Hash
import Perhaps.Value.Written

/-! The stock of functions on one value: whole-number arithmetic, lengths, text and look-ups. Each
refuses a value of the wrong type under its own name. -/
namespace Perhaps.Program

inductive Arithmetic where
  | add | mul | floorDiv | mod | greater | less
  deriving DecidableEq, Repr

def Arithmetic.name : Arithmetic → String
  | .add => "add"
  | .mul => "mul"
  | .floorDiv => "floordiv"
  | .mod => "mod"
  | .greater => "gt"
  | .less => "lt"

/- Arithmetic on whole numbers; division rounds down, and a divisor of zero is refused first. -/
def Arithmetic.apply (f : Arithmetic) (operand : Int) (x : Value) : Except Cause Value :=
  if (f = .floorDiv ∨ f = .mod) ∧ operand = 0 then .error .divisionByZero
  else
    match x with
    | .int n => .ok <|
      match f with
      | .add => .int (n + operand)
      | .mul => .int (n * operand)
      | .floorDiv => .int (n.fdiv operand)
      | .mod => .int (n.fmod operand)
      | .greater => .bool (operand < n)
      | .less => .bool (n < operand)
    | v => .error (.wrongType f.name "int" v.typeName)

def length : Value → Except Cause Value
  | .str s => .ok (.int s.length)
  | .bytes bs => .ok (.int bs.length)
  | .list items | .tuple items => .ok (.int items.length)
  | .dict entries => .ok (.int entries.length)
  | v => .error (.unsupportedType "len" v.typeName)

def readInt? (s : List Char) : Option (Int × Nat) :=
  let digits? (ds : List Char) : Option (Nat × Nat) :=
    if ds.isEmpty || !ds.all isDigit then none else some (decimalValue ds, ds.length)
  match s with
  | '-' :: ds => (digits? ds).map fun n => (-n.1, n.2)
  | '+' :: ds => (digits? ds).map fun n => (n.1, n.2)
  | ds => (digits? ds).map fun n => (n.1, n.2)

/- Reads a whole number from text; zeros in front count towards the limit of digits. -/
def readInt : Value → Except Cause Value
  | .str s =>
    match readInt? s.toList with
    | some (n, digits) => if digitLimit < digits then .error (.tooManyDigits digits) else .ok (.int n)
    | none => .error (.badInteger s)
  | v => .error (.wrongType "int" "str" v.typeName)

def countFrom (head : Char) (tail : List Char) : Nat → List Char → Nat
  | _, [] => 0
  | skip + 1, _ :: s => countFrom head tail skip s
  | 0, c :: s =>
    if c = head ∧ tail.isPrefixOf s then 1 + countFrom head tail tail.length s
    else countFrom head tail 0 s

/- How often a part occurs in text; the empty part occurs around every character. -/
def occurrences (part s : List Char) : Nat :=
  match part with
  | [] => s.length + 1
  | head :: tail => countFrom head tail 0 s

def concat (tail : String) : Value → Except Cause Value
  | .str s => .ok (.str (s ++ tail))
  | v => .error (.wrongType "concat" "str" v.typeName)

def count (part : String) : Value → Except Cause Value
  | .str s => .ok (.int (occurrences part.toList s.toList))
  | v => .error (.wrongType "count" "str" v.typeName)

def lookUp (entries : List (Value × Value)) (key : Value) : Except Cause (Option Value) :=
  match key.hashCode with
  | .error t => .error (.unhashable t)
  | .ok _ => .ok (Value.entry? entries key)

def entry (key : Value) : Value → Except Cause Value
  | .dict entries => (lookUp entries key).map Value.ofOption
  | v => .error (.wrongType "get" "dict" v.typeName)

def item (key : Value) : Value → Except Cause Value
  | .dict entries =>
    match lookUp entries key with
    | .error c => .error c
    | .ok none => .error (.missingKey key)
    | .ok (some v) => .ok v
  | .list items =>
    match key with
    | .int n =>
      match if n < 0 then none else items[n.toNat]? with
      | some v => .ok v
      | none => .error .indexOutOfRange
    | k => .error (.wrongType "item" "int" k.typeName)
  | v => .error (.unsupportedType "item" v.typeName)

end Perhaps.Program
