import Perhaps.Cause
import Perhaps.Logging.Level

/-! What a setting accepts. A level is a name of one, as text or in bytes; a switch is a truth value, a word
or number that stands for one, or bytes that hold such a word. All else is refused for a stated problem. -/
namespace Perhaps.Settings

inductive Field where
  | logLevel
  | jsonLogs
  deriving DecidableEq, Repr

namespace Field

def name : Field → String
  | .logLevel => "log_level"
  | .jsonLogs => "json_logs"

def variableName : Field → String
  | .logLevel => "presence_log_level"
  | .jsonLogs => "presence_json_logs"

def default : Field → Value
  | .logLevel => .str "WARNING"
  | .jsonLogs => .bool false

end Field

inductive Problem where
  | notText
  | notUnicode
  | unknownLevel (given : String)
  | notBoolean
  | unclearBoolean
  deriving DecidableEq, Repr

def Problem.text : Problem → String
  | .notText => "string_type: Input should be a valid string"
  | .notUnicode => "string_unicode: Input should be a valid string, unable to parse raw data as a unicode string"
  | .unknownLevel s => String.join ["value_error: Value error, ", (Cause.unknownLevel (.str s)).wording]
  | .notBoolean => "bool_type: Input should be a valid boolean"
  | .unclearBoolean => "bool_parsing: Input should be a valid boolean, unable to interpret input"

structure Issue where
  field : Field
  problem : Problem
  input : Value

def Issue.line (i : Issue) : String := i.field.name ++ ": " ++ i.problem.text

def parseLogLevel (s : String) : Except Problem Logging.LevelName :=
  match Logging.LevelName.ofSetting? s.toList with
  | some l => .ok l
  | none => .error (.unknownLevel s)

def decodeText? (bs : List UInt8) : Option String := String.fromUTF8? ⟨bs.toArray⟩

def validateLogLevel : Value → Except Problem Logging.LevelName
  | .str s => parseLogLevel s
  | .bytes bs =>
    match decodeText? bs with
    | some s => parseLogLevel s
    | none => .error .notUnicode
  | _ => .error .notText

def trueWords : List String := ["1", "true", "t", "yes", "y", "on"]

def falseWords : List String := ["0", "false", "f", "no", "n", "off"]

def parseBoolean (s : String) : Except Problem Bool :=
  let word := s.map Char.toLower
  if trueWords.contains word then .ok true
  else if falseWords.contains word then .ok false
  else .error .unclearBoolean

def booleanOfInt (n : Int) : Except Problem Bool :=
  if n = 1 then .ok true
  else if n = 0 then .ok false
  else if -Nat.pow 2 63 ≤ n ∧ n < Nat.pow 2 63 then .error .unclearBoolean
  else .error .notBoolean

def wholeNumber? (b : Binary) : Option Int :=
  if 0 ≤ b.exponent then some (b.significand * Nat.pow 2 b.exponent.toNat)
  else
    let unit : Int := Nat.pow 2 (-b.exponent).toNat
    if b.significand % unit = 0 then some (b.significand / unit) else none

def booleanOfDouble (x : Double) : Except Problem Bool :=
  match x.quantity with
  | .exact b =>
    match wholeNumber? b with
    | some n => if n = -Nat.pow 2 63 then .error .notBoolean else booleanOfInt n
    | none => .error .notBoolean
  | _ => .error .notBoolean

def validateJsonLogs : Value → Except Problem Bool
  | .bool b => .ok b
  | .str s => parseBoolean s
  | .bytes bs =>
    match decodeText? bs with
    | some s => parseBoolean s
    | none => .error .unclearBoolean
  | .int n => booleanOfInt n
  | .float x => booleanOfDouble x
  | _ => .error .notBoolean

/- Checks a value that is meant to be a level name and gives the name in upper case. Bytes can be
stripped and upper-cased like text but are never a name. -/
def checkLevel (v : Value) : Except Cause Logging.LevelName :=
  match v with
  | .str s =>
    match Logging.LevelName.ofSetting? s.toList with
    | some l => .ok l
    | none => .error (.unknownLevel v)
  | .bytes _ => .error (.unknownLevel v)
  | v => .error (Cause.noMemberOf v "strip")

end Perhaps.Settings
