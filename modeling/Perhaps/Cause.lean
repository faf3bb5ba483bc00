import Perhaps.Value.Text

/-! Why an operation fails of itself: each cause with the kind and the wording of the error that it
becomes. Errors that callbacks raise do not pass through here. -/
namespace Perhaps

/- Whole numbers with more digits are neither read from text nor written to it. -/
@[irreducible] def digitLimit : Nat := 4300

inductive Cause where
  | notCallable (typeName : String)
  | noMember (owner member : String)
  | missingArgument (method : String)
  | unhashable (typeName : String)
  | notOrdered (relation left right : String)
  | notAnError
  | wrongArity (function : String) (given : Nat)
  | tooFewArguments (constructor : StandardError) (required given : Nat)
  | wrongType (function expected given : String)
  | unsupportedType (function given : String)
  | divisionByZero
  | badInteger (text : String)
  | indexOutOfRange
  | missingKey (key : Value)
  | frozenField (verb field : String)
  | foreignField
  | assertion (message : List Char)
  | unknownLevel (given : Value)
  | unknownCode (key : Value)
  | unwritableKey (typeName : String)
  | tooManyDigits (given : Option Nat)
  | repeatedArgument (function argument : String)
  | notConcatenable (typeName : String)
  | notAName (typeName : String)
  | unboundComparison
  | loggerNotText
  | levelNotWhole

namespace Cause

def kind : Cause → ErrorKind
  | notCallable _ | unhashable _ | notOrdered .. | notAnError | wrongArity .. | tooFewArguments ..
  | wrongType .. | unsupportedType .. | foreignField | missingArgument _ | unwritableKey _
  | repeatedArgument .. | notConcatenable _ | notAName _ | unboundComparison
  | loggerNotText | levelNotWhole =>
    .standard .typeError
  | noMember .. => .standard .attributeError
  | frozenField .. => .frozenInstance
  | divisionByZero => .standard .zeroDivisionError
  | badInteger _ | unknownLevel _ | unknownCode _ | tooManyDigits _ => .standard .valueError
  | indexOutOfRange => .standard .indexError
  | missingKey _ => .standard .keyError
  | assertion _ => .standard .assertionError

def wording : Cause → String
  | notCallable t => "'" ++ t ++ "' object is not callable"
  | noMember owner member => owner ++ " has no attribute '" ++ member ++ "'"
  | missingArgument method => method ++ " expected at least 1 argument, got 0"
  | unhashable t => String.join ["unhashable type: '", t, "'"]
  | notOrdered rel l r =>
    String.join ["'", rel, "' not supported between instances of '", l, "' and '", r, "'"]
  | notAnError => "exceptions must derive from BaseException"
  | wrongArity f n => f ++ ": expected 1 argument, got " ++ toString n
  | tooFewArguments _ required given =>
    String.join [if required = 2 then "BaseExceptionGroup.__new__() takes" else "function takes",
      " exactly ", toString required, " arguments (", toString given, " given)"]
  | wrongType f e g => f ++ ": expected " ++ e ++ ", got " ++ g
  | unsupportedType f g => f ++ ": unsupported type " ++ g
  | divisionByZero => "division by zero"
  | badInteger t => String.join ["int: invalid literal ", t]
  | indexOutOfRange => "list index out of range"
  | missingKey key => key.literalString
  | frozenField verb field => String.join ["cannot ", verb, " field '", field, "'"]
  | foreignField => "super(type, obj): obj must be an instance or subtype of type"
  | assertion m => String.ofList m
  | unknownLevel v => String.join ["Unknown log level: ", v.literalString]
  | unknownCode v => v.literalString ++ " is not a valid ErrorCode"
  | unwritableKey t => String.join ["keys must be str, int, float, bool or None, not ", t]
  | tooManyDigits given =>
    String.join ["Exceeds the limit (", toString digitLimit, " digits) for integer string conversion",
      given.elim "" fun n => String.join [": value has ", toString n, " digits"],
      "; use sys.set_int_max_str_digits() to increase the limit"]
  | repeatedArgument f a => f ++ "() got multiple values for argument '" ++ a ++ "'"
  | notConcatenable t => String.join ["can only concatenate str (not \"", t, "\") to str"]
  | notAName t => String.join ["attribute name must be string, not '", t, "'"]
  | unboundComparison => "expected 1 argument, got 0"
  | loggerNotText => "A logger name must be a string"
  | levelNotWhole => "level must be an integer"

def args : Cause → List Value
  | missingKey key => [key]
  | c => [.str c.wording]

def fault (c : Cause) : Fault := ⟨c.kind, c.args⟩

def noMemberOf (v : Value) (member : String) : Cause :=
  match v with
  | .errorClass k => noMember (String.join ["type object '", k.name, "'"]) member
  | v => noMember ("'" ++ v.typeName ++ "' object") member

end Cause

theorem Fault.messageText (kind : ErrorKind) (text : String) (h : kind ≠ .standard .keyError) :
    Fault.message ⟨kind, [.str text]⟩ = text := by
  simp [Fault.message, Fault.value, Value.plainString, Value.plain, h]

theorem Fault.messageKey (key : Value) :
    Fault.message ⟨.standard .keyError, [key]⟩ = key.literalString := by
  simp [Fault.message, Fault.value, Value.plainString, Value.plain, Value.literalString]

theorem Cause.messageFault (c : Cause) : c.fault.message = c.wording := by
  cases c with
  | missingKey key => exact Fault.messageKey key
  | _ => exact Fault.messageText _ _ (by simp [kind])

end Perhaps
