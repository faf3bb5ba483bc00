/-! The kinds of errors: the standard ones, the container's own, and the
refusal to change a frozen field. Each kind has one name; a standard kind may have a second one that
reads as the same kind. The container's kinds carry a code and a message for when none is given. -/
namespace Perhaps

inductive StandardError where
  | arithmeticError | assertionError | attributeError | baseException | baseExceptionGroup | blockingIoError
  | brokenPipeError | bufferError | bytesWarning | childProcessError | connectionAbortedError
  | connectionError | connectionRefusedError | connectionResetError | deprecationWarning | eofError
  | encodingWarning | exception | exceptionGroup | fileExistsError | fileNotFoundError | floatingPointError
  | futureWarning | generatorExit | importError | importWarning | indentationError | indexError
  | interruptedError | isADirectoryError | keyError | keyboardInterrupt | lookupError | memoryError
  | moduleNotFoundError | nameError | notADirectoryError | notImplementedError | osError | overflowError
  | pendingDeprecationWarning | permissionError | processLookupError | recursionError | referenceError
  | resourceWarning | runtimeError | runtimeWarning | stopAsyncIteration | stopIteration | syntaxError
  | syntaxWarning | systemError | systemExit | tabError | timeoutError | typeError | unboundLocalError
  | unicodeDecodeError | unicodeEncodeError | unicodeError | unicodeTranslateError | unicodeWarning
  | userWarning | valueError | warning | zeroDivisionError
  deriving DecidableEq, Repr

namespace StandardError

def all : List StandardError :=
  [ .arithmeticError, .assertionError, .attributeError, .baseException, .baseExceptionGroup,
    .blockingIoError, .brokenPipeError, .bufferError, .bytesWarning, .childProcessError,
    .connectionAbortedError, .connectionError, .connectionRefusedError, .connectionResetError,
    .deprecationWarning, .eofError, .encodingWarning, .exception, .exceptionGroup, .fileExistsError,
    .fileNotFoundError, .floatingPointError, .futureWarning, .generatorExit, .importError, .importWarning,
    .indentationError, .indexError, .interruptedError, .isADirectoryError, .keyError, .keyboardInterrupt,
    .lookupError, .memoryError, .moduleNotFoundError, .nameError, .notADirectoryError, .notImplementedError,
    .osError, .overflowError, .pendingDeprecationWarning, .permissionError, .processLookupError,
    .recursionError, .referenceError, .resourceWarning, .runtimeError, .runtimeWarning, .stopAsyncIteration,
    .stopIteration, .syntaxError, .syntaxWarning, .systemError, .systemExit, .tabError, .timeoutError,
    .typeError, .unboundLocalError, .unicodeDecodeError, .unicodeEncodeError, .unicodeError,
    .unicodeTranslateError, .unicodeWarning, .userWarning, .valueError, .warning, .zeroDivisionError]

def name : StandardError → String
  | .arithmeticError => "ArithmeticError"
  | .assertionError => "AssertionError"
  | .attributeError => "AttributeError"
  | .baseException => "BaseException"
  | .baseExceptionGroup => "BaseExceptionGroup"
  | .blockingIoError => "BlockingIOError"
  | .brokenPipeError => "BrokenPipeError"
  | .bufferError => "BufferError"
  | .bytesWarning => "BytesWarning"
  | .childProcessError => "ChildProcessError"
  | .connectionAbortedError => "ConnectionAbortedError"
  | .connectionError => "ConnectionError"
  | .connectionRefusedError => "ConnectionRefusedError"
  | .connectionResetError => "ConnectionResetError"
  | .deprecationWarning => "DeprecationWarning"
  | .eofError => "EOFError"
  | .encodingWarning => "EncodingWarning"
  | .exception => "Exception"
  | .exceptionGroup => "ExceptionGroup"
  | .fileExistsError => "FileExistsError"
  | .fileNotFoundError => "FileNotFoundError"
  | .floatingPointError => "FloatingPointError"
  | .futureWarning => "FutureWarning"
  | .generatorExit => "GeneratorExit"
  | .importError => "ImportError"
  | .importWarning => "ImportWarning"
  | .indentationError => "IndentationError"
  | .indexError => "IndexError"
  | .interruptedError => "InterruptedError"
  | .isADirectoryError => "IsADirectoryError"
  | .keyError => "KeyError"
  | .keyboardInterrupt => "KeyboardInterrupt"
  | .lookupError => "LookupError"
  | .memoryError => "MemoryError"
  | .moduleNotFoundError => "ModuleNotFoundError"
  | .nameError => "NameError"
  | .notADirectoryError => "NotADirectoryError"
  | .notImplementedError => "NotImplementedError"
  | .osError => "OSError"
  | .overflowError => "OverflowError"
  | .pendingDeprecationWarning => "PendingDeprecationWarning"
  | .permissionError => "PermissionError"
  | .processLookupError => "ProcessLookupError"
  | .recursionError => "RecursionError"
  | .referenceError => "ReferenceError"
  | .resourceWarning => "ResourceWarning"
  | .runtimeError => "RuntimeError"
  | .runtimeWarning => "RuntimeWarning"
  | .stopAsyncIteration => "StopAsyncIteration"
  | .stopIteration => "StopIteration"
  | .syntaxError => "SyntaxError"
  | .syntaxWarning => "SyntaxWarning"
  | .systemError => "SystemError"
  | .systemExit => "SystemExit"
  | .tabError => "TabError"
  | .timeoutError => "TimeoutError"
  | .typeError => "TypeError"
  | .unboundLocalError => "UnboundLocalError"
  | .unicodeDecodeError => "UnicodeDecodeError"
  | .unicodeEncodeError => "UnicodeEncodeError"
  | .unicodeError => "UnicodeError"
  | .unicodeTranslateError => "UnicodeTranslateError"
  | .unicodeWarning => "UnicodeWarning"
  | .userWarning => "UserWarning"
  | .valueError => "ValueError"
  | .warning => "Warning"
  | .zeroDivisionError => "ZeroDivisionError"

def aliases : List (String × StandardError) :=
  [("EnvironmentError", .osError), ("IOError", .osError)]

def ofName? (s : String) : Option StandardError :=
  match all.find? fun k => k.name == s with
  | some k => some k
  | none => aliases.lookup s

/- The number of arguments without which an error of this kind cannot be built; the other kinds take any. -/
def requiredArguments : StandardError → Option Nat
  | .unicodeDecodeError | .unicodeEncodeError => some 5
  | .unicodeTranslateError => some 4
  | .baseExceptionGroup | .exceptionGroup => some 2
  | _ => none

/- Kinds that describe source text; without an argument their message reads `None`. -/
def isSyntax : StandardError → Bool
  | .syntaxError | .indentationError | .tabError => true
  | _ => false

end StandardError

inductive ErrorCode where
  | invalidArgument
  | noSuchElement
  | invalidState
  deriving DecidableEq, Repr

namespace ErrorCode

def all : List ErrorCode := [.invalidArgument, .noSuchElement, .invalidState]

def name : ErrorCode → String
  | .invalidArgument => "INVALID_ARGUMENT"
  | .noSuchElement => "NO_SUCH_ELEMENT"
  | .invalidState => "INVALID_STATE"

def ofName? (s : String) : Option ErrorCode := all.find? fun c => c.name == s

end ErrorCode

inductive ContainerError where
  | optional
  | nullValue
  | noSuchElement
  | nullResult
  deriving DecidableEq, Repr

namespace ContainerError

def all : List ContainerError := [.optional, .nullValue, .noSuchElement, .nullResult]

def name : ContainerError → String
  | .optional => "OptionalError"
  | .nullValue => "NullValueError"
  | .noSuchElement => "NoSuchElementError"
  | .nullResult => "NullResultError"

def ofName? (s : String) : Option ContainerError := all.find? fun k => k.name == s

def code : ContainerError → ErrorCode
  | .optional | .nullValue => .invalidArgument
  | .noSuchElement => .noSuchElement
  | .nullResult => .invalidState

def defaultMessage : ContainerError → String
  | .optional => ""
  | .nullValue => "value must not be None"
  | .noSuchElement => "No value present"
  | .nullResult => "flat_map mapper returned None instead of an Optional"

/- The closest standard kind, so that handlers for that kind keep working. -/
def standard : ContainerError → StandardError
  | .optional => .exception
  | .nullValue => .typeError
  | .noSuchElement => .lookupError
  | .nullResult => .runtimeError

end ContainerError

inductive ErrorKind where
  | standard (kind : StandardError)
  | container (kind : ContainerError)
  | frozenInstance
  deriving DecidableEq, Repr

namespace ErrorKind

def name : ErrorKind → String
  | .standard k => k.name
  | .container k => k.name
  | .frozenInstance => "FrozenInstanceError"

def qualifier : ErrorKind → String
  | .standard _ => ""
  | .container _ => "presence.errors."
  | .frozenInstance => "dataclasses."

def ofName? (s : String) : Option ErrorKind :=
  match ContainerError.ofName? s with
  | some k => some (.container k)
  | none => (StandardError.ofName? s).map .standard

def isSyntax : ErrorKind → Bool
  | .standard k => k.isSyntax
  | _ => false

def code? : ErrorKind → Option ErrorCode
  | .container k => some k.code
  | _ => none

def includes (kind : ErrorKind) (k : ContainerError) : Bool :=
  match kind with
  | .container c => c == .optional || c == k
  | .standard s => s == .baseException || s == .exception || s == k.standard
  | .frozenInstance => false

end ErrorKind
end Perhaps
