import Perhaps.Value
import Perhaps.Text.Quoted

/-! The written forms of values: the literal form, in which text is quoted, and the plain form, in which
text is itself and an error is its message. -/
namespace Perhaps

def word (s : String) : List Char := s.toList

def commaSeparated : List (List Char) → List Char
  | [] => []
  | [p] => p
  | p :: ps => p ++ ',' :: ' ' :: commaSeparated ps

def parenthesized : List (List Char) → List Char
  | [p] => '(' :: p ++ [',', ')']
  | ps => '(' :: commaSeparated ps ++ [')']

def errorLiteral (kind : ErrorKind) (args : List (List Char)) : List Char :=
  kind.name.toList ++
    match kind.code?, args with
    | some code, [message] => '(' :: code.name.toList ++ ':' :: ' ' :: message ++ [')']
    | _, args => '(' :: commaSeparated args ++ [')']

def classLiteral (kind : ErrorKind) : List Char :=
  word "<class '" ++ kind.qualifier.toList ++ kind.name.toList ++ word "'>"

namespace Value

mutual

def literal : Value → List Char
  | absent => word "None"
  | bool b => if b then word "True" else word "False"
  | int n => decimalInt n
  | float x => x.text
  | str s => Text.quoted s.toList
  | bytes bs => Text.quotedBytes bs
  | list items => '[' :: commaSeparated (literals items) ++ [']']
  | tuple items => parenthesized (literals items)
  | dict entries => '\x7b' :: commaSeparated (entryLiterals entries) ++ ['\x7d']
  | empty => word "Optional.empty"
  | present payload _ => word "Optional[" ++ payload.literal ++ [']']
  | error kind args _ => errorLiteral kind (literals args)
  | errorClass kind => classLiteral kind
  | notImplemented => word "NotImplemented"

def literals : List Value → List (List Char)
  | [] => []
  | v :: vs => v.literal :: literals vs

def entryLiterals : List (Value × Value) → List (List Char)
  | [] => []
  | (k, v) :: es => (k.literal ++ ':' :: ' ' :: v.literal) :: entryLiterals es

end

/- The plain form. An error with one argument has that argument's plain form for its message, a
missing key its literal form; an error without arguments has an empty message, or that of no text. -/
def plain : Value → List Char
  | str s => s.toList
  | error kind [] _ => if kind.isSyntax then word "None" else []
  | error kind [a] _ => if kind = .standard .keyError then a.literal else a.plain
  | error _ args _ => parenthesized (literals args)
  | v => v.literal

def literalString (v : Value) : String := String.ofList v.literal

def plainString (v : Value) : String := String.ofList v.plain

end Value

def Fault.message (f : Fault) : String := f.value.plainString

end Perhaps
