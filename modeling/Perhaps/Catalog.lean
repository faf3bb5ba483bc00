import Perhaps.Fault
import Perhaps.Value.Hash

/-! What the package offers by name: its exports, the codes of its errors, and the errors it builds on
request. -/
namespace Perhaps

namespace Package

def exports : List String :=
  [ "Optional", "Present", "Empty", "EMPTY", "ErrorCode", "OptionalError", "NullValueError",
    "NoSuchElementError", "NullResultError", "OptionalAssertions" ]

def version : String := "1.0.0"

end Package

namespace ErrorCode

def plain (c : ErrorCode) : String := String.join ["ErrorCode.", c.name]

def literal (c : ErrorCode) : String := "<" ++ c.plain ++ ": '" ++ c.name ++ "'>"

def ofKey? : Value → Option ErrorCode
  | .str s => ofName? s
  | _ => none

/- The code of a name; a key that cannot be looked up is refused as such. -/
def byName (key : Value) : Except Cause ErrorCode :=
  match key.hashCode, ofKey? key with
  | .error t, _ => .error (.unhashable t)
  | .ok _, some c => .ok c
  | .ok _, none => .error (.missingKey key)

def byValue (key : Value) : Except Cause ErrorCode :=
  match ofKey? key with
  | some c => .ok c
  | none => .error (.unknownCode key)

end ErrorCode

def ContainerError.forNamedArgument (kind : ContainerError) (argument : Value) : Except Cause Fault :=
  match kind with
  | .nullValue => .ok (ContainerError.forArgument argument.plainString)
  | k => .error (Cause.noMemberOf (.errorClass (.container k)) "for_argument")

end Perhaps
