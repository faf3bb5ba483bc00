import Perhaps.Program.Term
import Perhaps.Value.Order

/-! Programs over containers. A step applies one action to a subject; an action may take callbacks; a
callback is a plain value or a function put together from a small stock, which includes performing
an action of its own. -/
namespace Perhaps.Program

mutual

inductive Expr where
  | value (operand : Term)
  | const (operand : Term)
  | empty
  | raise (kind : ErrorKind) (message : Option String)
  | error (kind : ErrorKind) (message : Option String)
  | chain (first : Expr) (rest : List Expr)
  | cond (predicate consequence alternative : Expr)
  | identity
  | truthy
  | plain
  | literal
  | singleton
  | equals (operand : Term)
  | of
  | ofNullable
  | present
  | arithmetic (function : Arithmetic) (operand : Int)
  | length
  | readInt
  | concat (tail : String)
  | count (part : String)
  | entry (key : Term)
  | item (key : Term)
  | perform (on : Option Term) (action : Action)

inductive Action where
  | value (operand : Term)
  | empty
  | of (operand : Term)
  | ofNullable (operand : Term)
  | isPresent
  | isEmpty
  | get
  | truth
  | literal
  | plain
  | ifPresent (callback : Expr)
  | filter (callback : Expr)
  | map (callback : Expr)
  | flatMap (callback : Expr)
  | orElse (operand : Term)
  | orElseGet (callback : Expr)
  | orElseThrow (callback : Expr)
  | hash
  | equals (other : Term)
  | differs (other : Term)
  | equalsMethod (other : Term)
  | compare (relation : Relation) (other : Term)
  | classify
  | setField (field : String) (operand : Term)
  | deleteField (field : String)
  | distinct (operands : List Term)
  | assertPresent (message : Option Term)
  | assertEmpty (message : Option Term)
  | assertPresentValue (expected : Term)

end

/- An action with its subject; without one the subject is absence. -/
structure Step where
  on : Option Term
  action : Action

def Expr.name : Expr → String
  | .value _ => ""
  | .const _ => "const"
  | .empty => "empty"
  | .raise .. => "raise"
  | .error .. => "error"
  | .chain .. => "then"
  | .cond .. => "cond"
  | .identity => "id"
  | .truthy => "truthy"
  | .plain => "str"
  | .literal => "repr"
  | .singleton => "list1"
  | .equals _ => "eq"
  | .of => "of"
  | .ofNullable => "of_nullable"
  | .present => "present"
  | .arithmetic f _ => f.name
  | .length => "len"
  | .readInt => "int"
  | .concat _ => "concat"
  | .count _ => "count"
  | .entry _ => "get"
  | .item _ => "item"
  | .perform .. => "do"

end Perhaps.Program
