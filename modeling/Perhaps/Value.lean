import Perhaps.ErrorKind
import Perhaps.Quantity

/-! The values that a container can hold and callbacks can pass around. A container is itself a value,
empty or present, so containers nest. A dictionary keeps its entries in order of insertion. An error is
its kind with the arguments it was built from, and like a present container an object. -/
namespace Perhaps

inductive Value where
  | absent
  | bool (b : Bool)
  | int (n : Int)
  | float (x : Double)
  | str (s : String)
  | bytes (bs : List UInt8)
  | list (items : List Value)
  | tuple (items : List Value)
  | dict (entries : List (Value × Value))
  | empty
  | present (payload : Value) (occurrence : Occurrence)
  | error (kind : ErrorKind) (args : List Value) (occurrence : Occurrence)
  | errorClass (kind : ErrorKind)
  | notImplemented
  deriving Inhabited

structure Fault where
  kind : ErrorKind
  args : List Value

namespace Fault

def value (f : Fault) : Value := .error f.kind f.args none

end Fault

namespace Value

def typeName : Value → String
  | absent => "NoneType"
  | bool _ => "bool"
  | int _ => "int"
  | float _ => "float"
  | str _ => "str"
  | bytes _ => "bytes"
  | list _ => "list"
  | tuple _ => "tuple"
  | dict _ => "dict"
  | empty => "Empty"
  | present .. => "Present"
  | error kind .. => kind.name
  | errorClass _ => "type"
  | notImplemented => "NotImplementedType"

def quantity? : Value → Option Quantity
  | bool b => some (.exact (.ofInt b.toNat))
  | int n => some (.exact (.ofInt n))
  | float x => some x.quantity
  | _ => none

/- The truth value that stands for a value in a condition. Absence, zeros, empty text, empty
collections and the empty container are false. -/
def truth : Value → Bool
  | absent => false
  | bool b => b
  | int n => n != 0
  | float (.zero _) => false
  | str s => s != ""
  | bytes bs => !bs.isEmpty
  | list items | tuple items => !items.isEmpty
  | dict entries => !entries.isEmpty
  | empty => false
  | _ => true

def container? : Value → Option (Option Value)
  | empty => some none
  | present v _ => some (some v)
  | _ => none

def ofContainer : Option Value → Value
  | none => empty
  | some v => present v none

theorem containerOfContainer (o : Option Value) : (ofContainer o).container? = some o := by
  cases o <;> rfl

theorem containerNoneIff {v : Value} : v.container? = some none ↔ v = empty := by
  cases v <;> simp [container?]

theorem containerSomeIff {v payload : Value} :
    v.container? = some (some payload) ↔ ∃ o, v = present payload o := by
  cases v <;> simp [container?]

def toOption : Value → Option Value
  | absent => none
  | v => some v

def ofOption : Option Value → Value
  | none => absent
  | some v => v

theorem ofOptionToOption (v : Value) : ofOption v.toOption = v := by cases v <;> rfl

end Value
end Perhaps
