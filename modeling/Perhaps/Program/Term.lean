import Perhaps.Container
import Perhaps.Program.Registers
import Perhaps.Program.Stock

/-! Operands as written: values, registers, and collections, containers and errors of them. Evaluating an
operand can fail like any other step: a container refuses absence, an error its arguments, a
dictionary a key without a hash. -/
namespace Perhaps.Program

inductive Term where
  | literal (v : Value)
  | numeral (text : String)
  | error (kind : ErrorKind) (message : Option String)
  | register (name : String)
  | list (items : List Term)
  | tuple (items : List Term)
  | dict (entries : List (Term × Term))
  | present (payload : Term)

namespace Term

variable {σ : Type} (ρ : Registers)

mutual

def value : Term → Run σ Value
  | literal v => pure v
  | numeral text => Run.attempt (readInt (.str text))
  | error kind message => Fault.value <$> Run.ofExcept (kind.buildWithMessage message)
  | register name =>
    match ρ.get? name with
    | some v => pure v
    | none => Run.fail (.missingKey (.str name))
  | list items => Value.list <$> values items
  | tuple items => Value.tuple <$> values items
  | dict entries => Value.dict <$> entryValues entries []
  | present payload => do
    let v ← payload.value
    Value.ofContainer <$> Container.of v

def values : List Term → Run σ (List Value)
  | [] => pure []
  | t :: ts => do
    let v ← t.value
    let vs ← values ts
    pure (v :: vs)

def entryValues : List (Term × Term) → List (Value × Value) → Run σ (List (Value × Value))
  | [], es => pure es
  | (k, t) :: ts, es => do
    let key ← k.value
    let v ← t.value
    let _ ← Run.ofExcept key.hashCode?
    entryValues ts (Value.insertEntry key v es)

end

def valueOr (default : Value) : Option Term → Run σ Value
  | some t => t.value ρ
  | none => pure default

def fieldValues : List (String × Term) → Run σ (List (String × Value))
  | [] => pure []
  | (name, t) :: ts => do
    let v ← t.value ρ
    let vs ← fieldValues ts
    pure ((name, v) :: vs)

end Term
end Perhaps.Program
