import Perhaps.Run
import Perhaps.Value.Equality
import Perhaps.Value.Written

/-! The container operations. A container is an `Option Value` whose value is never absence: every way
in either refuses absence or turns it into the empty container. Callbacks are called at once, at
most once, and what they raise passes through; only refusals of the container's own are logged. -/
namespace Perhaps

/- What a caller can pass where a callback is expected: a plain value, which may be absent or no
function at all, or a function with whatever effects. -/
inductive Callback (σ : Type) where
  | value (v : Value)
  | function (body : List Value → Run σ Value)

def Value.call {σ : Type} (v : Value) (args : List Value) : Run σ Value :=
  match v with
  | .errorClass kind => Fault.value <$> Run.ofExcept (kind.build args)
  | v => Run.fail (.notCallable v.typeName)

namespace Callback

variable {σ : Type}

/- A function that enters its calls into the trace under a name. Plain values leave no trace. -/
def recorded (name : String) : Callback σ → Callback σ
  | value v => value v
  | function body => function fun args => do
    Run.enter ⟨name, args⟩
    body args

def unary (name : String) (f : Value → Run σ Value) : Callback σ :=
  function fun args =>
    match args with
    | [x] => f x
    | args => Run.fail (.wrongArity name args.length)

def call (c : Callback σ) (args : List Value) : Run σ Value :=
  match c with
  | value v => v.call args
  | function body => body args

def isAbsent : Callback σ → Bool
  | value .absent => true
  | _ => false

@[simp] theorem callFunction (body : List Value → Run σ Value) (args : List Value) :
    (function body).call args = body args := rfl

@[simp] theorem isAbsentFunction (body : List Value → Run σ Value) : (function body).isAbsent = false := rfl

@[simp] theorem isAbsentValue (v : Value) : (value v : Callback σ).isAbsent = true ↔ v = .absent := by
  cases v <;> simp [isAbsent]

@[simp] theorem recordedAbsent (name : String) (c : Callback σ) : (c.recorded name).isAbsent = c.isAbsent := by
  cases c <;> rfl

end Callback

namespace Container

variable {σ : Type}

def logger : String := "presence.optional"

def refusal (code : ErrorCode) (message : String) : Logging.Record :=
  ⟨Logging.LevelName.debug.number, logger, String.join ["Raising ", code.name, ": ", message]⟩

def refuse {α : Type} (kind : ContainerError) (message : String) : Run σ α := do
  Run.report (refusal kind.code message)
  Run.raise (kind.fault (.str message))

def refuseDefault {α : Type} (kind : ContainerError) : Run σ α := refuse kind kind.defaultMessage

def refuseArgument {α : Type} (argument : String) : Run σ α :=
  refuse .nullValue (argument ++ " must not be None")

def require (c : Callback σ) (argument : String) : Run σ Unit :=
  if c.isAbsent then refuseArgument argument else pure ()

def access (v : Value) (member : String) : Run σ (Option Value) :=
  match v.container? with
  | some o => pure o
  | none => Run.fail (Cause.noMemberOf v member)

def of : Value → Run σ (Option Value)
  | .absent => refuseArgument "value"
  | v => pure (some v)

def ofNullable (v : Value) : Run σ (Option Value) := pure v.toOption

def get : Option Value → Run σ Value
  | some v => pure v
  | none => refuseDefault .noSuchElement

def ifPresent (o : Option Value) (action : Callback σ) : Run σ Unit :=
  match o with
  | some v => do
    require action "action"
    let _ ← action.call [v]
    pure ()
  | none => pure ()

def filter (o : Option Value) (predicate : Callback σ) : Run σ (Option Value) := do
  require predicate "predicate"
  match o with
  | some v => do
    let answer ← predicate.call [v]
    pure (if answer.truth then some v else none)
  | none => pure none

def map (o : Option Value) (mapper : Callback σ) : Run σ (Option Value) := do
  require mapper "mapper"
  match o with
  | some v => do
    let result ← mapper.call [v]
    ofNullable result
  | none => pure none

/- Chains a function that answers with a container of its own. Its answer is returned as it is,
whatever it is, except that absence is refused. -/
def flatMap (o : Option Value) (mapper : Callback σ) : Run σ Value := do
  require mapper "mapper"
  match o with
  | some v => do
    match ← mapper.call [v] with
    | .absent => refuseDefault .nullResult
    | result => pure result
  | none => pure .empty

def orElse (o : Option Value) (default : Value) : Value := o.getD default

def orElseGet (o : Option Value) (supplier : Callback σ) : Run σ Value :=
  match o with
  | some v => pure v
  | none => do
    require supplier "supplier"
    supplier.call []

/- Raises what a supplier returned: an error, or the error that a class builds from no arguments. -/
def raiseValue : Value → Run σ Value
  | .error kind args _ => Run.raise ⟨kind, args⟩
  | .errorClass kind => do
    let f ← Run.ofExcept (kind.build [])
    Run.raise f
  | .absent => refuse .nullValue "exception_supplier returned None"
  | _ => Run.fail .notAnError

def orElseThrow (o : Option Value) (supplier : Callback σ) : Run σ Value :=
  match o with
  | some v => pure v
  | none => do
    require supplier "exception_supplier"
    let error ← supplier.call []
    raiseValue error

end Container
end Perhaps
