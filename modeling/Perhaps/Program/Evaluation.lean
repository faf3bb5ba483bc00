import Perhaps.Program.Syntax
import Perhaps.Container.Assertion
import Perhaps.Container.Method

/-! What programs do. An action evaluates its operands, then asks its subject for the member it needs, and
only then calls anything. The calls of callbacks given to the container are entered into the trace;
the parts of a chain or a condition run without entering theirs. An action inside a callback evaluates
its operands when the callback is called. -/
namespace Perhaps

/- A callback whose calls a session records. What is recorded is written down, so that a call with arguments that
cannot be written is an error and not entered; the container asks nothing of the kind. -/
def Callback.traced {σ : Type} (name : String) : Callback σ → Callback σ
  | value v => value v
  | function body => function fun args => do
    let _ ← Run.attempt (Value.list args).writable
    ((function body).recorded name).call args

namespace Program

variable {σ : Type}

def hashValue (v : Value) : Run σ Value := do
  match ← Run.ofExcept v.hashCode? with
  | .number n => pure (.int n)
  | .other => pure (.str "payload")

/- What a value's own comparison says about another one, as a value. A class has the comparison of its
instances, which lacks the value to compare with. -/
def comparisonValue (subject other : Value) : Except Cause Value :=
  match subject, subject.ownEquals other with
  | .errorClass _, _ => .error .unboundComparison
  | _, some b => .ok (.bool b)
  | _, none => .ok .notImplemented

def classify (v : Value) : Value :=
  match v.container? with
  | some (some payload) => .list [.str "present", payload]
  | some none => .list [.str "empty"]
  | none => .list [.str "other"]

def changeField (subject : Value) (verb field : String) : Cause :=
  match subject with
  | .present .. => if field = "_value" then .frozenField verb field else .foreignField
  | .empty => .foreignField
  | v => Cause.noMemberOf v field

variable (ρ : Registers)

mutual

/- The callback that an expression stands for; its own calls are not entered. -/
def Expr.callback : Expr → Run σ (Callback σ)
  | .value t => .value <$> t.value ρ
  | .const t => do
    let v ← t.value ρ
    pure (.function fun _ => pure v)
  | .empty => pure (.function fun _ => pure .empty)
  | .raise kind message => pure (.function fun _ => do
    let f ← Run.ofExcept (kind.buildWithMessage message)
    Run.raise f)
  | .error kind message =>
    pure (.function fun _ => Fault.value <$> Run.ofExcept (kind.buildWithMessage message))
  | .chain first rest => do
    let f ← first.callback
    let fs ← callbacks rest
    pure (.function fun args => do
      let v ← f.call args
      fs.foldlM (fun v g => g.call [v]) v)
  | .cond p c a => do
    let predicate ← p.callback
    let consequence ← c.callback
    let alternative ← a.callback
    pure (.function fun args => do
      let answer ← predicate.call args
      if answer.truth then consequence.call args else alternative.call args)
  | .identity => pure (.unary "id" pure)
  | .truthy => pure (.unary "truthy" fun x => pure (.bool x.truth))
  | .plain => pure (.unary "str" fun x => Value.str <$> Run.attempt (x.written Value.plainString))
  | .literal => pure (.unary "repr" fun x => Value.str <$> Run.attempt (x.written Value.literalString))
  | .singleton => pure (.unary "list1" fun x => pure (.list [x]))
  | .equals t => do
    let v ← t.value ρ
    pure (.unary "eq" fun x => pure (.bool (x.same v)))
  | .of => pure (.unary "of" fun x => Value.ofContainer <$> Container.of x)
  | .ofNullable => pure (.unary "of_nullable" fun x => Value.ofContainer <$> Container.ofNullable x)
  | .present => pure (.unary "present" fun x => Value.ofContainer <$> Container.of x)
  | .arithmetic f n => pure (.unary f.name fun x => Run.attempt (f.apply n x))
  | .length => pure (.unary "len" fun x => Run.attempt (length x))
  | .readInt => pure (.unary "int" fun x => Run.attempt (readInt x))
  | .concat s => pure (.unary "concat" fun x => Run.attempt (concat s x))
  | .count s => pure (.unary "count" fun x => Run.attempt (count s x))
  | .entry t => do
    let key ← t.value ρ
    pure (.unary "get" fun x => Run.attempt (entry key x))
  | .item t => do
    let key ← t.value ρ
    pure (.unary "item" fun x => Run.attempt (item key x))
  | .perform on action => pure (.unary "do" fun x => do
    let subject ← Term.valueOr ρ x on
    action.run subject)

def callbacks : List Expr → Run σ (List (Callback σ))
  | [] => pure []
  | e :: es => do
    let f ← e.callback
    let fs ← callbacks es
    pure (f :: fs)

def Action.run : Action → Value → Run σ Value
  | .value t, _ => t.value ρ
  | .empty, _ => pure .empty
  | .of t, _ => do
    let v ← t.value ρ
    Value.ofContainer <$> Container.of v
  | .ofNullable t, _ => do
    let v ← t.value ρ
    Value.ofContainer <$> Container.ofNullable v
  | .isPresent, s => do
    let o ← Container.access s "is_present"
    pure (.bool o.isSome)
  | .isEmpty, s => do
    let o ← Container.access s "is_empty"
    pure (.bool o.isNone)
  | .get, .dict _ => Run.fail (.missingArgument "get")
  | .get, s => do
    let o ← Container.access s "get"
    Container.get o
  | .truth, s => pure (.bool s.truth)
  | .literal, s => Value.str <$> Run.attempt (s.written Value.literalString)
  | .plain, s => Value.str <$> Run.attempt (s.written Value.plainString)
  | .ifPresent e, s => do
    let f ← e.callback
    Method.ifPresent.perform s (f.traced e.name)
  | .filter e, s => do
    let f ← e.callback
    Method.filter.perform s (f.traced e.name)
  | .map e, s => do
    let f ← e.callback
    Method.map.perform s (f.traced e.name)
  | .flatMap e, s => do
    let f ← e.callback
    Method.flatMap.perform s (f.traced e.name)
  | .orElse t, s => do
    let default ← t.value ρ
    let o ← Container.access s "or_else"
    pure (Container.orElse o default)
  | .orElseGet e, s => do
    let f ← e.callback
    Method.orElseGet.perform s (f.traced e.name)
  | .orElseThrow e, s => do
    let f ← e.callback
    Method.orElseThrow.perform s (f.traced e.name)
  | .hash, s => hashValue s
  | .equals t, s => do
    let v ← t.value ρ
    pure (.bool (s.same v))
  | .differs t, s => do
    let v ← t.value ρ
    pure (.bool (!s.same v))
  | .equalsMethod t, s => do
    let v ← t.value ρ
    Run.attempt (comparisonValue s v)
  | .compare r t, s => do
    let v ← t.value ρ
    Value.bool <$> Run.attempt (s.ordered r v)
  | .classify, s => pure (classify s)
  | .setField field t, s => do
    let _ ← t.value ρ
    Run.fail (changeField s "assign to" field)
  | .deleteField field, s => Run.fail (changeField s "delete" field)
  | .distinct ts, _ => do
    let vs ← Term.values ρ ts
    Value.list <$> Run.ofExcept (Value.distinct vs)
  | .assertPresent t, s => do
    let message ← Term.valueOr ρ (.str "") t
    Assertion.present s message
  | .assertEmpty t, s => do
    let message ← Term.valueOr ρ (.str "") t
    Assertion.empty s message
    pure .absent
  | .assertPresentValue t, s => do
    let expected ← t.value ρ
    Assertion.presentValue s expected
    pure .absent

end

def Step.run (s : Step) : Run σ Value := do
  let subject ← Term.valueOr ρ .absent s.on
  s.action.run ρ subject

end Program
end Perhaps
