import Perhaps.Container.Method

/-! When a method calls its callback, with which arguments, and what it makes of the answer. Everything a
method does is one equation over these, and the laws of invocation are read off it. -/
namespace Perhaps

namespace Method

variable {σ : Type}

def argument : Method → String
  | ifPresent => "action"
  | filter => "predicate"
  | map | flatMap => "mapper"
  | orElseGet => "supplier"
  | orElseThrow => "exception_supplier"

def eager : Method → Bool
  | filter | map | flatMap => true
  | ifPresent | orElseGet | orElseThrow => false

def triggered (m : Method) (o : Option Value) : Bool :=
  match m with
  | ifPresent | filter | map | flatMap => o.isSome
  | orElseGet | orElseThrow => o.isNone

def arguments (m : Method) (o : Option Value) : List Value :=
  match m with
  | ifPresent | filter | map | flatMap => o.toList
  | orElseGet | orElseThrow => []

def finish (m : Method) (container answer : Value) : Run σ Value :=
  match m with
  | ifPresent => pure .absent
  | filter => pure (if answer.truth then container else .empty)
  | map => pure (.ofContainer answer.toOption)
  | flatMap =>
    match answer with
    | .absent => Container.refuseDefault .nullResult
    | v => pure v
  | orElseGet => pure answer
  | orElseThrow => Container.raiseValue answer

def untouched (m : Method) (o : Option Value) : Value :=
  match m with
  | ifPresent => .absent
  | filter | map | flatMap => .empty
  | orElseGet | orElseThrow => .ofOption o

theorem accessContainer {v : Value} {o : Option Value} (h : v.container? = some o) (member : String) :
    (Container.access v member : Run σ (Option Value)) = pure o := by
  simp only [Container.access, h]

theorem requireAbsent {c : Callback σ} (absent : c.isAbsent = true) (argument : String) :
    Container.require c argument = Container.refuseArgument argument := by
  simp only [Container.require, absent, if_true]

theorem requireGiven {c : Callback σ} (given : c.isAbsent = false) (argument : String) :
    Container.require c argument = pure () := by
  simp only [Container.require, given, Bool.false_eq_true, if_false]

theorem performContainer (m : Method) {v : Value} {o : Option Value} (h : v.container? = some o)
    (c : Callback σ) : m.perform v c = m.answer v o c := by
  rw [perform, accessContainer h, pure_bind]

theorem performElsewhere (m : Method) {v : Value} (h : v.container? = none) (c : Callback σ) :
    m.perform v c = Run.fail (Cause.noMemberOf v m.name) := by
  simp only [perform, Container.access, h]
  rfl

theorem performAbsent (m : Method) {v : Value} {o : Option Value} (h : v.container? = some o)
    {c : Callback σ} (absent : c.isAbsent = true) (due : (m.eager || m.triggered o) = true) :
    m.perform v c = Container.refuseArgument m.argument := by
  rw [performContainer m h]
  cases m <;> cases o <;> try contradiction
  all_goals
    simp only [answer, Container.ifPresent, Container.filter, Container.map, Container.flatMap,
      Container.orElseGet, Container.orElseThrow, requireAbsent absent, argument]
    rfl

theorem performTriggered (m : Method) {v : Value} {o : Option Value} (h : v.container? = some o)
    {c : Callback σ} (given : c.isAbsent = false) (due : m.triggered o = true) :
    m.perform v c = c.call (m.arguments o) >>= m.finish v := by
  rw [performContainer m h]
  cases m <;> cases o <;> try contradiction
  case ifPresent.some payload =>
    simp only [answer, Container.ifPresent, requireGiven given, pure_bind, bind_assoc]
    rfl
  case filter.some payload =>
    have kept (r : Value) : (if r.truth then some payload else none).isSome = r.truth := by
      cases r.truth <;> rfl
    simp only [answer, Container.filter, requireGiven given, pure_bind, bind_assoc, kept]
    rfl
  case map.some payload =>
    simp only [answer, Container.map, Container.ofNullable, requireGiven given, pure_bind, map_bind, map_pure]
    rfl
  case flatMap.some payload =>
    simp only [answer, Container.flatMap, requireGiven given, pure_bind]
    rfl
  case orElseGet.none =>
    simp only [answer, Container.orElseGet, requireGiven given, pure_bind]
    exact (bind_pure _).symm
  case orElseThrow.none =>
    simp only [answer, Container.orElseThrow, requireGiven given, pure_bind]
    rfl

theorem performUntouched (m : Method) {v : Value} {o : Option Value} (h : v.container? = some o)
    {c : Callback σ} (given : c.isAbsent = false ∨ m.eager = false) (idle : m.triggered o = false) :
    m.perform v c = pure (m.untouched o) := by
  rw [performContainer m h]
  cases m <;> cases o <;> try contradiction
  case filter.none | map.none | flatMap.none =>
    have given : c.isAbsent = false := by simpa [eager] using given
    simp only [answer, Container.filter, Container.map, Container.flatMap, requireGiven given, pure_bind]
    rfl
  all_goals rfl

/- Everything that a method can do with a value and a callback. -/
theorem performCases (m : Method) (v : Value) (c : Callback σ) :
    (v.container? = none ∧ m.perform v c = Run.fail (Cause.noMemberOf v m.name)) ∨
    ∃ o, v.container? = some o ∧
      ((c.isAbsent = true ∧ (m.eager || m.triggered o) = true ∧
          m.perform v c = Container.refuseArgument m.argument) ∨
       (c.isAbsent = false ∧ m.triggered o = true ∧ m.perform v c = c.call (m.arguments o) >>= m.finish v) ∨
       ((c.isAbsent = false ∨ m.eager = false) ∧ m.triggered o = false ∧
          m.perform v c = pure (m.untouched o))) := by
  cases h : v.container? with
  | none =>
    exact .inl ⟨rfl, performElsewhere m h c⟩
  | some o =>
    refine .inr ⟨o, rfl, ?_⟩
    cases absent : c.isAbsent <;> cases due : m.triggered o <;> cases eager : m.eager
    case true.false.false => exact .inr (.inr ⟨.inr rfl, rfl, performUntouched m h (.inr eager) due⟩)
    case true.false.true | true.true.false | true.true.true =>
      exact .inl ⟨rfl, rfl, performAbsent m h absent (by simp [due, eager])⟩
    case false.false.false | false.false.true =>
      exact .inr (.inr ⟨.inl rfl, rfl, performUntouched m h (.inl absent) due⟩)
    case false.true.false | false.true.true =>
      exact .inr (.inl ⟨rfl, rfl, performTriggered m h absent due⟩)

theorem finishQuiet (m : Method) (v r : Value) (w : σ) :
    (m.finish v r w).calls = [] ∧ (m.finish v r w).world = w := by
  cases m with
  | ifPresent | filter | map | orElseGet => exact ⟨rfl, rfl⟩
  | flatMap => cases r <;> exact ⟨rfl, rfl⟩
  | orElseThrow =>
    cases r with
    | errorClass kind =>
      cases built : kind.build [] <;> simp only [finish, Container.raiseValue, built] <;> exact ⟨rfl, rfl⟩
    | _ => exact ⟨rfl, rfl⟩

theorem performCalls (m : Method) {v : Value} {o : Option Value} (h : v.container? = some o)
    {c : Callback σ} (given : c.isAbsent = false) (due : m.triggered o = true) (w : σ) :
    (m.perform v c w).calls = (c.call (m.arguments o) w).calls ∧
      (m.perform v c w).world = (c.call (m.arguments o) w).world := by
  rw [performTriggered m h given due]
  cases called : (c.call (m.arguments o) w).result with
  | error f => rw [Run.bindError called]; exact ⟨rfl, rfl⟩
  | ok r =>
    rw [Run.bindOk called]
    have quiet := finishQuiet m v r (c.call (m.arguments o) w).world
    simp only [quiet.1, quiet.2, List.append_nil, and_self]

theorem recordedCalls (name : String) (body : List Value → Run σ Value) (args : List Value) (w : σ) :
    (((Callback.function body).recorded name).call args w).calls = ⟨name, args⟩ :: (body args w).calls := by
  have entered : ((Run.enter ⟨name, args⟩ : Run σ Unit) w).result = .ok () := rfl
  show ((Run.enter ⟨name, args⟩ >>= fun _ => body args) w).calls = _
  rw [Run.bindOk entered]
  rfl

/- The refusal of an absent callback, raised before anything is called. -/
def Refused (m : Method) (outcome : Outcome σ Value) : Prop :=
  outcome.result = .error (ContainerError.forArgument m.argument) ∧ outcome.calls = []

theorem classBuilt {kind : ErrorKind} {args : List Value} {f : Fault} (built : kind.build args = .ok f) :
    ((Callback.value (.errorClass kind) : Callback σ).call args) = pure f.value := by
  simp only [Callback.call, Value.call, built]
  rfl

theorem classRefused {kind : ErrorKind} {args : List Value} {f : Fault} (refused : kind.build args = .error f) :
    ((Callback.value (.errorClass kind) : Callback σ).call args) = Run.raise f := by
  simp only [Callback.call, Value.call, refused]
  rfl

theorem classNotRefused (m : Method) {v : Value} {o : Option Value} (h : v.container? = some o)
    (kind : ErrorKind) (w : σ) : ¬ Refused m (m.perform v (.value (.errorClass kind)) w) := by
  intro refused
  cases due : m.triggered o with
  | false =>
    rw [performUntouched m h (.inl rfl) due] at refused
    cases refused.1
  | true =>
    rw [performTriggered m h rfl due] at refused
    cases built : kind.build (m.arguments o) with
    | error f =>
      obtain ⟨k, required, rfl⟩ := ErrorKind.buildRefused built
      rw [classRefused built, Run.raiseBind] at refused
      cases refused.1
    | ok f =>
      rw [classBuilt built, Run.pureBind] at refused
      cases m with
      | orElseThrow =>
        -- The class is its own supplier, and its default message names no argument.
        have same : f = ContainerError.forArgument "exception_supplier" := Except.error.inj refused.1
        have kinds := ErrorKind.buildKind built
        subst same
        cases kinds
        have text : ContainerError.nullValue.fault .absent = ContainerError.forArgument "exception_supplier" :=
          Except.ok.inj built
        simp [ContainerError.fault, ContainerError.forArgument, ContainerError.defaultMessage] at text
      | _ => cases refused.1

theorem plainNotCallable (m : Method) {v : Value} {o : Option Value} (h : v.container? = some o) {u : Value}
    (given : u ≠ .absent) (noClass : ∀ kind, u ≠ .errorClass kind) (due : m.triggered o = true) :
    m.perform v (.value u : Callback σ) = Run.fail (.notCallable u.typeName) := by
  have present : (Callback.value u : Callback σ).isAbsent = false := by
    cases u <;> first | rfl | contradiction
  have call : (Callback.value u : Callback σ).call (m.arguments o) = Run.fail (.notCallable u.typeName) := by
    cases u with
    | errorClass kind => exact absurd rfl (noClass kind)
    | _ => rfl
  rw [performTriggered m h present due, call]
  rfl

theorem refusedIff (m : Method) {v : Value} {o : Option Value} (h : v.container? = some o) (name : String)
    (c : Callback σ) (w : σ) : Refused m (m.perform v (c.recorded name) w) ↔
      c.isAbsent = true ∧ (m.eager || m.triggered o) = true := by
  constructor
  · intro refused
    cases due : m.triggered o with
    | false =>
      by_cases idle : c.isAbsent = false ∨ m.eager = false
      · rw [performUntouched m h (by rwa [Callback.recordedAbsent]) due] at refused
        cases refused.1
      · simpa using idle
    | true =>
      refine ⟨?_, by simp⟩
      cases c with
      | function body =>
        have calls := (performCalls m h (c := (Callback.function body).recorded name) rfl due w).1
        rw [refused.2, recordedCalls] at calls
        contradiction
      | value u =>
        cases u with
        | absent => rfl
        | errorClass kind => exact absurd refused (classNotRefused m h kind w)
        | _ =>
          simp only [Callback.recorded] at refused
          rw [plainNotCallable m h (by simp) (by simp) due] at refused
          cases refused.1
  · rintro ⟨absent, due⟩
    rw [performAbsent m h (by rwa [Callback.recordedAbsent]) due]
    exact ⟨rfl, rfl⟩

theorem calledExactlyWhenDue (m : Method) {v : Value} {o : Option Value} (h : v.container? = some o) :
    (∀ c : Callback σ, c.isAbsent = false → m.triggered o = true →
      m.perform v c = c.call (m.arguments o) >>= m.finish v ∧
      ∀ w, (m.perform v c w).calls = (c.call (m.arguments o) w).calls ∧
        (m.perform v c w).world = (c.call (m.arguments o) w).world) ∧
    (∀ name (body : List Value → Run σ Value) w,
      (m.perform v ((Callback.function body).recorded name) w).calls =
        if m.triggered o then ⟨name, m.arguments o⟩ :: (body (m.arguments o) w).calls else []) ∧
    (∀ u w, u ≠ .absent → (∀ kind, u ≠ .errorClass kind) → m.triggered o = true →
      m.perform v (.value u) w =
        (⟨.error ⟨.standard .typeError, [.str ("'" ++ u.typeName ++ "' object is not callable")]⟩, [], [], w⟩ :
          Outcome σ Value)) ∧
    (∀ name (c : Callback σ) w, Refused m (m.perform v (c.recorded name) w) ↔
      c.isAbsent = true ∧ (m.eager || m.triggered o) = true) ∧
    (∀ c : Callback σ, c.isAbsent = true → (m.eager || m.triggered o) = true → ∀ w, m.perform v c w =
      ⟨.error (ContainerError.forArgument m.argument), [],
        [Container.refusal .invalidArgument (m.argument ++ " must not be None")], w⟩) ∧
    (∀ c : Callback σ, c.isAbsent = true ↔ c = .value .absent) ∧
    (∀ c d : Callback σ, m.triggered o = false → (c.isAbsent = false ∨ m.eager = false) →
      (d.isAbsent = false ∨ m.eager = false) → m.perform v c = m.perform v d) := by
  refine ⟨?called, ?traced, ?plain, ?refused, ?outcome, ?missing, ?independent⟩
  case called =>
    intro c given due
    exact ⟨performTriggered m h given due, performCalls m h given due⟩
  case traced =>
    intro name body w
    cases due : m.triggered o with
    | true => rw [(performCalls m h rfl due w).1, recordedCalls]; rfl
    | false => rw [performUntouched m h (.inl rfl) due]; rfl
  case plain =>
    intro u w given noClass due
    rw [plainNotCallable m h given noClass due]
    rfl
  case refused =>
    intro name c w
    exact refusedIff m h name c w
  case outcome =>
    intro c absent due w
    rw [performAbsent m h absent due]
    rfl
  case missing =>
    intro c
    cases c <;> simp
  case independent =>
    intro c d idle left right
    rw [performUntouched m h left idle, performUntouched m h right idle]

theorem falsyPayloadPassedOnce :
    (Value.present (.int 0) none).container? = some (some (.int 0)) ∧
    (Method.map.perform (.present (.int 0) none)
      ((Callback.function fun _ => pure (.str "")).recorded "f") ()).calls = [⟨"f", [.int 0]⟩] := by
  have h : (Value.present (.int 0) none).container? = some (some (.int 0)) := rfl
  have law := (calledExactlyWhenDue Method.map h).2.1 "f" (fun _ => (pure (.str "") : Run Unit Value)) ()
  exact ⟨h, law⟩

end Method
end Perhaps
