import Perhaps.Program.Evaluation
import Perhaps.Proofs.Invocation

/-! What escapes when an empty container is asked to throw. Whatever the supplier does, the call ends in an error: the
supplier's own, the one that its answer stands for, or the refusal of an answer that stands for none. The
container logs only the refusal of absence. -/
namespace Perhaps

namespace Method

variable {σ : Type}

/- The error that a supplier's answer stands for, and what the container logs of its own before it escapes. -/
inductive Escapes : Value → Fault → List Logging.Record → Prop where
  | error (kind : ErrorKind) (args : List Value) (o : Occurrence) : Escapes (.error kind args o) ⟨kind, args⟩ []
  | built {kind : ErrorKind} {f : Fault} (built : kind.build [] = .ok f) : Escapes (.errorClass kind) f []
  | unbuilt {kind : ErrorKind} {f : Fault} (refused : kind.build [] = .error f) : Escapes (.errorClass kind) f []
  | absence : Escapes .absent ⟨.container .nullValue, [.str "exception_supplier returned None"]⟩
      [Container.refusal .invalidArgument "exception_supplier returned None"]
  | other {a : Value} (noError : ∀ kind args o, a ≠ .error kind args o) (noClass : ∀ kind, a ≠ .errorClass kind)
      (there : a ≠ .absent) :
      Escapes a ⟨.standard .typeError, [.str "exceptions must derive from BaseException"]⟩ []

namespace Escapes

variable {a : Value} {f : Fault} {log : List Logging.Record}

theorem total (a : Value) : ∃ f log, Escapes a f log := by
  cases a with
  | error kind args o => exact ⟨_, _, .error kind args o⟩
  | absent => exact ⟨_, _, .absence⟩
  | errorClass kind =>
    cases made : kind.build [] with
    | ok f => exact ⟨f, [], .built made⟩
    | error f => exact ⟨f, [], .unbuilt made⟩
  | _ => exact ⟨_, _, .other (by simp) (by simp) (by simp)⟩

theorem loggedIff (escapes : Escapes a f log) : log ≠ [] ↔ a = .absent := by
  cases escapes with
  | absence => simp
  | error kind args o => simp
  | built made | unbuilt made => simp
  | other noError noClass there => simp [there]

theorem raises (escapes : Escapes a f log) (w : σ) :
    Container.raiseValue a w = (⟨.error f, [], log, w⟩ : Outcome σ Value) := by
  cases escapes with
  | error kind args o => rfl
  | absence => rfl
  | built made | unbuilt made =>
    simp only [Container.raiseValue, made]
    rfl
  | other noError noClass there =>
    cases a with
    | error kind args o => exact absurd rfl (noError kind args o)
    | errorClass kind => exact absurd rfl (noClass kind)
    | absent => contradiction
    | _ => rfl

end Escapes

variable {v : Value} {c : Callback σ} {w : σ}

theorem throwSupplied (h : v.container? = some none) (given : c.isAbsent = false) :
    orElseThrow.perform v c = c.call [] >>= Container.raiseValue :=
  performTriggered orElseThrow h given rfl

theorem supplierRaises (h : v.container? = some none) (given : c.isAbsent = false) {e : Fault}
    (called : (c.call [] w).result = .error e) : orElseThrow.perform v c w = c.call [] w := by
  rw [throwSupplied h given, Run.bindError called, ← called]

theorem supplierAnswers (h : v.container? = some none) (given : c.isAbsent = false) {a : Value}
    (called : (c.call [] w).result = .ok a) {f : Fault} {log : List Logging.Record} (escapes : Escapes a f log) :
    orElseThrow.perform v c w =
      ⟨.error f, (c.call [] w).calls, (c.call [] w).log ++ log, (c.call [] w).world⟩ := by
  rw [throwSupplied h given, Run.bindOk called, escapes.raises, List.append_nil]

theorem throwNeverReturns (h : v.container? = some none) (c : Callback σ) (w : σ) :
    ∃ e, (orElseThrow.perform v c w).result = .error e := by
  cases absent : c.isAbsent with
  | true =>
    rw [performAbsent orElseThrow h absent rfl]
    exact ⟨_, rfl⟩
  | false =>
    cases called : (c.call [] w).result with
    | error e => exact ⟨e, by rw [supplierRaises h absent called, called]⟩
    | ok a =>
      obtain ⟨f, log, escapes⟩ := Escapes.total a
      exact ⟨f, by rw [supplierAnswers h absent called escapes]⟩

def builder (kind : ErrorKind) : Callback σ := .function fun _ => Fault.value <$> Run.ofExcept (kind.build [])

theorem builderCallback (kind : ErrorKind) (ρ : Program.Registers) :
    ((Program.Expr.error kind none).callback ρ : Run σ (Callback σ)) = pure (builder kind) := by
  rw [Program.Expr.callback]
  rfl

theorem classAsBuilder (v : Value) (kind : ErrorKind) :
    (orElseThrow.perform v (.value (.errorClass kind)) : Run σ Value) = orElseThrow.perform v (builder kind) := by
  cases h : v.container? with
  | none => rw [performElsewhere orElseThrow h, performElsewhere orElseThrow h]
  | some o =>
    cases o with
    | none =>
      rw [throwSupplied h rfl, throwSupplied h rfl]
      rfl
    | some payload =>
      rw [performUntouched orElseThrow h (.inl rfl) rfl, performUntouched orElseThrow h (.inl rfl) rfl]

def handing (body : List Value → Run σ Fault) (o : Occurrence) : Callback σ :=
  .function fun args => do
    let f ← body args
    pure (.error f.kind f.args o)

def raising (body : List Value → Run σ Fault) : Callback σ :=
  .function fun args => do
    let f ← body args
    Run.raise f

theorem handedIsRaised {o : Option Value} (h : v.container? = some o) (body : List Value → Run σ Fault)
    (occurrence : Occurrence) :
    orElseThrow.perform v (handing body occurrence) = orElseGet.perform v (raising body) := by
  cases o with
  | none =>
    have got : orElseGet.perform v (raising body) = (raising body).call [] >>= pure :=
      performTriggered orElseGet h rfl rfl
    rw [throwSupplied h rfl, got, bind_pure]
    show (body [] >>= fun f => pure (.error f.kind f.args occurrence)) >>= Container.raiseValue = _
    rw [bind_assoc]
    refine Run.bindCongr fun w f _ => ?_
    exact pure_bind _ _
  | some payload =>
    rw [performUntouched orElseThrow h (.inl rfl) rfl, performUntouched orElseGet h (.inl rfl) rfl]
    rfl

/- What an error has that its class builds from no arguments: the default message, if the class has one. -/
def bareArgs : ErrorKind → List Value
  | .container k => [.str k.defaultMessage]
  | _ => []

theorem someRequired {k : StandardError} {n : Nat} (required : k.requiredArguments = some n) : n ≠ 0 := by
  unfold StandardError.requiredArguments at required
  split at required <;> cases required <;> simp

theorem builtBareIff {kind : ErrorKind} {f : Fault} : kind.build [] = .ok f ↔
    (∀ k, kind = .standard k → k.requiredArguments = none) ∧ f = ⟨kind, bareArgs kind⟩ := by
  cases kind with
  | container k | frozenInstance => simp [ErrorKind.build, bareArgs, ContainerError.fault, eq_comm]
  | standard k =>
    cases required : k.requiredArguments with
    | none => simp [ErrorKind.build, required, bareArgs, eq_comm]
    | some n => simp [ErrorKind.build, required, (someRequired required).symm]

theorem emptyAlwaysThrows :
    (∀ v (c : Callback σ) w, v.container? = some none → ∃ e, (orElseThrow.perform v c w).result = .error e) ∧
    (∀ v (c : Callback σ) w e, v.container? = some none → c.isAbsent = false →
      (c.call [] w).result = .error e → orElseThrow.perform v c w = c.call [] w) ∧
    (∀ v (c : Callback σ) w a f log, v.container? = some none → c.isAbsent = false →
      (c.call [] w).result = .ok a → Escapes a f log → orElseThrow.perform v c w =
        ⟨.error f, (c.call [] w).calls, (c.call [] w).log ++ log, (c.call [] w).world⟩) ∧
    (∀ a, ∃ f log, Escapes a f log) ∧
    (∀ a f log, Escapes a f log → (log ≠ [] ↔ a = .absent)) ∧
    (∀ v (c : Callback σ) w, v.container? = some none → c.isAbsent = true → orElseThrow.perform v c w =
      ⟨.error (ContainerError.forArgument "exception_supplier"), [],
        [Container.refusal .invalidArgument "exception_supplier must not be None"], w⟩) ∧
    (∀ (kind : ErrorKind) f, kind.build [] = .ok f ↔
      (∀ k, kind = .standard k → k.requiredArguments = none) ∧ f = ⟨kind, bareArgs kind⟩) ∧
    (∀ v kind, (orElseThrow.perform v (.value (.errorClass kind)) : Run σ Value) =
      orElseThrow.perform v (builder kind)) ∧
    (∀ kind ρ, ((Program.Expr.error kind none).callback ρ : Run σ (Callback σ)) = pure (builder kind)) ∧
    (∀ v o (body : List Value → Run σ Fault) occurrence, v.container? = some o →
      orElseThrow.perform v (handing body occurrence) = orElseGet.perform v (raising body)) := by
  refine ⟨?fails, ?raised, ?answered, Escapes.total, fun _ _ _ => Escapes.loggedIff, ?missing, fun _ _ => builtBareIff,
    classAsBuilder, builderCallback, ?handed⟩
  case fails =>
    intro v c w h
    exact throwNeverReturns h c w
  case raised =>
    intro v c w e h given called
    exact supplierRaises h given called
  case answered =>
    intro v c w a f log h given called escapes
    exact supplierAnswers h given called escapes
  case missing =>
    intro v c w h absent
    rw [performAbsent orElseThrow h absent rfl]
    rfl
  case handed =>
    intro v o body occurrence h
    exact handedIsRaised h body occurrence

/- A supplier that answers with a container around an error, one whose own refusal is logged before its absence is,
and a class of the container's kinds. -/
theorem wrappedErrorNotThrown :
    (Escapes (.present (.error (.standard .keyError) [] none) none)
        ⟨.standard .typeError, [.str "exceptions must derive from BaseException"]⟩ [] ∧
      orElseThrow.perform .empty (.function fun _ => pure (.present (.error (.standard .keyError) [] none) none)) () =
        (⟨.error ⟨.standard .typeError, [.str "exceptions must derive from BaseException"]⟩, [], [], ()⟩ :
          Outcome Unit Value)) ∧
    (orElseThrow.perform .empty (.function fun _ => do
        Run.report (Container.refusal .noSuchElement "No value present")
        pure .absent) () =
      (⟨.error ⟨.container .nullValue, [.str "exception_supplier returned None"]⟩, [],
        [Container.refusal .noSuchElement "No value present",
          Container.refusal .invalidArgument "exception_supplier returned None"], ()⟩ : Outcome Unit Value)) ∧
    (orElseThrow.perform .empty (.value (.errorClass (.container .nullResult))) () =
      (⟨.error ⟨.container .nullResult, [.str "flat_map mapper returned None instead of an Optional"]⟩, [], [], ()⟩ :
        Outcome Unit Value)) := by
  obtain ⟨_, _, answered, _⟩ := emptyAlwaysThrows (σ := Unit)
  have other : Escapes (.present (.error (.standard .keyError) [] none) none)
      ⟨.standard .typeError, [.str "exceptions must derive from BaseException"]⟩ [] :=
    .other (by simp) (by simp) (by simp)
  exact ⟨⟨other, answered _ _ () _ _ _ rfl rfl rfl other⟩, answered _ _ () _ _ _ rfl rfl rfl .absence,
    answered _ _ () _ _ _ rfl rfl rfl (.error _ _ none)⟩

end Method
end Perhaps
