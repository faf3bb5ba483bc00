import Perhaps.Program.Evaluation
import Perhaps.Proofs.Everywhere
import Perhaps.Proofs.Invocation

/-! Chained answers as a monad. Runs are compared whole, with results or errors, calls, records and whatever else the
callbacks change, and callbacks may enter their calls. The laws hold but for one case, a first callback that
answers absence: one form is refused for it, the other misses a member on it. -/
namespace Perhaps

namespace Method

variable {σ : Type}

def chained (v : Value) (f g : Callback σ) : Run σ Value := do
  let r ← flatMap.perform v f
  flatMap.perform r g

def composed (f g : Callback σ) : Callback σ :=
  .function fun args => do
    let r ← f.call args
    flatMap.perform r g

def factory : Callback σ := .unary "of" fun x => Value.ofContainer <$> Container.of x

theorem factoryCallback (ρ : Program.Registers) :
    (Program.Expr.of.callback ρ : Run σ (Callback σ)) = pure factory := by
  rw [Program.Expr.callback]
  rfl

/- What is left where a callback's answer is absence and is refused: its calls, and a record after its own. -/
def refusedAnswer (o : Outcome σ Value) : Outcome σ Value :=
  ⟨.error ⟨.container .nullResult, [.str "flat_map mapper returned None instead of an Optional"]⟩, o.calls,
    o.log ++ [Container.refusal .invalidState "flat_map mapper returned None instead of an Optional"], o.world⟩

/- What is left where the answer is absence and the next member is missed on it. -/
def missedMember (o : Outcome σ Value) : Outcome σ Value :=
  ⟨.error ⟨.standard .attributeError, [.str "'NoneType' object has no attribute 'flat_map'"]⟩, o.calls, o.log,
    o.world⟩

theorem finishGiven (v : Value) {r : Value} (given : r ≠ .absent) :
    (flatMap.finish v r : Run σ Value) = pure r := by
  cases r <;> first | contradiction | rfl

/- Chaining never answers absence, so its own answers pass once more. -/
theorem finishAgain (v r : Value) (g : Callback σ) :
    flatMap.perform r g >>= flatMap.finish v = flatMap.perform r g := by
  have again (a : Value) : (flatMap.finish r a >>= flatMap.finish v : Run σ Value) = flatMap.finish r a := by
    cases a <;> rfl
  obtain ⟨_, same⟩ | ⟨o, _, ⟨_, _, same⟩ | ⟨_, _, same⟩ | ⟨_, _, same⟩⟩ := performCases flatMap r g
  · rw [same]
    rfl
  · rw [same]
    rfl
  · rw [same, bind_assoc]
    simp only [again]
  · rw [same]
    rfl

variable {v payload : Value} {f g : Callback σ} {w : σ}

theorem chainedPresent (h : v.container? = some (some payload)) (given : f.isAbsent = false) :
    chained v f g = f.call [payload] >>= fun r => flatMap.finish v r >>= fun a => flatMap.perform a g := by
  rw [chained, performTriggered flatMap h given rfl, bind_assoc]
  rfl

theorem composedPresent (h : v.container? = some (some payload)) :
    flatMap.perform v (composed f g) = f.call [payload] >>= fun r => flatMap.perform r g := by
  rw [performTriggered flatMap h rfl rfl]
  show (f.call [payload] >>= fun r => flatMap.perform r g) >>= flatMap.finish v = _
  rw [bind_assoc]
  simp only [finishAgain]

theorem associativeEmpty (h : v.container? = some none) (left : f.isAbsent = false) (right : g.isAbsent = false) :
    chained v f g = flatMap.perform v (composed f g) := by
  rw [chained, performUntouched flatMap h (.inl left) rfl, performUntouched flatMap h (.inl rfl) rfl, pure_bind]
  exact performUntouched flatMap rfl (.inl right) rfl

theorem associativePresent (h : v.container? = some (some payload)) (given : f.isAbsent = false)
    (answers : (f.call [payload] w).result ≠ .ok .absent) :
    chained v f g w = flatMap.perform v (composed f g) w := by
  rw [chainedPresent h given, composedPresent h]
  cases called : (f.call [payload] w).result with
  | error e => rw [Run.bindError called, Run.bindError called]
  | ok r =>
    have filled : r ≠ .absent := by
      rintro rfl
      exact answers called
    rw [Run.bindOk called, Run.bindOk called, finishGiven v filled, pure_bind]

theorem absenceRefused {x : Run σ Value} (v : Value) (called : (x w).result = .ok .absent) :
    (x >>= flatMap.finish v) w = refusedAnswer (x w) := by
  have refused : flatMap.finish v .absent (x w).world =
      refusedAnswer (⟨.ok .absent, [], [], (x w).world⟩ : Outcome σ Value) := rfl
  rw [Run.bindOk called, refused]
  simp only [refusedAnswer, List.append_nil, List.nil_append]

theorem chainedAbsence (h : v.container? = some (some payload)) (given : f.isAbsent = false)
    (called : (f.call [payload] w).result = .ok .absent) :
    chained v f g w = refusedAnswer (f.call [payload] w) := by
  have first : flatMap.perform v f w = refusedAnswer (f.call [payload] w) :=
    (congrFun (performTriggered flatMap h given rfl) w).trans (absenceRefused v called)
  rw [chained, Run.bindError (congrArg Outcome.result first), first]
  rfl

theorem composedAbsence (h : v.container? = some (some payload))
    (called : (f.call [payload] w).result = .ok .absent) :
    flatMap.perform v (composed f g) w = missedMember (f.call [payload] w) := by
  have missed : flatMap.perform .absent g (f.call [payload] w).world =
      missedMember (⟨.ok .absent, [], [], (f.call [payload] w).world⟩ : Outcome σ Value) := rfl
  rw [composedPresent h, Run.bindOk called, missed]
  simp only [missedMember, List.append_nil]

theorem passed {x : Run σ Value} (v : Value) (answers : (x w).result ≠ .ok .absent) :
    (x >>= flatMap.finish v) w = x w := by
  cases called : (x w).result with
  | error e => rw [Run.bindError called, ← called]
  | ok r =>
    have filled : r ≠ .absent := by
      rintro rfl
      exact answers called
    rw [Run.bindOk called, finishGiven v filled]
    show (⟨.ok r, (x w).calls ++ [], (x w).log ++ [], (x w).world⟩ : Outcome σ Value) = x w
    rw [List.append_nil, List.append_nil, ← called]

theorem enclosed {v : Value} (filled : v ≠ .absent) :
    (Value.ofContainer <$> Container.of v : Run σ Value) = pure (.present v none) := by
  cases v <;> first | contradiction | rfl

theorem enclosedChain {v : Value} (filled : v ≠ .absent) (given : f.isAbsent = false) :
    ((Value.ofContainer <$> Container.of v) >>= fun c => flatMap.perform c f) =
      f.call [v] >>= flatMap.finish (.present v none) := by
  have h : (Value.present v none).container? = some (some v) := rfl
  rw [enclosed filled, pure_bind, performTriggered flatMap h given rfl]
  rfl

theorem chainedFactory {o : Option Value} (h : v.container? = some o) (solid : v.solid = true) :
    flatMap.perform v (factory : Callback σ) = pure (.ofContainer o) := by
  cases o with
  | none => exact performUntouched flatMap h (.inl rfl) rfl
  | some payload =>
    rw [performTriggered flatMap h rfl rfl]
    show (Value.ofContainer <$> Container.of payload) >>= flatMap.finish v = _
    rw [enclosed (Value.payloadThere solid h), pure_bind]
    rfl

theorem flatMapIsMonadic :
    (∀ v o (f g : Callback σ) w, v.container? = some o → f.isAbsent = false → g.isAbsent = false →
      (∀ payload, o = some payload → (f.call [payload] w).result ≠ .ok .absent) →
      chained v f g w = flatMap.perform v (composed f g) w) ∧
    (∀ v payload (f g : Callback σ) w, v.container? = some (some payload) → f.isAbsent = false →
      (f.call [payload] w).result = .ok .absent →
      chained v f g w = refusedAnswer (f.call [payload] w) ∧
      flatMap.perform v (composed f g) w = missedMember (f.call [payload] w)) ∧
    (∀ v (f : Callback σ) w, v ≠ .absent → f.isAbsent = false → (f.call [v] w).result ≠ .ok .absent →
      ((Value.ofContainer <$> Container.of v) >>= fun c => flatMap.perform c f) w = f.call [v] w) ∧
    (∀ v (f : Callback σ) w, v ≠ .absent → f.isAbsent = false → (f.call [v] w).result = .ok .absent →
      ((Value.ofContainer <$> Container.of v) >>= fun c => flatMap.perform c f) w =
        refusedAnswer (f.call [v] w)) ∧
    (∀ v o, v.container? = some o → v.solid = true →
      flatMap.perform v (factory : Callback σ) = pure (.ofContainer o) ∧
        (Value.ofContainer o).container? = v.container?) ∧
    (∀ ρ, (Program.Expr.of.callback ρ : Run σ (Callback σ)) = pure factory) := by
  refine ⟨?associative, ?exception, ?left, ?refused, ?right, factoryCallback⟩
  case associative =>
    intro v o f g w h left right answers
    cases o with
    | none => rw [associativeEmpty h left right]
    | some payload => exact associativePresent h left (answers payload rfl)
  case exception =>
    intro v payload f g w h given called
    exact ⟨chainedAbsence h given called, composedAbsence h called⟩
  case left =>
    intro v f w filled given answers
    rw [enclosedChain filled given]
    exact passed _ answers
  case refused =>
    intro v f w filled given called
    rw [enclosedChain filled given]
    exact absenceRefused _ called
  case right =>
    intro v o h solid
    exact ⟨chainedFactory h solid, by rw [Value.containerOfContainer, h]⟩

theorem rawAnswerAssociates :
    (((Callback.function fun _ => pure (.str "")).call [.int 1] () : Outcome Unit Value).result ≠ .ok .absent ∧
      chained (.present (.int 1) none) (.function fun _ => pure (.str "")) (.value (.bool false)) () =
        (⟨.error ⟨.standard .attributeError, [.str "'str' object has no attribute 'flat_map'"]⟩, [], [], ()⟩ :
          Outcome Unit Value)) ∧
    (((Callback.function fun _ => pure .absent).call [.int 1] () : Outcome Unit Value).result = .ok .absent ∧
      (chained (.present (.int 1) none) (.function fun _ => pure .absent) (.value (.bool false)) () :
        Outcome Unit Value).log.length = 1) ∧
    (Value.int 0 ≠ .absent ∧
      ((Value.ofContainer <$> Container.of (.int 0)) >>= fun c =>
        flatMap.perform c (.function fun _ => pure .empty)) () = (⟨.ok .empty, [], [], ()⟩ : Outcome Unit Value)) ∧
    ((Value.present (.list []) (some 3)).solid = true ∧
      flatMap.perform (.present (.list []) (some 3)) (factory : Callback Unit) =
        pure (.present (.list []) none)) := by
  obtain ⟨associative, exception, left, _, right, _⟩ := flatMapIsMonadic (σ := Unit)
  have raw : ((Callback.function fun _ => pure (.str "")).call [.int 1] () : Outcome Unit Value).result ≠
      .ok .absent := by
    rintro ⟨⟩
  refine ⟨⟨raw, ?_⟩, ⟨rfl, ?_⟩, ⟨Value.noConfusion, ?_⟩, rfl,
    (right (.present (.list []) (some 3)) (some (.list [])) rfl rfl).1⟩
  · rw [associative _ (some (.int 1)) _ _ () rfl rfl rfl]
    · rfl
    · rintro payload ⟨⟩
      exact raw
  · rw [(exception _ (.int 1) _ _ () rfl rfl rfl).1]
    rfl
  · rw [left (.int 0) _ () Value.noConfusion rfl (by rintro ⟨⟩)]
    rfl

end Method
end Perhaps
