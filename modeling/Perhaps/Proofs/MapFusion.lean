import Perhaps.Proofs.ChainLaws

/-! A map and the method after it. Where the first callback answers absence the container is empty and nothing more is
called. Otherwise one map does the work of both, with every call and record in its place. -/
namespace Perhaps

theorem Value.ofContainerFilled {r : Value} (filled : r ≠ .absent) :
    ofContainer r.toOption = present r none := by
  cases r <;> first | contradiction | rfl

namespace Callback

variable {σ : Type}

def andThen (c : Callback σ) (next : Value → Run σ Value) : Callback σ :=
  .function fun args => do
    let r ← c.call args
    next r

/- Absence passes as it is, and only what is there goes on. -/
def unlessAbsent (next : Value → Run σ Value) : Value → Run σ Value
  | .absent => pure .absent
  | r => next r

def identity : Callback σ := .unary "id" pure

theorem identityCallback (ρ : Program.Registers) :
    (Program.Expr.identity.callback ρ : Run σ (Callback σ)) = pure identity := by
  rw [Program.Expr.callback]
  rfl

theorem unlessAbsentGiven (next : Value → Run σ Value) {r : Value} (filled : r ≠ .absent) :
    unlessAbsent next r = next r := by
  cases r <;> first | contradiction | rfl

theorem andThenFilled {c : Callback σ} {args : List Value} {w : σ} (next : Value → Run σ Value)
    (answers : (c.call args w).result ≠ .ok .absent) :
    (c.andThen (unlessAbsent next)).call args w = (c.andThen next).call args w := by
  show (c.call args >>= unlessAbsent next) w = (c.call args >>= next) w
  cases called : (c.call args w).result with
  | error e => rw [Run.bindError called, Run.bindError called]
  | ok r =>
    have filled : r ≠ .absent := by
      intro absent
      rw [absent] at called
      exact answers called
    rw [Run.bindOk called, Run.bindOk called, unlessAbsentGiven next filled]

end Callback

namespace Method

variable {σ : Type} {v payload : Value} {f g : Callback σ} {w : σ}

theorem performAgrees (m : Method) {o : Option Value} (h : v.container? = some o) {c d : Callback σ}
    (left : c.isAbsent = false) (right : d.isAbsent = false)
    (same : m.triggered o = true → c.call (m.arguments o) w = d.call (m.arguments o) w) :
    m.perform v c w = m.perform v d w := by
  cases due : m.triggered o with
  | false => rw [performUntouched m h (.inl left) due, performUntouched m h (.inl right) due]
  | true =>
    rw [performTriggered m h left due, performTriggered m h right due]
    simp only [bind, Run.bind, same due]

/- A map takes in the method after it, if that method does nothing on an empty container and on a filled one
ends like a map. -/
theorem mapAbsorbs (m : Method) {next : Value → Run σ Value} (given : f.isAbsent = false)
    (idle : m.perform .empty g = pure .empty)
    (ends : ∀ r, r ≠ .absent → m.perform (.present r none) g = next r >>= map.finish (.present r none)) (v : Value) :
    (map.perform v f >>= fun r => m.perform r g) = map.perform v (f.andThen (Callback.unlessAbsent next)) := by
  cases h : v.container? with
  | none => rw [performElsewhere map h, performElsewhere map h]; rfl
  | some o =>
    cases o with
    | none =>
      rw [performUntouched map h (.inl given) rfl, performUntouched map h (.inl rfl) rfl, pure_bind]
      exact idle
    | some payload =>
      rw [performTriggered map h given rfl, performTriggered map h rfl rfl, bind_assoc]
      show _ = (f.call [payload] >>= Callback.unlessAbsent next) >>= map.finish v
      rw [bind_assoc]
      refine Run.bindCongr fun w r _ => ?_
      show (pure (.ofContainer r.toOption) >>= fun r => m.perform r g) = _
      rw [pure_bind]
      by_cases absent : r = .absent
      · rw [absent]
        exact idle
      · rw [Callback.unlessAbsentGiven next absent, Value.ofContainerFilled absent]
        exact ends r absent

def mappedTwice (v : Value) (f g : Callback σ) : Run σ Value := do
  let r ← map.perform v f
  map.perform r g

def collapsed (f g : Callback σ) : Callback σ := f.andThen (Callback.unlessAbsent fun r => g.call [r])

theorem mappedCollapses (v : Value) (left : f.isAbsent = false) (right : g.isAbsent = false) :
    mappedTwice v f g = map.perform v (collapsed f g) := by
  refine mapAbsorbs map left (performUntouched map rfl (.inl right) rfl) (fun r _ => ?_) v
  have h : (Value.present r none).container? = some (some r) := rfl
  exact performTriggered map h right rfl

theorem mappedComposes {o : Option Value} (h : v.container? = some o) (left : f.isAbsent = false)
    (right : g.isAbsent = false) (answers : ∀ payload, o = some payload → (f.call [payload] w).result ≠ .ok .absent) :
    mappedTwice v f g w = map.perform v (f.andThen fun r => g.call [r]) w := by
  rw [mappedCollapses v left right]
  refine performAgrees map h rfl rfl fun due => ?_
  cases o with
  | none => contradiction
  | some payload => exact Callback.andThenFilled _ (answers payload rfl)

theorem mappedAbsence (h : v.container? = some (some payload)) (left : f.isAbsent = false)
    (right : g.isAbsent = false) (called : (f.call [payload] w).result = .ok .absent) :
    mappedTwice v f g w =
      ⟨.ok .empty, (f.call [payload] w).calls, (f.call [payload] w).log, (f.call [payload] w).world⟩ := by
  rw [mappedCollapses v left right, performTriggered map h rfl rfl]
  show ((f.call [payload] >>= Callback.unlessAbsent fun r => g.call [r]) >>= map.finish v) w = _
  rw [bind_assoc]
  exact Run.bindSettles called rfl

theorem mappedIdentity {o : Option Value} (h : v.container? = some o) (solid : v.solid = true) :
    map.perform v (Callback.identity : Callback σ) = pure (.ofContainer o) := by
  cases o with
  | none => exact performUntouched map h (.inl rfl) rfl
  | some payload =>
    rw [performTriggered map h rfl rfl]
    show (pure payload >>= map.finish v) = _
    rw [pure_bind]
    exact congrArg pure (Value.ofContainerFilled (Value.payloadThere solid h))

/- Two maps as one that stops at absence, the plain composition where there is none, the empty container where
there is, and the identity. -/
theorem mapFuses :
    (∀ v (f g : Callback σ), f.isAbsent = false → g.isAbsent = false →
      mappedTwice v f g = map.perform v (collapsed f g)) ∧
    (∀ v o (f g : Callback σ) w, v.container? = some o → f.isAbsent = false → g.isAbsent = false →
      (∀ payload, o = some payload → (f.call [payload] w).result ≠ .ok .absent) →
      mappedTwice v f g w = map.perform v (f.andThen fun r => g.call [r]) w) ∧
    (∀ v payload (f g : Callback σ) w, v.container? = some (some payload) → f.isAbsent = false →
      g.isAbsent = false → (f.call [payload] w).result = .ok .absent → mappedTwice v f g w =
        ⟨.ok .empty, (f.call [payload] w).calls, (f.call [payload] w).log, (f.call [payload] w).world⟩) ∧
    (∀ v o, v.container? = some o → v.solid = true →
      map.perform v (Callback.identity : Callback σ) = pure (.ofContainer o) ∧
        (Value.ofContainer o).container? = v.container?) ∧
    (∀ ρ, (Program.Expr.identity.callback ρ : Run σ (Callback σ)) = pure Callback.identity) := by
  refine ⟨?fused, ?composed, ?collapsed, ?identity, Callback.identityCallback⟩
  case fused =>
    intro v f g left right
    exact mappedCollapses v left right
  case composed =>
    intro v o f g w h left right answers
    exact mappedComposes h left right answers
  case collapsed =>
    intro v payload f g w h left right called
    exact mappedAbsence h left right called
  case identity =>
    intro v o h solid
    exact ⟨mappedIdentity h solid, by rw [Value.containerOfContainer, h]⟩

theorem secondMapNotCalled :
    (((Callback.function fun _ => pure .absent).recorded "first" : Callback Unit).isAbsent = false ∧
      mappedTwice (.present (.bool false) none) ((Callback.function fun _ => pure .absent).recorded "first")
        ((Callback.function fun _ => Run.fail .divisionByZero).recorded "second") () =
        (⟨.ok .empty, [⟨"first", [.bool false]⟩], [], ()⟩ : Outcome Unit Value)) ∧
    ((((Callback.function fun _ => pure (.str "")).recorded "first").call [.bool false] () :
        Outcome Unit Value).result ≠ .ok .absent ∧
      mappedTwice (.present (.bool false) none) ((Callback.function fun _ => pure (.str "")).recorded "first")
        ((Callback.function fun args => pure (.list args)).recorded "second") () =
        (⟨.ok (.present (.list [.str ""]) none), [⟨"first", [.bool false]⟩, ⟨"second", [.str ""]⟩], [], ()⟩ :
          Outcome Unit Value)) ∧
    ((Value.present .empty (some 3)).solid = true ∧
      map.perform (.present .empty (some 3)) (Callback.identity : Callback Unit) = pure (.present .empty none)) := by
  obtain ⟨_, composed, stopped, same, _⟩ := mapFuses (σ := Unit)
  have answers : (((Callback.function fun _ => pure (.str "")).recorded "first").call [.bool false] () :
      Outcome Unit Value).result ≠ .ok .absent := by
    intro absent
    cases absent
  refine ⟨⟨rfl, ?_⟩, ⟨answers, ?_⟩, rfl, (same _ (some .empty) rfl rfl).1⟩
  · exact stopped _ (.bool false) _ _ () rfl rfl rfl rfl
  · rw [composed _ (some (.bool false)) _ _ () rfl rfl rfl]
    · rfl
    · intro payload given
      cases given
      exact answers

end Method
end Perhaps
