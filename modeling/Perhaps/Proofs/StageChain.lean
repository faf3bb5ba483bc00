import Perhaps.Proofs.Everywhere
import Perhaps.Proofs.Invocation

/-! Chains of transformations with a default at the end. A chain does what the program does that checks for
absence before every stage. Callbacks have whatever effects they like, and may enter their calls, so equal
runs make the same calls in the same order. Only containers around absence are left out, which nobody can
build. -/
namespace Perhaps

inductive Stage (σ : Type) where
  | map (mapper : List Value → Run σ Value)
  | filter (predicate : List Value → Run σ Value)
  | flatMap (mapper : List Value → Run σ Value)

namespace Stage

variable {σ : Type}

def method : Stage σ → Method
  | map _ => .map
  | filter _ => .filter
  | flatMap _ => .flatMap

def body : Stage σ → List Value → Run σ Value
  | map f | filter f | flatMap f => f

def chain (default : Value) : List (Stage σ) → Value → Run σ Value
  | [], v => do
    let o ← Container.access v "or_else"
    pure (Container.orElse o default)
  | s :: rest, v => do
    let next ← s.method.perform v (.function s.body)
    chain default rest next

def member : List (Stage σ) → String
  | [] => "or_else"
  | s :: _ => s.method.name

/- The same program with its checks written out, on a value that may be absent. What a flat map's callback
answers is opened here; if it is no container, the next member is missing and nothing more is called. -/
def checked (default : Value) : List (Stage σ) → Value → Run σ Value
  | [], .absent => pure default
  | [], x => pure x
  | _ :: rest, .absent => checked default rest .absent
  | map f :: rest, x => do
    let y ← f [x]
    checked default rest y
  | filter p :: rest, x => do
    let y ← p [x]
    checked default rest (if y.truth then x else .absent)
  | flatMap f :: rest, x => do
    let y ← f [x]
    match y with
    | .absent => Container.refuseDefault .nullResult
    | .empty => checked default rest .absent
    | .present z _ => checked default rest z
    | r => Run.fail (Cause.noMemberOf r (member rest))

/- No container around absence comes out of a callback whose container is taken over as it is. -/
def Solid : Stage σ → Prop
  | flatMap f => ∀ x w y, (f [x] w).result = .ok y → y.solid = true
  | map _ | filter _ => True

theorem checkedAbsent (default : Value) (s : Stage σ) (rest : List (Stage σ)) :
    checked default (s :: rest) .absent = checked default rest .absent := by
  cases s <;> rw [checked]

theorem checkedMap (default : Value) (f : List Value → Run σ Value) (rest : List (Stage σ)) {x : Value}
    (filled : x ≠ .absent) : checked default (map f :: rest) x = f [x] >>= checked default rest := by
  cases x <;> first | contradiction | rfl

theorem checkedFilter (default : Value) (p : List Value → Run σ Value) (rest : List (Stage σ)) {x : Value}
    (filled : x ≠ .absent) : checked default (filter p :: rest) x =
      p [x] >>= fun y => checked default rest (if y.truth then x else .absent) := by
  cases x <;> first | contradiction | rfl

theorem checkedFlatMap (default : Value) (f : List Value → Run σ Value) (rest : List (Stage σ)) {x : Value}
    (filled : x ≠ .absent) : checked default (flatMap f :: rest) x = f [x] >>= fun y =>
      match y with
      | .absent => Container.refuseDefault .nullResult
      | .empty => checked default rest .absent
      | .present z _ => checked default rest z
      | r => Run.fail (Cause.noMemberOf r (member rest)) := by
  cases x <;> first | contradiction | rfl

theorem chainNoContainer (default : Value) (stages : List (Stage σ)) {r : Value} (h : r.container? = none) :
    chain default stages r = Run.fail (Cause.noMemberOf r (member stages)) := by
  cases stages with
  | nil => simp only [chain, member, Container.access, h]; rfl
  | cons s rest => simp only [chain, member, Method.perform, Container.access, h]; rfl

def Agrees (default : Value) (stages : List (Stage σ)) : Prop :=
  ∀ (v : Value) (o : Option Value), v.container? = some o → v.solid = true →
    chain default stages v = checked default stages (.ofOption o)

theorem answerChecked {default : Value} {rest : List (Stage σ)} (agrees : Agrees default rest) (y : Value) :
    chain default rest (.ofContainer y.toOption) = checked default rest y := by
  have solid : (Value.ofContainer y.toOption).solid = true := by cases y <;> rfl
  rw [agrees _ _ (Value.containerOfContainer _) solid, Value.ofOptionToOption]

theorem emptyChecked {default : Value} {s : Stage σ} {rest : List (Stage σ)} (agrees : Agrees default rest)
    {v : Value} (h : v.container? = some none) :
    chain default (s :: rest) v = checked default (s :: rest) .absent := by
  have idle : s.method.triggered none = false := by cases s <;> rfl
  have untouched : s.method.untouched none = .empty := by cases s <;> rfl
  rw [chain, Method.performUntouched s.method h (.inl rfl) idle, pure_bind, untouched, checkedAbsent]
  exact agrees .empty none rfl rfl

theorem presentChecked {default : Value} {s : Stage σ} {rest : List (Stage σ)} (agrees : Agrees default rest)
    (solidStage : s.Solid) {v payload : Value} (h : v.container? = some (some payload))
    (solid : v.solid = true) : chain default (s :: rest) v = checked default (s :: rest) payload := by
  have filled := Value.payloadThere solid h
  have due : s.method.triggered (some payload) = true := by cases s <;> rfl
  have arguments : s.method.arguments (some payload) = [payload] := by cases s <;> rfl
  rw [chain, Method.performTriggered s.method h rfl due, bind_assoc, arguments, Callback.callFunction]
  cases s with
  | map f =>
    rw [checkedMap default f rest filled]
    refine Run.bindCongr fun w y _ => ?_
    show (pure (Value.ofContainer y.toOption) >>= chain default rest) = _
    rw [pure_bind, answerChecked agrees y]
  | filter f =>
    rw [checkedFilter default f rest filled]
    refine Run.bindCongr fun w y _ => ?_
    show (pure (if y.truth then v else .empty) >>= chain default rest) = _
    rw [pure_bind]
    cases y.truth with
    | true => exact agrees v (some payload) h solid
    | false => exact agrees .empty none rfl rfl
  | flatMap f =>
    rw [checkedFlatMap default f rest filled]
    refine Run.bindCongr fun w y answered => ?_
    -- The answer goes on as it is, so a container comes in that the chain did not build.
    cases y with
    | absent => rfl
    | empty => exact agrees .empty none rfl rfl
    | present z o => exact agrees (.present z o) (some z) rfl (solidStage payload w _ answered)
    | _ => exact chainNoContainer default rest rfl

theorem chainAgrees (default : Value) (stages : List (Stage σ)) (solids : ∀ s ∈ stages, s.Solid) :
    Agrees default stages := by
  induction stages with
  | nil =>
    intro v o h solid
    rw [chain, Method.accessContainer h, pure_bind]
    cases o with
    | none => rfl
    | some payload =>
      have filled := Value.payloadThere solid h
      cases payload <;> first | contradiction | rfl
  | cons s rest ih =>
    intro v o h solid
    have agrees := ih fun s hs => solids s (List.mem_cons_of_mem _ hs)
    cases o with
    | none => exact emptyChecked agrees h
    | some payload => exact presentChecked agrees (solids s List.mem_cons_self) h solid

theorem chainIsNestedChecks (default : Value) (stages : List (Stage σ)) (solids : ∀ s ∈ stages, s.Solid) :
    (∀ v o, v.container? = some o → v.solid = true →
      chain default stages v = checked default stages (.ofOption o)) ∧
    (∀ x, (Value.ofContainer <$> Container.ofNullable x >>= chain default stages) = checked default stages x) := by
  have agrees := chainAgrees default stages solids
  refine ⟨agrees, ?_⟩
  intro x
  show (pure (Value.ofContainer x.toOption) >>= chain default stages) = _
  rw [pure_bind, answerChecked agrees x]

theorem rawAnswerLacksNextMember :
    (∀ s ∈ ([.flatMap fun _ => pure (.int 1), .filter fun _ => pure (.bool true)] : List (Stage Unit)),
      s.Solid) ∧
    chain (.str "") [.flatMap fun _ => pure (.int 1), .filter fun _ => pure (.bool true)]
      (.present (.bool false) none) =
        (Run.fail (.noMember "'int' object" "filter") : Run Unit Value) := by
  have solids : ∀ s ∈ ([.flatMap fun _ => pure (.int 1), .filter fun _ => pure (.bool true)] :
      List (Stage Unit)), s.Solid := by
    intro s hs
    rcases List.mem_cons.mp hs with rfl | hs
    · intro x w y answered
      cases answered
      rfl
    · cases List.mem_singleton.mp hs
      trivial
  exact ⟨solids, ((chainIsNestedChecks (.str "") _ solids).1 (.present (.bool false) none)
    (some (.bool false)) rfl rfl).trans rfl⟩

end Stage
end Perhaps
