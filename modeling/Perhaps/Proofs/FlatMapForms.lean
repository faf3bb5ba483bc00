import Perhaps.Proofs.MapFusion
import Perhaps.Proofs.SoundSessions

/-! Map and filter as chained answers. A map chains the container of its callback's answer, a filter a container of
the payload or the empty one. The second form wraps the payload once more, which is never refused because no
container that a session comes to holds absence. -/
namespace Perhaps

/- The values that a condition takes for false. A present container is none of them, whatever it holds. -/
inductive Value.Falsy : Value → Prop where
  | absent : Falsy .absent
  | bool : Falsy (.bool false)
  | int : Falsy (.int 0)
  | float (negative : Bool) : Falsy (.float (.zero negative))
  | str : Falsy (.str "")
  | bytes : Falsy (.bytes [])
  | list : Falsy (.list [])
  | tuple : Falsy (.tuple [])
  | dict : Falsy (.dict [])
  | empty : Falsy .empty

theorem Value.falsyUntrue {v : Value} (falsy : v.Falsy) : v.truth = false := by
  cases falsy <;> simp [truth]

theorem Value.untrueFalsy {v : Value} (untrue : v.truth = false) : v.Falsy := by
  cases v with
  | absent => exact .absent
  | empty => exact .empty
  | bool b =>
    simp only [truth] at untrue
    subst b
    exact .bool
  | int n | str n =>
    simp only [truth, bne_eq_false_iff_eq] at untrue
    subst n
    constructor
  | float x =>
    cases x with
    | zero negative => exact .float negative
    | nan o | infinity negative | finite negative d => simp [truth] at untrue
  | bytes items | list items | tuple items | dict items =>
    simp only [truth, Bool.not_eq_false', List.isEmpty_iff] at untrue
    subst items
    constructor
  | present payload o | error kind args o | errorClass kind | notImplemented => simp [truth] at untrue

/- A run that ends as an inner one did, in the same error or in some answer, with nothing called, logged or
changed besides. -/
structure EndsAs {σ : Type} (inner outer : Outcome σ Value) : Prop where
  calls : outer.calls = inner.calls
  log : outer.log = inner.log
  world : outer.world = inner.world
  failed : ∀ f, outer.result = .error f ↔ inner.result = .error f

theorem endsAsSettled {σ : Type} (x : Run σ Value) (k : Value → Value) (w : σ) :
    EndsAs (x w) ((x >>= fun r => pure (k r)) w) := by
  cases called : (x w).result with
  | error e =>
    rw [Run.bindError called]
    exact ⟨rfl, rfl, rfl, fun f => by rw [called]⟩
  | ok r =>
    have settled : (x >>= fun r => pure (k r)) w = ⟨.ok (k r), (x w).calls, (x w).log, (x w).world⟩ :=
      Run.bindSettles called rfl
    rw [settled]
    refine ⟨rfl, rfl, rfl, fun f => ?_⟩
    simp [called]

namespace Program

inductive Reachable (v : Value) : Prop where
  | answered (is : List Instruction) (written : ∀ i ∈ is, i.sound = true) (o : Outcome Unit Value)
      (member : o ∈ outcomes is .empty ()) (done : o.result = .ok v)
  | passed (is : List Instruction) (written : ∀ i ∈ is, i.sound = true) (o : Outcome Unit Value)
      (member : o ∈ outcomes is .empty ()) (c : Call) (called : c ∈ o.calls) (given : v ∈ c.args)
  | held (is : List Instruction) (written : ∀ i ∈ is, i.sound = true) (name : String)
      (found : (after is .empty ()).1.get? name = some v)

theorem reachableSolid {v : Value} (reached : Reachable v) : v.solid = true := by
  have regular (is : List Instruction) (written : ∀ i ∈ is, i.sound = true) :
      ∀ o ∈ outcomes is .empty (), SoundOutcome o := fun o member =>
    regularSound (outcomesRegular Value.solidClosed Value.solidNumbered is written emptyHolds () o member)
  cases reached with
  | answered is written o member done =>
    exact Value.everywhereSelf ((regular is written o member).result v done)
  | passed is written o member c called given =>
    exact Value.everywhereSelf ((regular is written o member).calls c called v given)
  | held is written name found =>
    have holds := afterHolds Value.solidClosed Value.solidNumbered is written emptyHolds ()
    exact Value.everywhereSelf (holds name v rfl found)

end Program

namespace Method

variable {σ : Type} {v payload : Value}

def wrapped (f : Callback σ) : Callback σ := f.andThen fun r => Value.ofContainer <$> Container.ofNullable r

def selected (p : Callback σ) : Callback σ :=
  .function fun args => do
    let answer ← p.call args
    if answer.truth then factory.call args else pure .empty

theorem wrappedCallback (e : Program.Expr) (ρ : Program.Registers) :
    ((Program.Expr.chain e [.ofNullable]).callback ρ : Run σ (Callback σ)) = wrapped <$> e.callback ρ := by
  simp only [Program.Expr.callback, Program.callbacks, pure_bind, map_eq_pure_bind, wrapped, Callback.andThen,
    List.foldlM, bind_pure]
  rfl

theorem selectedCallback (e : Program.Expr) (ρ : Program.Registers) :
    ((Program.Expr.cond e .of .empty).callback ρ : Run σ (Callback σ)) = selected <$> e.callback ρ := by
  simp only [Program.Expr.callback, pure_bind, map_eq_pure_bind, selected]
  rfl

theorem wrappedPresent (h : v.container? = some (some payload)) (f : Callback σ) :
    flatMap.perform v (wrapped f) = f.call [payload] >>= fun r => pure (.ofContainer r.toOption) := by
  rw [performTriggered flatMap h rfl rfl]
  show (f.call [payload] >>= fun r => pure (.ofContainer r.toOption)) >>= flatMap.finish v = _
  rw [bind_assoc]
  refine Run.bindCongr fun w r _ => ?_
  rw [pure_bind]
  cases r <;> rfl

theorem selectedPresent (h : v.container? = some (some payload)) (solid : v.solid = true) (p : Callback σ) :
    flatMap.perform v (selected p) =
      p.call [payload] >>= fun a => pure (if a.truth then .present payload none else .empty) := by
  have kept : (factory.call [payload] : Run σ Value) = pure (.present payload none) :=
    enclosed (Value.payloadThere solid h)
  rw [performTriggered flatMap h rfl rfl]
  show (p.call [payload] >>= fun a => if a.truth then factory.call [payload] else pure .empty) >>=
    flatMap.finish v = _
  rw [bind_assoc, kept]
  refine Run.bindCongr fun w a _ => ?_
  cases a.truth <;> rfl

theorem mapByFlatMap {o : Option Value} (h : v.container? = some o) {f : Callback σ} (given : f.isAbsent = false) :
    map.perform v f = flatMap.perform v (wrapped f) := by
  cases o with
  | none => rw [performUntouched map h (.inl given) rfl, performUntouched flatMap h (.inl rfl) rfl]; rfl
  | some payload =>
    rw [performTriggered map h given rfl, wrappedPresent h f]
    rfl

/- The filter keeps the container itself and the chained form builds a new one around the same payload, so what
they hold is compared. -/
theorem filterByFlatMap {o : Option Value} (h : v.container? = some o) (solid : v.solid = true) {p : Callback σ}
    (given : p.isAbsent = false) :
    Value.container? <$> filter.perform v p = Value.container? <$> flatMap.perform v (selected p) := by
  cases o with
  | none => rw [performUntouched filter h (.inl given) rfl, performUntouched flatMap h (.inl rfl) rfl]; rfl
  | some payload =>
    rw [performTriggered filter h given rfl, selectedPresent h solid p]
    simp only [map_eq_pure_bind, bind_assoc]
    refine Run.bindCongr fun w a _ => ?_
    show (pure (if a.truth then v else .empty) >>= fun r => pure r.container?) = _
    rw [pure_bind, pure_bind]
    cases a.truth with
    | true => exact congrArg pure h
    | false => rfl

theorem formsEndAs (h : v.container? = some (some payload)) (solid : v.solid = true) (c : Callback σ) (w : σ) :
    EndsAs (c.call [payload] w) (flatMap.perform v (wrapped c) w) ∧
      EndsAs (c.call [payload] w) (flatMap.perform v (selected c) w) := by
  rw [wrappedPresent h c, selectedPresent h solid c]
  exact ⟨endsAsSettled _ _ w, endsAsSettled _ _ w⟩

theorem mapAndFilterChain :
    (∀ v o (f : Callback σ), v.container? = some o → f.isAbsent = false →
      map.perform v f = flatMap.perform v (wrapped f)) ∧
    (∀ v o (p : Callback σ), v.container? = some o → v.solid = true → p.isAbsent = false →
      Value.container? <$> filter.perform v p = Value.container? <$> flatMap.perform v (selected p)) ∧
    (∀ a : Value, a.truth = false ↔ a.Falsy) ∧
    (∀ v payload (c : Callback σ) w, v.container? = some (some payload) → v.solid = true →
      EndsAs (c.call [payload] w) (flatMap.perform v (wrapped c) w) ∧
        EndsAs (c.call [payload] w) (flatMap.perform v (selected c) w)) ∧
    (∀ v (c : Callback σ), v.container? = some none →
      flatMap.perform v (wrapped c) = pure .empty ∧ flatMap.perform v (selected c) = pure .empty) ∧
    (∀ v, Program.Reachable v → v.solid = true) ∧
    (∀ e ρ, ((Program.Expr.chain e [.ofNullable]).callback ρ : Run σ (Callback σ)) = wrapped <$> e.callback ρ) ∧
    (∀ e ρ, ((Program.Expr.cond e .of .empty).callback ρ : Run σ (Callback σ)) = selected <$> e.callback ρ) := by
  refine ⟨?map, ?filter, ?truth, ?present, ?empty, fun _ => Program.reachableSolid, wrappedCallback, selectedCallback⟩
  case map =>
    intro v o f h given
    exact mapByFlatMap h given
  case filter =>
    intro v o p h solid given
    exact filterByFlatMap h solid given
  case truth =>
    intro a
    exact ⟨Value.untrueFalsy, Value.falsyUntrue⟩
  case present =>
    intro v payload c w h solid
    exact formsEndAs h solid c w
  case empty =>
    intro v c h
    exact ⟨performUntouched flatMap h (.inl rfl) rfl, performUntouched flatMap h (.inl rfl) rfl⟩

theorem presentAnswerKeeps :
    ((Value.present (.int 0) (some 3)).solid = true ∧
      Value.container? <$> filter.perform (.present (.int 0) (some 3))
          (.function fun _ => pure (.present (.bool false) none)) =
        (pure (some (some (.int 0))) : Run Unit (Option (Option Value)))) ∧
    EndsAs (⟨.error ⟨.container .nullResult, []⟩, [], [], ()⟩ : Outcome Unit Value)
      (flatMap.perform (.present (.int 0) (some 3))
        (selected (.function fun _ => Run.raise ⟨.container .nullResult, []⟩)) ()) ∧
    map.perform (.present (.int 0) none) (.function fun _ => pure .absent) =
      (flatMap.perform (.present (.int 0) none) (wrapped (.function fun _ => pure .absent)) : Run Unit Value) ∧
    Value.solid (.present (.list [.absent]) none) = true := by
  obtain ⟨maps, filters, _, ends, _, solid, _⟩ := mapAndFilterChain (σ := Unit)
  have chained := filters (.present (.int 0) (some 3)) (some (.int 0))
    (.function fun _ => pure (.present (.bool false) none)) rfl rfl rfl
  have raised := ends (.present (.int 0) (some 3)) (.int 0)
    (.function fun _ => Run.raise ⟨.container .nullResult, []⟩) () rfl rfl
  refine ⟨⟨rfl, chained.trans rfl⟩, raised.2, maps _ (some (.int 0)) _ rfl rfl, solid _ ?_⟩
  have written : ∀ i ∈ [Program.Instruction.mk ⟨none, .of (.list [.literal .absent])⟩ none], i.sound = true := by
    intro i member
    cases List.mem_singleton.mp member
    rfl
  exact .answered _ written _ List.mem_cons_self rfl

end Method
end Perhaps
