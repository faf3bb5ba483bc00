import Perhaps.Proofs.SessionRegularity

/-! The log of a step. A refusal of the container's own is logged once, when it is raised, and travels through
any number of enclosing calls without another record. An error that user code makes travels the same way and
is not logged at all, whatever its kind. -/
namespace Perhaps

namespace Value

def errorFree : Value → Bool
  | error .. | errorClass _ => false
  | _ => true

theorem errorFreeClosed : Closed errorFree where
  absent := rfl
  bool _ := rfl
  int _ := rfl
  str _ := rfl
  list _ := rfl
  tuple _ := rfl
  dict _ := rfl
  empty := rfl
  present _ _ _ := rfl
  error _ _ _ := rfl
  notImplemented := rfl

theorem anyClosed : Closed fun _ => true := by
  constructor <;> intros <;> rfl

end Value

variable {σ α : Type} {p : Value → Bool}

def recordOf (kind : ContainerError) (f : Fault) : Logging.Record :=
  ⟨Logging.LevelName.debug.number, "presence.optional",
    String.join ["Raising ", kind.code.name, ": ", f.message]⟩

structure LogLaw (o : Outcome σ α) : Prop where
  atMostOne : o.log.length ≤ 1
  silent : ∀ a, o.result = .ok a → o.log = []
  recorded : ∀ r ∈ o.log, ∃ kind f, kind ∈ [ContainerError.nullValue, .noSuchElement, .nullResult] ∧
    o.result = .error f ∧ f.kind = .container kind ∧ r = recordOf kind f

theorem ownKinds {kind : ContainerError} (own : kind ≠ .optional) :
    kind ∈ [ContainerError.nullValue, .noSuchElement, .nullResult] := by
  cases kind <;> simp_all

theorem refusalRecord (kind : ContainerError) (message : String) :
    Container.refusal kind.code message = recordOf kind (kind.fault (.str message)) := by
  have text : (kind.fault (.str message)).message = message :=
    Fault.messageText (.container kind) message (by simp)
  rw [recordOf, text]
  rfl

theorem regularLog {post : α → Prop} {o : Outcome σ α} (regular : Regular p post o) : LogLaw o := by
  cases h : o.result with
  | ok a =>
    have silent := (regular.succeeded a h).1
    refine ⟨by simp [silent], fun _ _ => silent, ?_⟩
    intro r member
    rw [silent] at member
    cases member
  | error f =>
    have ends := regular.failed f h
    generalize logged : o.log = log at ends
    cases ends with
    | silent _ args made =>
      refine ⟨by simp [logged], fun _ _ => logged, ?_⟩
      intro r member
      rw [logged] at member
      cases member
    | refused kind own message =>
      refine ⟨by simp [logged], ?_, ?_⟩
      · intro a same
        rw [h] at same
        cases same
      · intro r member
        rw [logged] at member
        cases List.mem_singleton.mp member
        exact ⟨kind, _, ownKinds own, h, rfl, refusalRecord kind message⟩

/- With no error or class at hand, an error of a container's kind was refused by a container. -/
theorem ownErrorLogged {post : α → Prop} {o : Outcome σ α} (regular : Regular Value.errorFree post o) {f : Fault}
    {kind : ContainerError} (failed : o.result = .error f) (same : f.kind = .container kind) :
    o.log.length = 1 := by
  have ends := regular.failed f failed
  generalize o.log = log at ends
  cases ends with
  | refused kind own message => rfl
  | silent _ args made =>
    -- An error that nobody logged would have been made from its class, which is not at hand.
    cases made kind same

/- A run of `y` from `u` comes to a run of `x` from `w`, in `y` itself, in an earlier or later part of it, or in
the callback of a method, after certain calls and records. -/
inductive Reaches (x : Run σ α) (w : σ) :
    List Call → List Logging.Record → {β : Type} → Run σ β → σ → Prop where
  | here : Reaches x w [] [] x w
  | first {calls log} {β γ : Type} {y : Run σ β} (k : β → Run σ γ) {u : σ} (inner : Reaches x w calls log y u) :
      Reaches x w calls log (y >>= k) u
  | later {calls log} {β γ : Type} {y : Run σ β} {k : β → Run σ γ} {u : σ} {b : β}
      (done : (y u).result = .ok b) (inner : Reaches x w calls log (k b) (y u).world) :
      Reaches x w ((y u).calls ++ calls) ((y u).log ++ log) (y >>= k) u
  | method {calls log} (m : Method) {v : Value} {o : Option Value} {c : Callback σ} {u : σ}
      (container : v.container? = some o) (given : c.isAbsent = false) (due : m.triggered o = true)
      (inner : Reaches x w calls log (c.call (m.arguments o)) u) : Reaches x w calls log (m.perform v c) u

theorem reachedError {x : Run σ α} {w : σ} {f : Fault} (raised : (x w).result = .error f) {calls : List Call}
    {log : List Logging.Record} {β : Type} {y : Run σ β} {u : σ} (reaches : Reaches x w calls log y u) :
    y u = ⟨.error f, calls ++ (x w).calls, log ++ (x w).log, (x w).world⟩ := by
  induction reaches with
  | here => rw [List.nil_append, List.nil_append, ← raised]
  | first k inner ih => rw [Run.bindError (congrArg Outcome.result ih), ih]
  | later done inner ih => rw [Run.bindOk done, ih, List.append_assoc, List.append_assoc]
  | method m container given due inner ih =>
    rw [Method.performTriggered m container given due, Run.bindError (congrArg Outcome.result ih), ih]

def HandsOver (v : Value) (f : Fault) : Prop :=
  (∃ o, v = .error f.kind f.args o) ∨ ∃ kind, v = .errorClass kind ∧ kind.build [] = .ok f

theorem suppliedError {v u : Value} (empty : v.container? = some none) {c : Callback σ}
    (given : c.isAbsent = false) {w : σ} (answered : (c.call [] w).result = .ok u) {f : Fault}
    (handed : HandsOver u f) : Method.orElseThrow.perform v c w =
      ⟨.error f, (c.call [] w).calls, (c.call [] w).log, (c.call [] w).world⟩ := by
  rw [Method.performTriggered .orElseThrow empty given rfl]
  have raises : (Method.orElseThrow.finish v u : Run σ Value) = Run.raise f := by
    rcases handed with ⟨o, rfl⟩ | ⟨kind, rfl, built⟩
    · rfl
    · simp only [Method.finish, Container.raiseValue, built]
      rfl
  show (c.call [] >>= Method.orElseThrow.finish v) w = _
  rw [Run.bindOk answered, raises]
  simp only [Run.raise, List.append_nil]

namespace Program

theorem anyHolds {ρ : Registers} : ρ.Hold (fun _ => true) fun _ => true :=
  fun _ v _ _ => Value.everywhereAll (fun _ => rfl) v

theorem actionLog (a : Action) (ρ : Registers) (s : Value) (w : σ) : LogLaw (a.run ρ s w) := by
  have written := actionWithin (p := fun _ => true) (r := fun _ => true) (fun _ => rfl) (fun _ => rfl) a
  exact regularLog (actionKeeps Value.anyClosed anyHolds a written s (Value.everywhereAll (fun _ => rfl) s) w)

theorem callbackLog (e : Expr) (ρ : Registers) {c : Callback σ} {u : σ}
    (made : (e.callback ρ u).result = .ok c) (args : List Value) (w : σ) : LogLaw (c.call args w) := by
  have written := exprWithin (p := fun _ => true) (r := fun _ => true) (fun _ => rfl) (fun _ => rfl) e
  have keeps : Run.Keeps (fun _ => true) (e.callback ρ : Run σ (Callback σ)) (Callback.Keeps fun _ => true) :=
    callbackKeeps Value.anyClosed anyHolds e written
  exact regularLog (((keeps u).succeeded c made).2 args (Value.itemsEverywhereAll (fun _ => rfl) args) w)

theorem outcomesLog (is : List Instruction) (ρ : Registers) (w : σ) : ∀ o ∈ outcomes is ρ w, LogLaw o := by
  intro o member
  have written : ∀ i ∈ is, i.step.within (fun _ => true) (fun _ => true) = true :=
    fun i _ => stepWithin (fun _ => rfl) (fun _ => rfl) i.step
  exact regularLog (outcomesRegular Value.anyClosed (fun _ _ => rfl) is written anyHolds w o member)

def readsNoError (ρ : Registers) (name : String) : Bool := (ρ.get? name).all (Value.everywhere Value.errorFree)

theorem errorFreeHolds (ρ : Registers) : ρ.Hold Value.errorFree (readsNoError ρ) := by
  intro name v free found
  rw [readsNoError, found] at free
  exact free

theorem instructionLogged (i : Instruction) (ρ : Registers)
    (free : i.step.within Value.errorFree (readsNoError ρ) = true) {w : σ} {f : Fault} {kind : ContainerError}
    (failed : (i.run ρ w).result = .error f) (same : f.kind = .container kind) : (i.run ρ w).log.length = 1 :=
  ownErrorLogged (instructionKeeps Value.errorFreeClosed (errorFreeHolds ρ) free w) failed same

theorem raisingCallback (ρ : Registers) {kind : ErrorKind} {message : Option String} {f : Fault}
    (built : kind.buildWithMessage message = .ok f) {c : Callback σ} {u : σ}
    (made : ((Expr.raise kind message).callback ρ u).result = .ok c) (args : List Value) (w : σ) :
    c.call args w = ⟨.error f, [], [], w⟩ := by
  rw [Expr.callback] at made
  cases made
  simp only [Callback.callFunction, built]
  rfl

theorem refusalsLoggedOnce (is : List Instruction) (ρ : Registers) (w : σ) :
    (∀ o ∈ outcomes is ρ w, LogLaw o) ∧
    (∀ (a : Action) ρ s (u : σ), LogLaw (a.run ρ s u)) ∧
    (∀ (e : Expr) ρ (u : σ) c args x, (e.callback ρ u).result = .ok c → LogLaw (c.call args x)) ∧
    (∀ before i rest f kind, is = before ++ i :: rest →
      i.step.within Value.errorFree (readsNoError (after before ρ w).1) = true →
      (i.run (after before ρ w).1 (after before ρ w).2).result = .error f → f.kind = .container kind →
      (i.run (after before ρ w).1 (after before ρ w).2).log.length = 1) ∧
    (∀ (x : Run σ Value) u f calls log (y : Run σ Value) v, (x u).result = .error f →
      Reaches x u calls log y v → y v = ⟨.error f, calls ++ (x u).calls, log ++ (x u).log, (x u).world⟩) ∧
    (∀ kind message f ρ (c : Callback σ) u args x, ErrorKind.buildWithMessage kind message = .ok f →
      ((Expr.raise kind message).callback ρ u).result = .ok c → c.call args x = ⟨.error f, [], [], x⟩) ∧
    (∀ v (c : Callback σ) u a f, v.container? = some none → c.isAbsent = false →
      (c.call [] u).result = .ok a → HandsOver a f → Method.orElseThrow.perform v c u =
        ⟨.error f, (c.call [] u).calls, (c.call [] u).log, (c.call [] u).world⟩) := by
  refine ⟨outcomesLog is ρ w, actionLog, ?callbacks, ?converse, ?reached, ?raised, ?supplied⟩
  case callbacks =>
    intro e ρ u c args x made
    exact callbackLog e ρ made args x
  case converse =>
    intro before i rest f kind _ free failed same
    exact instructionLogged i _ free failed same
  case reached =>
    intro x u f calls log y v raised reaches
    exact reachedError raised reaches
  case raised =>
    intro kind message f ρ c u args x built made
    exact raisingCallback ρ built made args x
  case supplied =>
    intro v c u a f empty given answered handed
    exact suppliedError empty given answered handed

theorem nestedErrorNotLogged :
    Reaches (Run.raise ⟨.container .nullValue, [.str "mine"]⟩ : Run Unit Value) () [] []
      (Method.map.perform (.present (.int 1) none) (.function fun _ =>
        Method.flatMap.perform (.present (.int 2) none) (.function fun _ =>
          Run.raise ⟨.container .nullValue, [.str "mine"]⟩))) () ∧
    Method.map.perform (.present (.int 1) none) (.function fun _ =>
        Method.flatMap.perform (.present (.int 2) none) (.function fun _ =>
          Run.raise ⟨.container .nullValue, [.str "mine"]⟩)) () =
      (⟨.error ⟨.container .nullValue, [.str "mine"]⟩, [], [], ()⟩ : Outcome Unit Value) := by
  have inner : Reaches (Run.raise ⟨.container .nullValue, [.str "mine"]⟩ : Run Unit Value) () [] []
      (Method.flatMap.perform (.present (.int 2) none) (.function fun _ =>
        Run.raise ⟨.container .nullValue, [.str "mine"]⟩)) () := .method .flatMap rfl rfl rfl .here
  have reaches : Reaches (Run.raise ⟨.container .nullValue, [.str "mine"]⟩ : Run Unit Value) () [] []
      (Method.map.perform (.present (.int 1) none) (.function fun _ =>
        Method.flatMap.perform (.present (.int 2) none) (.function fun _ =>
          Run.raise ⟨.container .nullValue, [.str "mine"]⟩))) () := .method .map rfl rfl rfl inner
  exact ⟨reaches, (refusalsLoggedOnce [] .empty ()).2.2.2.2.1 _ _ _ _ _ _ _ rfl reaches⟩

end Program
end Perhaps
