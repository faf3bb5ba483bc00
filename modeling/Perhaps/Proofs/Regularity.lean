import Perhaps.Proofs.Everywhere
import Perhaps.Proofs.Invocation

/-! What every computation keeps, whatever its callbacks do as long as they keep it too. Values keep a closed
property, calls are entered with such values only, and the log tells the container's refusals from the errors
that programs make. -/
namespace Perhaps

/- How a computation ends in an error. A refusal of the container's own is the only thing logged, once and
just before it is raised. An error of a container's kind that was not logged was made from its class. -/
inductive Ends (p : Value → Bool) : Fault → List Logging.Record → Prop where
  | refused (kind : ContainerError) (own : kind ≠ .optional) (message : String) :
      Ends p (kind.fault (.str message)) [Container.refusal kind.code message]
  | silent (f : Fault) (args : Value.itemsEverywhere p f.args = true)
      (made : ∀ kind, f.kind = .container kind → p (.errorClass f.kind) = true) : Ends p f []

structure Regular {σ α : Type} (p : Value → Bool) (post : α → Prop) (o : Outcome σ α) : Prop where
  calls : ∀ c ∈ o.calls, Value.itemsEverywhere p c.args = true
  failed : ∀ f, o.result = .error f → Ends p f o.log
  succeeded : ∀ a, o.result = .ok a → o.log = [] ∧ post a

namespace Run

variable {σ α β : Type} {p : Value → Bool} {mid : α → Prop} {post : β → Prop}

def Keeps (p : Value → Bool) (x : Run σ α) (post : α → Prop) : Prop := ∀ w, Regular p post (x w)

theorem keepsPure {b : β} (h : post b) : Keeps p (pure b : Run σ β) post := by
  intro w
  refine ⟨by rintro c ⟨⟩, by rintro f ⟨⟩, ?_⟩
  intro a same
  cases same
  exact ⟨rfl, h⟩

theorem keepsBind {x : Run σ α} {f : α → Run σ β} (first : Keeps p x mid)
    (next : ∀ a, mid a → Keeps p (f a) post) : Keeps p (x >>= f) post := by
  intro w
  have regular := first w
  cases h : (x w).result with
  | error e =>
    rw [bindError h]
    refine ⟨regular.calls, ?_, by rintro a ⟨⟩⟩
    intro f same
    cases same
    exact regular.failed e h
  | ok a =>
    rw [bindOk h]
    obtain ⟨silent, ha⟩ := regular.succeeded a h
    have rest := next a ha (x w).world
    refine ⟨?_, ?_, ?_⟩
    · intro c member
      rcases List.mem_append.mp member with earlier | later
      · exact regular.calls c earlier
      · exact rest.calls c later
    · intro f same
      rw [silent]
      exact rest.failed f same
    · intro b same
      rw [silent]
      exact rest.succeeded b same

theorem keepsMap {x : Run σ α} {f : α → β} (first : Keeps p x mid) (h : ∀ a, mid a → post (f a)) :
    Keeps p (f <$> x) post := by
  rw [map_eq_pure_bind]
  exact keepsBind first fun a ha => keepsPure (h a ha)

theorem keepsRaise {f : Fault} (args : Value.itemsEverywhere p f.args = true)
    (made : ∀ kind, f.kind = .container kind → p (.errorClass f.kind) = true) :
    Keeps p (raise f : Run σ β) post := by
  intro w
  refine ⟨by rintro c ⟨⟩, ?_, by rintro a ⟨⟩⟩
  intro g same
  cases same
  exact .silent f args made

theorem causeKind (c : Cause) (kind : ContainerError) : c.kind ≠ .container kind := by
  cases c <;> simp [Cause.kind]

theorem keepsFail {c : Cause} (args : Value.itemsEverywhere p c.args = true) :
    Keeps p (fail c : Run σ β) post :=
  keepsRaise args fun kind same => absurd same (causeKind c kind)

theorem keepsText (closed : Value.Closed p) {c : Cause} (text : c.args = [.str c.wording]) :
    Keeps p (fail c : Run σ β) post := by
  refine keepsFail ?_
  rw [text, Value.itemsEverywhere, Value.everywhere, closed.str]
  · rfl
  all_goals simp

theorem keepsRefuse (kind : ContainerError) (own : kind ≠ .optional) (message : String) :
    Keeps p (Container.refuse kind message : Run σ β) post := by
  intro w
  refine ⟨by rintro c ⟨⟩, ?_, by rintro a ⟨⟩⟩
  intro f same
  cases same
  exact .refused kind own message

theorem keepsEnter (c : Call) (args : Value.itemsEverywhere p c.args = true) :
    Keeps p (enter c : Run σ Unit) fun _ => True := by
  intro w
  refine ⟨?_, by rintro f ⟨⟩, fun a _ => ⟨rfl, trivial⟩⟩
  intro d member
  cases List.mem_singleton.mp member
  exact args

theorem keepsWritable (closed : Value.Closed p) {v : Value} {q : Value → Prop} (hv : q v) :
    Keeps p (attempt v.writable : Run σ Value) q := by
  unfold Value.writable
  split
  · exact keepsText closed rfl
  · exact keepsPure hv

theorem keepsWritten (closed : Value.Closed p) (form : Value → β) (v : Value) :
    Keeps p (attempt (v.written form) : Run σ β) fun _ => True := by
  unfold Value.written Value.writable
  split
  · exact keepsText closed rfl
  · exact keepsPure trivial

abbrev Answers (p : Value → Bool) (x : Run σ Value) : Prop := Keeps p x fun v => v.everywhere p = true

theorem builtArgs (closed : Value.Closed p) {kind : ErrorKind} {args : List Value} {f : Fault}
    (all : Value.itemsEverywhere p args = true) (built : kind.build args = .ok f) :
    Value.itemsEverywhere p f.args = true := by
  cases kind with
  | frozenInstance => cases built; exact all
  | standard k =>
    simp only [ErrorKind.build] at built
    split at built
    · split at built
      · cases built; exact all
      · contradiction
    · cases built; exact all
  | container k =>
    cases built
    have message : (args.headD .absent).everywhere p = true := by
      cases args with
      | nil => exact closed.absent
      | cons a rest => exact Value.itemsEverywhereIff.mp all a List.mem_cons_self
    simp only [ContainerError.fault, Value.itemsEverywhere, Bool.and_true]
    split
    · exact closed.str _
    · exact message

theorem keepsBuild (closed : Value.Closed p) {kind : ErrorKind} {args : List Value}
    (all : Value.itemsEverywhere p args = true) :
    Keeps p (ofExcept (kind.build args) : Run σ Fault) fun f =>
      f.kind = kind ∧ Value.itemsEverywhere p f.args = true := by
  cases built : kind.build args with
  | error f =>
    obtain ⟨k, required, rfl⟩ := ErrorKind.buildRefused built
    exact keepsText closed rfl
  | ok f => exact keepsPure ⟨ErrorKind.buildKind built, builtArgs closed all built⟩

theorem faultValueEverywhere (closed : Value.Closed p) {f : Fault} (allowed : p (.errorClass f.kind) = true)
    (args : Value.itemsEverywhere p f.args = true) : f.value.everywhere p = true := by
  simp only [Fault.value, Value.everywhere, closed.error, allowed, args, Bool.and_self]

end Run

def Callback.Keeps {σ : Type} (p : Value → Bool) (c : Callback σ) : Prop :=
  ∀ args, Value.itemsEverywhere p args = true → Run.Answers p (c.call args)

namespace Callback

variable {σ : Type} {p : Value → Bool}

theorem valueKeeps (closed : Value.Closed p) {v : Value} (all : v.everywhere p = true) :
    (value v : Callback σ).Keeps p := by
  intro args given
  cases v with
  | errorClass kind =>
    refine Run.keepsMap (Run.keepsBuild closed given) ?_
    rintro f ⟨same, argsEverywhere⟩
    exact Run.faultValueEverywhere closed (by rw [same]; exact all) argsEverywhere
  | _ => exact Run.keepsText closed rfl

theorem recordedKeeps (name : String) {c : Callback σ} (keeps : c.Keeps p) : (c.recorded name).Keeps p := by
  cases c with
  | value v => exact keeps
  | function body =>
    intro args given
    exact Run.keepsBind (Run.keepsEnter ⟨name, args⟩ given) fun _ _ => keeps args given

theorem unaryKeeps (closed : Value.Closed p) (name : String) {f : Value → Run σ Value}
    (keeps : ∀ x, x.everywhere p = true → Run.Answers p (f x)) : (unary name f).Keeps p := by
  intro args given
  match args with
  | [x] => exact keeps x (Value.itemsEverywhereIff.mp given x List.mem_cons_self)
  | [] | _ :: _ :: _ => exact Run.keepsText closed rfl

end Callback

namespace Method

variable {σ : Type} {p : Value → Bool}

theorem raiseKeeps (closed : Value.Closed p) {v : Value} (all : v.everywhere p = true) :
    Run.Answers p (Container.raiseValue v : Run σ Value) := by
  cases v with
  | error kind args o =>
    rw [Value.everywhere, Bool.and_eq_true, closed.error] at all
    exact Run.keepsRaise all.2 fun _ _ => all.1
  | errorClass kind =>
    refine Run.keepsBind (Run.keepsBuild closed rfl) ?_
    rintro f ⟨same, args⟩
    exact Run.keepsRaise args fun _ _ => by rw [same]; exact all
  | absent => exact Run.keepsRefuse .nullValue (by decide) _
  | _ => exact Run.keepsText closed rfl

theorem finishKeeps (closed : Value.Closed p) (m : Method) {v r : Value} (hv : v.everywhere p = true)
    (hr : r.everywhere p = true) : Run.Answers p (m.finish v r : Run σ Value) := by
  cases m with
  | ifPresent => exact Run.keepsPure closed.absent
  | filter =>
    refine Run.keepsPure ?_
    split
    · exact hv
    · exact closed.empty
  | map =>
    refine Run.keepsPure (Value.ofContainerEverywhere closed fun u hu => ?_)
    obtain ⟨there, rfl⟩ := Value.toOptionThere hu
    exact ⟨there, hr⟩
  | flatMap =>
    cases r with
    | absent => exact Run.keepsRefuse .nullResult (by decide) _
    | _ => exact Run.keepsPure hr
  | orElseGet => exact Run.keepsPure hr
  | orElseThrow => exact raiseKeeps closed hr

theorem untouchedEverywhere (closed : Value.Closed p) (m : Method) {v : Value} {o : Option Value}
    (hv : v.everywhere p = true) (h : v.container? = some o) : (m.untouched o).everywhere p = true := by
  cases m with
  | ifPresent => exact closed.absent
  | filter | map | flatMap => exact closed.empty
  | orElseGet | orElseThrow =>
    cases o with
    | none => exact closed.absent
    | some payload => exact Value.payloadEverywhere hv h

theorem argumentsEverywhere (m : Method) {v : Value} {o : Option Value} (hv : v.everywhere p = true)
    (h : v.container? = some o) : Value.itemsEverywhere p (m.arguments o) = true := by
  cases m <;> cases o with
  | none => rfl
  | some payload =>
    first
    | rfl
    | simp only [arguments, Option.toList, Value.itemsEverywhere, Value.payloadEverywhere hv h, Bool.and_self]

theorem performKeeps (closed : Value.Closed p) (m : Method) {v : Value} (hv : v.everywhere p = true)
    {c : Callback σ} (hc : c.Keeps p) : Run.Answers p (m.perform v c) := by
  rcases performCases m v c with ⟨_, same⟩ | ⟨o, h, ⟨_, _, same⟩ | ⟨_, _, same⟩ | ⟨_, _, same⟩⟩ <;> rw [same]
  · exact Run.keepsText closed (by cases v <;> rfl)
  · exact Run.keepsRefuse .nullValue (by decide) _
  · refine Run.keepsBind (hc _ (argumentsEverywhere m hv h)) fun r hr => ?_
    exact finishKeeps closed m hv hr
  · exact Run.keepsPure (untouchedEverywhere closed m hv h)

end Method
end Perhaps
