import Perhaps.Proofs.ConfigurationHistory
import Perhaps.Proofs.SessionRegularity

/-! Containers cannot be changed. To set or to delete an attribute of one is always an error, that of a frozen field
where the attribute is the field of a payload and a type error elsewhere. Such an attempt leaves no trace: with
attempts put in anywhere, everything else in a session happens as it does without them. -/
namespace Perhaps

namespace Run

variable {σ α β : Type}

/- A run that calls nothing and changes nothing, and that logs nothing if it comes to a result. -/
structure Still (x : Run σ α) : Prop where
  calls : ∀ w, (x w).calls = []
  world : ∀ w, (x w).world = w
  log : ∀ w a, (x w).result = .ok a → (x w).log = []

theorem Still.comesTo {x : Run σ α} (still : x.Still) {w : σ} {a : α} (done : (x w).result = .ok a) :
    x w = ⟨.ok a, [], [], w⟩ := by
  have whole : x w = ⟨(x w).result, (x w).calls, (x w).log, (x w).world⟩ := rfl
  rw [whole, done, still.calls, still.log w a done, still.world]

theorem stillPure (a : α) : (pure a : Run σ α).Still := ⟨fun _ => rfl, fun _ => rfl, fun _ _ _ => rfl⟩

theorem stillRaise (f : Fault) : (raise f : Run σ α).Still := ⟨fun _ => rfl, fun _ => rfl, fun _ _ _ => rfl⟩

theorem stillExcept (r : Except Fault α) : (ofExcept r : Run σ α).Still := by
  cases r with
  | ok a => exact stillPure a
  | error f => exact stillRaise f

theorem stillAttempt (r : Except Cause α) : (attempt r : Run σ α).Still := by
  cases r with
  | ok a => exact stillPure a
  | error c => exact stillRaise c.fault

theorem stillRefuse (kind : ContainerError) (message : String) : (Container.refuse kind message : Run σ α).Still :=
  ⟨fun _ => rfl, fun _ => rfl, fun _ _ impossible => nomatch impossible⟩

theorem Still.bindCases {x : Run σ α} (first : x.Still) (k : α → Run σ β) (w : σ) :
    (∃ f, (x w).result = .error f ∧ (x >>= k) w = ⟨.error f, [], (x w).log, w⟩) ∨
      ∃ a, (x w).result = .ok a ∧ (x >>= k) w = k a w := by
  cases done : (x w).result with
  | error f => exact .inl ⟨f, rfl, by rw [bindError done, first.calls, first.world]⟩
  | ok a =>
    refine .inr ⟨a, rfl, ?_⟩
    rw [bindOk done, first.comesTo done, List.nil_append, List.nil_append]

theorem stillBind {x : Run σ α} {k : α → Run σ β} (first : x.Still) (next : ∀ a, (k a).Still) : (x >>= k).Still := by
  refine ⟨fun w => ?calls, fun w => ?world, fun w b done => ?log⟩ <;>
    rcases first.bindCases k w with ⟨f, _, same⟩ | ⟨a, _, same⟩
  case calls.inl => rw [same]
  case calls.inr => rw [same, (next a).calls]
  case world.inl => rw [same]
  case world.inr => rw [same, (next a).world]
  case log.inl =>
    rw [same] at done
    cases done
  case log.inr =>
    rw [same] at done ⊢
    exact (next a).log w b done

theorem stillMap {x : Run σ α} (f : α → β) (still : x.Still) : (f <$> x).Still := by
  rw [map_eq_pure_bind]
  exact stillBind still fun a => stillPure (f a)

def caught (x : Run σ α) : Run σ Unit := fun w => ⟨.ok (), (x w).calls, (x w).log, (x w).world⟩

end Run

namespace Program

variable {σ : Type}

theorem containerOfStill (v : Value) : (Container.of v : Run σ (Option Value)).Still := by
  cases v with
  | absent => exact Run.stillRefuse ..
  | _ => exact Run.stillPure _

mutual

theorem termStill (ρ : Registers) : (t : Term) → (t.value ρ : Run σ Value).Still
  | .literal v => by
    rw [Term.value]
    exact Run.stillPure v
  | .numeral text => by
    rw [Term.value]
    exact Run.stillAttempt _
  | .error kind message => by
    rw [Term.value]
    exact Run.stillMap _ (Run.stillExcept _)
  | .register name => by
    rw [Term.value]
    cases ρ.get? name with
    | some v => exact Run.stillPure v
    | none => exact Run.stillRaise _
  | .list items => by
    rw [Term.value]
    exact Run.stillMap _ (termsStill ρ items)
  | .tuple items => by
    rw [Term.value]
    exact Run.stillMap _ (termsStill ρ items)
  | .dict entries => by
    rw [Term.value]
    exact Run.stillMap _ (entriesStill ρ entries [])
  | .present payload => by
    rw [Term.value]
    exact Run.stillBind (termStill ρ payload) fun v => Run.stillMap _ (containerOfStill v)

theorem termsStill (ρ : Registers) : (ts : List Term) → (Term.values ρ ts : Run σ (List Value)).Still
  | [] => by
    rw [Term.values]
    exact Run.stillPure []
  | t :: ts => by
    rw [Term.values]
    exact Run.stillBind (termStill ρ t) fun v => Run.stillBind (termsStill ρ ts) fun vs => Run.stillPure (v :: vs)

theorem entriesStill (ρ : Registers) : (ts : List (Term × Term)) → (es : List (Value × Value)) →
    (Term.entryValues ρ ts es : Run σ (List (Value × Value))).Still
  | [], es => by
    rw [Term.entryValues]
    exact Run.stillPure es
  | (k, t) :: ts, es => by
    rw [Term.entryValues]
    refine Run.stillBind (termStill ρ k) fun key => Run.stillBind (termStill ρ t) fun v => ?_
    exact Run.stillBind (Run.stillExcept _) fun _ => entriesStill ρ ts _

end

theorem subjectStill (ρ : Registers) (default : Value) (t : Option Term) :
    (Term.valueOr ρ default t : Run σ Value).Still := by
  cases t with
  | none => exact Run.stillPure default
  | some t => exact termStill ρ t

inductive Change where
  | set (field : String) (value : Value)
  | delete (field : String)

namespace Change

def field : Change → String
  | set field _ | delete field => field

def verb : Change → String
  | set .. => "assign to"
  | delete _ => "delete"

def action : Change → Action
  | set field value => .setField field (.literal value)
  | delete field => .deleteField field

def refusal (change : Change) (o : Option Value) : Cause :=
  if o.isSome ∧ change.field = "_value" then .frozenField change.verb change.field else .foreignField

theorem refusalFault (change : Change) (o : Option Value) : (change.refusal o).fault =
    if o.isSome ∧ change.field = "_value" then
      ⟨.frozenInstance, [.str (String.join ["cannot ", change.verb, " field '", change.field, "'"])]⟩
    else ⟨.standard .typeError, [.str "super(type, obj): obj must be an instance or subtype of type"]⟩ := by
  unfold refusal
  split
  · rfl
  · rfl

end Change

inductive Requests (ρ : Registers) (w : σ) : Action → Change → Prop where
  | set {field : String} {operand : Term} {v : Value} (given : ((operand.value ρ : Run σ Value) w).result = .ok v) :
      Requests ρ w (.setField field operand) (.set field v)
  | delete (field : String) : Requests ρ w (.deleteField field) (.delete field)

theorem Change.asked (change : Change) (ρ : Registers) (w : σ) : Requests ρ w change.action change := by
  cases change with
  | set field value => exact .set (by rw [Term.value]; rfl)
  | delete field => exact .delete field

theorem changeRefused {ρ : Registers} {w : σ} {a : Action} {change : Change} (requests : Requests ρ w a change)
    {c : Value} {o : Option Value} (container : c.container? = some o) :
    (a.run ρ c : Run σ Value) w = ⟨.error (change.refusal o).fault, [], [], w⟩ := by
  have cause : changeField c change.verb change.field = change.refusal o := by
    cases o with
    | none =>
      cases Value.containerNoneIff.mp container
      rfl
    | some payload =>
      obtain ⟨p, rfl⟩ := Value.containerSomeIff.mp container
      simp [changeField, Change.refusal]
  rw [← cause]
  cases requests with
  | set given =>
    rw [Action.run, Run.bindOk given, (termStill ρ _).comesTo given]
    rfl
  | delete field =>
    rw [Action.run]
    rfl

theorem caughtChange (ρ : Registers) (change : Change) {c : Value} (container : c.container?.isSome = true) :
    Run.caught (change.action.run ρ c : Run σ Value) = pure () := by
  obtain ⟨o, container⟩ := Option.isSome_iff_exists.mp container
  funext w
  rw [Run.caught, changeRefused (change.asked ρ w) container]
  rfl

theorem caughtChanges (ρ : Registers) (tries : List (Value × Change))
    (containers : ∀ t ∈ tries, t.1.container?.isSome = true) :
    (forM tries fun t => Run.caught (t.2.action.run ρ t.1 : Run σ Value)) = pure () := by
  induction tries with
  | nil => rfl
  | cons t tries ih =>
    rw [List.forM_cons, caughtChange ρ t.2 (containers t List.mem_cons_self), pure_bind]
    exact ih fun u member => containers u (List.mem_cons_of_mem t member)

structure Attempt (ρ : Registers) (w : σ) (i : Instruction) (o : Option Value) (change : Change) : Prop where
  subject : ∃ c, ((Term.valueOr ρ .absent i.step.on : Run σ Value) w).result = .ok c ∧ c.container? = some o
  requests : Requests ρ w i.step.action change

theorem attemptRefused {ρ : Registers} {w : σ} {i : Instruction} {o : Option Value} {change : Change}
    (attempt : Attempt ρ w i o change) :
    (i.run ρ : Run σ Value) w = ⟨.error (change.refusal o).fault, [], [], w⟩ := by
  obtain ⟨c, came, container⟩ := attempt.subject
  have refused := changeRefused attempt.requests container
  have step : (i.step.run ρ : Run σ Value) w = ⟨.error (change.refusal o).fault, [], [], w⟩ := by
    rw [Step.run, Run.bindOk came, (subjectStill ρ _ _).comesTo came, refused]
    rfl
  have failed : ((i.step.run ρ : Run σ Value) w).result = .error (change.refusal o).fault := by rw [step]
  rw [Instruction.run, Run.bindError failed, step]

theorem Registers.storeError (ρ : Registers) (register : Option String) (f : Fault) :
    ρ.store register (.error f) = ρ := by
  cases register <;> rfl

end Program

abbrev Machine (S I O : Type) := S → I → O × S

inductive Line (I : Type) where
  | own (input : I)
  | inserted (input : I)

namespace Line

variable {I O : Type}

def input : Line I → I
  | own i | inserted i => i

def own? : Line I → Option I
  | own i => some i
  | inserted _ => none

def ownAnswers : List (Line I) → List O → List O
  | own _ :: ls, o :: os => o :: ownAnswers ls os
  | inserted _ :: ls, _ :: os => ownAnswers ls os
  | _, _ => []

end Line

namespace Machine

variable {S I O : Type} (m : Machine S I O)

def answers : S → List I → List O
  | _, [] => []
  | s, i :: is => (m s i).1 :: answers (m s i).2 is

def after : S → List I → S
  | s, [] => s
  | s, i :: is => after (m s i).2 is

def Inserts (p : S → I → Prop) : S → List (Line I) → Prop
  | _, [] => True
  | s, .own i :: ls => Inserts p (m s i).2 ls
  | s, .inserted i :: ls => p s i ∧ Inserts p (m s i).2 ls

variable {m}

/- Inputs that leave the state alone where they stand can be dropped. -/
theorem insertedDropped {p : S → I → Prop} (inert : ∀ s i, p s i → (m s i).2 = s) {s : S} {ls : List (Line I)}
    (inserts : m.Inserts p s ls) :
    Line.ownAnswers ls (m.answers s (ls.map Line.input)) = m.answers s (ls.filterMap Line.own?) ∧
      m.after s (ls.map Line.input) = m.after s (ls.filterMap Line.own?) := by
  induction ls generalizing s with
  | nil => exact ⟨rfl, rfl⟩
  | cons l ls ih =>
    cases l with
    | own i =>
      have later := ih inserts
      exact ⟨congrArg _ later.1, later.2⟩
    | inserted i =>
      obtain ⟨here, rest⟩ := inserts
      have same := inert s i here
      rw [same] at rest
      simpa only [List.map_cons, Line.input, answers, after, same, Line.ownAnswers, List.filterMap_cons, Line.own?]
        using ih rest

end Machine

namespace Program

variable {σ : Type}

def machine : Machine (Registers × σ) Instruction (Outcome σ Value) := fun s i =>
  let o := i.run s.1 s.2
  (o, (s.1.store i.register o.result, o.world))

theorem outcomesAnswers (is : List Instruction) (ρ : Registers) (w : σ) :
    outcomes is ρ w = machine.answers (ρ, w) is := by
  induction is generalizing ρ w with
  | nil => rfl
  | cons i is ih => exact congrArg _ (ih ..)

theorem afterMachine (is : List Instruction) (ρ : Registers) (w : σ) : after is ρ w = machine.after (ρ, w) is := by
  induction is generalizing ρ w with
  | nil => rfl
  | cons i is ih => exact ih ..

def InsertsAttempts (ls : List (Line Instruction)) (ρ : Registers) (w : σ) : Prop :=
  machine.Inserts (fun s i => ∃ o change, Attempt s.1 s.2 i o change) (ρ, w) ls

theorem attemptsDropped {ls : List (Line Instruction)} {ρ : Registers} {w : σ} (inserts : InsertsAttempts ls ρ w) :
    Line.ownAnswers ls (outcomes (ls.map Line.input) ρ w) = outcomes (ls.filterMap Line.own?) ρ w ∧
      after (ls.map Line.input) ρ w = after (ls.filterMap Line.own?) ρ w := by
  simp only [outcomesAnswers, afterMachine]
  refine Machine.insertedDropped ?inert inserts
  case inert =>
    rintro s i ⟨o, change, attempt⟩
    simp only [machine, attemptRefused attempt, Registers.storeError]

end Program

namespace Logging

open Program (Registers)

def machine (now : String) : Machine (Configuration × Registers) Command Turn := fun s command =>
  let turn := command.run now s.1 s.2
  (turn, (turn.configuration, turn.registers))

theorem turnsAnswers (now : String) (commands : List Command) (c : Configuration) (ρ : Registers) :
    turns now commands c ρ = (machine now).answers (c, ρ) commands := by
  induction commands generalizing c ρ with
  | nil => rfl
  | cons command rest ih => exact congrArg _ (ih ..)

theorem afterMachine (now : String) (commands : List Command) (c : Configuration) (ρ : Registers) :
    after now commands c ρ = (machine now).after (c, ρ) commands := by
  induction commands generalizing c ρ with
  | nil => rfl
  | cons command rest ih => exact ih ..

theorem attemptTurn {now : String} {c : Configuration} {ρ : Registers} {i : Program.Instruction} {o : Option Value}
    {change : Program.Change} (attempt : Program.Attempt ρ () i o change) : (Command.perform i).run now c ρ =
      ⟨.performed ⟨.error (change.refusal o).fault, [], [], ()⟩, [], [], c, ρ⟩ := by
  simp only [Command.run, Program.attemptRefused attempt, Registers.storeError, List.flatMap_nil]

def InsertsAttempts (now : String) (ls : List (Line Command)) (c : Configuration) (ρ : Registers) : Prop :=
  (machine now).Inserts (fun s command => ∃ i o change, command = .perform i ∧ Program.Attempt s.2 () i o change)
    (c, ρ) ls

theorem attemptsDropped {now : String} {ls : List (Line Command)} {c : Configuration} {ρ : Registers}
    (inserts : InsertsAttempts now ls c ρ) :
    Line.ownAnswers ls (turns now (ls.map Line.input) c ρ) = turns now (ls.filterMap Line.own?) c ρ ∧
      after now (ls.map Line.input) c ρ = after now (ls.filterMap Line.own?) c ρ := by
  simp only [turnsAnswers, afterMachine]
  refine Machine.insertedDropped ?inert inserts
  case inert =>
    rintro s command ⟨i, o, change, rfl, attempt⟩
    simp only [machine, attemptTurn attempt]

end Logging

namespace Program

theorem containersStayFrozen {σ : Type} :
    (∀ ρ (w : σ) a change c o, Requests ρ w a change → c.container? = some o →
      a.run ρ c w = ⟨.error (change.refusal o).fault, [], [], w⟩) ∧
    (∀ (change : Change) o, (change.refusal o).fault =
      if o.isSome ∧ change.field = "_value" then
        ⟨.frozenInstance, [.str (String.join ["cannot ", change.verb, " field '", change.field, "'"])]⟩
      else ⟨.standard .typeError, [.str "super(type, obj): obj must be an instance or subtype of type"]⟩) ∧
    (∀ ρ (w : σ) i o change, Attempt ρ w i o change →
      i.run ρ w = ⟨.error (change.refusal o).fault, [], [], w⟩) ∧
    (∀ ls ρ (w : σ), InsertsAttempts ls ρ w →
      Line.ownAnswers ls (outcomes (ls.map Line.input) ρ w) = outcomes (ls.filterMap Line.own?) ρ w ∧
      after (ls.map Line.input) ρ w = after (ls.filterMap Line.own?) ρ w) ∧
    (∀ now ls c ρ, Logging.InsertsAttempts now ls c ρ →
      Line.ownAnswers ls (Logging.turns now (ls.map Line.input) c ρ) =
        Logging.turns now (ls.filterMap Line.own?) c ρ ∧
      Logging.after now (ls.map Line.input) c ρ = Logging.after now (ls.filterMap Line.own?) c ρ) ∧
    (∀ ρ (tries : List (Value × Change)) (x : Run σ Value), (∀ t ∈ tries, t.1.container?.isSome = true) →
      (do
        forM tries fun t => Run.caught (t.2.action.run ρ t.1 : Run σ Value)
        x) = x) := by
  refine ⟨fun _ _ _ _ _ _ requests container => changeRefused requests container, Change.refusalFault,
    fun _ _ _ _ _ => attemptRefused, fun _ _ _ => attemptsDropped, fun _ _ _ _ => Logging.attemptsDropped, ?caught⟩
  case caught =>
    intro ρ tries x containers
    rw [caughtChanges ρ tries containers, pure_bind]

theorem heldPayloadStays :
    let hold : Instruction := ⟨⟨none, .of (.literal (.str "old"))⟩, some "a"⟩
    let replace : Instruction := ⟨⟨some (.register "a"), .setField "_value" (.literal (.str "new"))⟩, some "a"⟩
    let use : Instruction := ⟨⟨some (.register "a"), .get⟩, none⟩
    let own : List (Outcome Unit Value) :=
      [⟨.ok (.present (.str "old") none), [], [], ()⟩, ⟨.ok (.str "old"), [], [], ()⟩]
    Line.ownAnswers [.own hold, .inserted replace, .own use] (outcomes [hold, replace, use] .empty ()) = own ∧
    Logging.after "now" [.perform hold, .perform replace, .perform use] .initial .empty =
      Logging.after "now" [.perform hold, .perform use] .initial .empty ∧
    (replace.run (Registers.empty.set "a" (.present (.str "old") none)) () : Outcome Unit Value) =
      ⟨.error ⟨.frozenInstance, [.str "cannot assign to field '_value'"]⟩, [], [], ()⟩ ∧
    ((Action.deleteField "_value").run .empty .empty () : Outcome Unit Value).result =
      .error ⟨.standard .typeError, [.str "super(type, obj): obj must be an instance or subtype of type"]⟩ ∧
    (do
      forM [(Value.empty, Change.set "x" .absent)] fun t => Run.caught (t.2.action.run .empty t.1 : Run Unit Value)
      Container.get (some (.str "old"))) = (pure (.str "old") : Run Unit Value) := by
  intro hold replace use own
  obtain ⟨action, _, instruction, session, logged, caught⟩ := containersStayFrozen (σ := Unit)
  have attempt : Attempt (Registers.empty.set "a" (.present (.str "old") none)) () replace (some (.str "old"))
      (.set "_value" (.str "new")) := ⟨⟨.present (.str "old") (some 0), rfl, rfl⟩, .set rfl⟩
  have inserts : InsertsAttempts [.own hold, .inserted replace, .own use] .empty () := ⟨⟨_, _, attempt⟩, trivial⟩
  have insertsLogged : Logging.InsertsAttempts "now"
      [.own (.perform hold), .inserted (.perform replace), .own (.perform use)] .initial .empty :=
    ⟨⟨_, _, _, rfl, attempt⟩, trivial⟩
  refine ⟨(session _ _ _ inserts).1.trans rfl, (logged _ _ _ _ insertsLogged).2, ?instruction, ?action, ?caught⟩
  case instruction => exact (instruction _ _ _ _ _ attempt).trans rfl
  case action =>
    rw [action .empty () _ _ .empty none (.delete "_value") rfl]
    rfl
  case caught => exact caught .empty _ _ (List.forall_mem_singleton.mpr rfl)

/- Only the one field of a payload is known as frozen. To set another attribute, or to delete any of the empty
container, is a type error. -/
theorem foreignFieldNotFrozen :
    ((Action.setField "value" (.literal (.int 2))).run .empty (.present (.int 1) none) () :
      Outcome Unit Value).result = .error Cause.foreignField.fault ∧
    ((Action.deleteField "_value").run .empty .empty () : Outcome Unit Value).result =
      .error Cause.foreignField.fault ∧
    Cause.foreignField.fault.kind ≠ .frozenInstance := by
  refine ⟨?_, ?_, by simp [Cause.fault, Cause.kind]⟩
  · rw [changeRefused (.set (v := .int 2) rfl) (o := some (.int 1)) rfl]
    rfl
  · rw [changeRefused (.delete "_value") (o := none) rfl]
    rfl

end Program
end Perhaps
