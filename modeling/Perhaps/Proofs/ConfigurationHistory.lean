import Perhaps.Logging.Session

/-! The configuration over the life of a process. A call that returns puts one new handler in the place of all
handlers of the configuration's own name and overwrites what an earlier call set; a call that fails changes
nothing, and no other command changes what a call sets. So the last call that returned decides. -/
namespace Perhaps

theorem Fields.putPut {β : Type} (name : String) (first last : β) (fs : Fields β) :
    (fs.put name first).put name last = fs.put name last := by
  induction fs with
  | nil => simp [put]
  | cons f fs ih =>
    obtain ⟨n, v⟩ := f
    by_cases same : n = name <;> simp [put, same, ih]

namespace Logging

open Program (Instruction Registers Term)

namespace Handler

def isForeign (h : Handler) : Bool := !h.isOwn

theorem ownNotForeign (r : Renderer) : (own r).isForeign = false := by
  rw [isForeign, isOwn, own, beq_self_eq_true, Bool.not_true]

/- The handlers that were looked at and kept stand in front of those still to come, and none of them is own. -/
theorem removedInTurnAppend (kept hs : List Handler) (foreign : ∀ h ∈ kept, h.isOwn = false) :
    removedInTurn hs (kept ++ hs) = kept ++ hs.filter isForeign := by
  induction hs generalizing kept with
  | nil => simp [removedInTurn]
  | cons h hs ih =>
    cases own : h.isOwn with
    | true =>
      have absent : h ∉ kept := by
        intro member
        rw [foreign h member] at own
        contradiction
      have rest := ih kept foreign
      simp only [removedInTurn, own, if_true, List.erase_append_right _ absent, List.erase_cons_head, rest,
        List.filter_cons, isForeign, Bool.not_true, Bool.false_eq_true, if_false]
    | false =>
      have rest := ih (kept ++ [h]) (by simpa [or_imp, forall_and, own] using foreign)
      simpa [removedInTurn, isForeign, own] using rest

theorem removedInTurnAll (hs : List Handler) : removedInTurn hs hs = hs.filter isForeign :=
  removedInTurnAppend [] hs fun _ member => nomatch member

end Handler

structure Choice where
  level : Int
  renderer : Renderer

def Choice.of (level : Int) (json : Bool) : Choice := ⟨level, if json then .json else .console true⟩

namespace Configuration

def choose (c : Configuration) (choice : Choice) : Configuration := c.withOwnHandler choice.level choice.renderer

theorem chosenHandlers (c : Configuration) (choice : Choice) :
    (c.choose choice).handlers = c.handlers.filter Handler.isForeign ++ [Handler.own choice.renderer] := by
  rw [choose, withOwnHandler, Handler.removedInTurnAll]

theorem chooseAgain (c : Configuration) (first last : Choice) : (c.choose first).choose last = c.choose last := by
  simp [choose, withOwnHandler, Handler.removedInTurnAll, Handler.ownNotForeign, Fields.putPut]

structure Agrees (c d : Configuration) : Prop where
  levels : d.levels = c.levels
  rootLevel : d.rootLevel = c.rootLevel
  propagate : d.propagate = c.propagate
  handlers : d.handlers = c.handlers
  threshold : d.threshold = c.threshold
  renderer : d.renderer = c.renderer
  known : ∀ logger ∈ c.loggers, logger ∈ d.loggers

namespace Agrees

variable {c d e : Configuration}

theorem refl (c : Configuration) : Agrees c c := ⟨rfl, rfl, rfl, rfl, rfl, rfl, fun _ member => member⟩

theorem trans (first : Agrees c d) (second : Agrees d e) : Agrees c e where
  levels := second.levels.trans first.levels
  rootLevel := second.rootLevel.trans first.rootLevel
  propagate := second.propagate.trans first.propagate
  handlers := second.handlers.trans first.handlers
  threshold := second.threshold.trans first.threshold
  renderer := second.renderer.trans first.renderer
  known logger member := second.known logger (first.known logger member)

theorem chosen (agrees : Agrees c d) (choice : Choice) : Agrees (c.choose choice) (d.choose choice) where
  levels := by rw [choose, withOwnHandler, agrees.levels]; rfl
  rootLevel := agrees.rootLevel
  propagate := rfl
  handlers := by rw [choose, withOwnHandler, agrees.handlers]; rfl
  threshold := rfl
  renderer := rfl
  known := agrees.known

theorem ofKnow (c : Configuration) (logger : String) : Agrees c (c.know logger) := by
  refine ⟨rfl, rfl, rfl, rfl, rfl, rfl, ?_⟩
  intro other member
  show other ∈ if c.loggers.contains logger then c.loggers else logger :: c.loggers
  split
  · exact member
  · exact List.mem_cons_of_mem logger member

end Agrees

structure Follows (start : Configuration) (choice : Choice) (c : Configuration) : Prop where
  handlers : c.handlers = start.handlers.filter Handler.isForeign ++ [Handler.own choice.renderer]
  level : c.ownLevel packageLogger = choice.level
  propagate : c.propagate = false
  renderer : c.renderer = choice.renderer
  threshold : c.threshold = choice.level
  otherLevels : ∀ logger, logger ≠ packageLogger → c.ownLevel logger = start.ownLevel logger
  rootLevel : c.rootLevel = start.rootLevel
  known : ∀ logger ∈ start.loggers, logger ∈ c.loggers

theorem agreesFollows {start c : Configuration} {choice : Choice} (agrees : Agrees (start.choose choice) c) :
    Follows start choice c where
  handlers := agrees.handlers.trans (chosenHandlers start choice)
  level := by
    rw [ownLevel, agrees.levels, choose, withOwnHandler, Fields.getPut, if_pos rfl, Option.getD_some]
  propagate := agrees.propagate
  renderer := agrees.renderer
  threshold := agrees.threshold
  otherLevels logger other := by
    rw [ownLevel, agrees.levels, choose, withOwnHandler, Fields.getPut, if_neg other]
    rfl
  rootLevel := agrees.rootLevel
  known := agrees.known

end Configuration

open Logging.Configuration (Agrees Follows packageLogger)

def Reply.returned : Reply → Bool
  | .done | .settings .. => true
  | .rejected _ | .failed _ => false
  | .performed o => o.result.isOk

namespace Command

def configures : Command → Bool
  | configure .. | applySettings .. => true
  | _ => false

def binds : Command → Bool
  | bind _ => true
  | _ => false

def configureOperands (ρ : Registers) (level json : Option Term) : Run Unit (Value × Value) := do
  let l ← Term.valueOr ρ (.str LevelName.info.name) level
  let j ← Term.valueOr ρ (.bool false) json
  pure (l, j)

def choice? (ρ : Registers) : Command → Option Choice
  | configure level json => do
    let v ← (configureOperands ρ level json ()).result.toOption
    let n ← (Configuration.levelNumber v.1).toOption
    pure (.of n v.2.truth)
  | applySettings arguments environment file => do
    let vs ← (Term.fieldValues ρ (arguments.getD []) ()).result.toOption
    let s ← (Settings.load ⟨vs, environment, file⟩).toOption
    pure (.of s.logLevel.number s.jsonLogs)
  | _ => none

end Command

structure Idles (command : Command) (c d : Configuration) : Prop where
  agrees : Agrees c d
  unbound : command.binds = false → c.bound = [] → d.bound = []

theorem Idles.refl (command : Command) (c : Configuration) : Idles command c c :=
  ⟨.refl c, fun _ unbound => unbound⟩

inductive Steps (command : Command) (c : Configuration) (ρ : Registers) (turn : Turn) : Prop where
  | chosen (choice : Choice) (configures : command.configures = true) (asked : command.choice? ρ = some choice)
      (returned : turn.reply.returned = true) (follows : turn.configuration = c.choose choice)
  | refused (configures : command.configures = true) (asked : command.choice? ρ = none)
      (failed : turn.reply.returned = false) (unchanged : turn.configuration = c)
  | other (plain : command.configures = false) (idles : Idles command c turn.configuration)

variable {now : String} {c : Configuration} {ρ : Registers}

theorem namedLevelOfName (l : LevelName) : Configuration.namedLevel l.name = .ok l.number := by
  cases l <;> rfl

theorem applyChooses (c : Configuration) (s : Settings) :
    c.apply s = .ok (c.choose (.of s.logLevel.number s.jsonLogs)) := by
  rw [Configuration.apply, Configuration.configure, Configuration.levelNumber, namedLevelOfName]
  rfl

theorem withOperandsOk {α : Type} {operands : Run Unit α} {next : α → Turn} {a : α}
    (read : (operands ()).result = .ok a) : Turn.withOperands now c ρ operands next = next a := by
  simp only [Turn.withOperands, read]

theorem withOperandsError {α : Type} {operands : Run Unit α} {next : α → Turn} {f : Fault}
    (failed : (operands ()).result = .error f) : Turn.withOperands now c ρ operands next =
      ⟨.failed f, [], (operands ()).log.flatMap (c.handle now), c, ρ⟩ := by
  simp only [Turn.withOperands, failed]

theorem configureSteps (now : String) (c : Configuration) (ρ : Registers) (level json : Option Term) :
    Steps (.configure level json) c ρ ((Command.configure level json).run now c ρ) := by
  have run : (Command.configure level json).run now c ρ =
      Turn.withOperands now c ρ (Command.configureOperands ρ level json)
        fun v => Turn.configured .done c ρ (c.configure v.1 v.2.truth) := rfl
  rw [run]
  cases read : (Command.configureOperands ρ level json ()).result with
  | error f =>
    rw [withOperandsError read]
    exact .refused rfl (by simp [Command.choice?, read, Except.toOption]) rfl rfl
  | ok v =>
    rw [withOperandsOk read, Configuration.configure]
    cases number : Configuration.levelNumber v.1 with
    | error e => exact .refused rfl (by simp [Command.choice?, read, number, Except.toOption]) rfl rfl
    | ok n =>
      exact .chosen (.of n v.2.truth) rfl (by simp [Command.choice?, read, number, Except.toOption]) rfl rfl

theorem settingsSteps (now : String) (c : Configuration) (ρ : Registers)
    (arguments : Option (List (String × Term))) (environment : List (String × String)) (file : Option String) :
    Steps (.applySettings arguments environment file) c ρ
      ((Command.applySettings arguments environment file).run now c ρ) := by
  rw [Command.run]
  cases read : (Term.fieldValues ρ (arguments.getD []) () : Outcome Unit (List (String × Value))).result with
  | error f =>
    rw [withOperandsError read]
    exact .refused rfl (by simp [Command.choice?, read, Except.toOption]) rfl rfl
  | ok vs =>
    rw [withOperandsOk read, Command.loaded]
    cases loaded : Settings.load ⟨vs, environment, file⟩ with
    | error issues => exact .refused rfl (by simp [Command.choice?, read, loaded, Except.toOption]) rfl rfl
    | ok s =>
      simp only [applyChooses]
      exact .chosen (.of s.logLevel.number s.jsonLogs) rfl
        (by simp [Command.choice?, read, loaded, Except.toOption]) rfl rfl

theorem withOperandsIdles {α : Type} {command : Command} {operands : Run Unit α} {next : α → Turn}
    (each : ∀ a, Idles command c (next a).configuration) :
    Idles command c (Turn.withOperands now c ρ operands next).configuration := by
  cases read : (operands ()).result with
  | error f => rw [withOperandsError read]; exact .refl command c
  | ok a => rw [withOperandsOk read]; exact each a

theorem recordedIdles {command : Command} (level logger message : Value) :
    Idles command c (Command.recorded now c ρ level logger message).configuration := by
  rw [Command.recorded]
  split
  · exact .refl command c
  · next name _ =>
    split <;> exact ⟨.ofKnow c name, fun _ unbound => unbound⟩

theorem commandSteps (command : Command) (now : String) (c : Configuration) (ρ : Registers) :
    Steps command c ρ (command.run now c ρ) := by
  cases command with
  | configure level json => exact configureSteps now c ρ level json
  | applySettings arguments environment file => exact settingsSteps now c ρ arguments environment file
  | perform i => exact .other rfl (.refl _ c)
  | record level logger message => exact .other rfl (withOperandsIdles fun _ => recordedIdles ..)
  | call m text fields =>
    refine .other rfl (withOperandsIdles fun v => ?_)
    cases c.log now m v.1 v.2 <;> exact .refl _ c
  | bind fields =>
    refine .other rfl (withOperandsIdles fun vs => ⟨?_, fun free _ => nomatch free⟩)
    exact ⟨rfl, rfl, rfl, rfl, rfl, rfl, fun _ member => member⟩
  | clear => exact .other rfl ⟨⟨rfl, rfl, rfl, rfl, rfl, rfl, fun _ member => member⟩, fun _ _ => rfl⟩

theorem callReturnsOrKeeps {call : Command} (configures : call.configures = true) :
    ((call.run now c ρ).reply.returned = true ↔ (call.choice? ρ).isSome = true) ∧
      ((call.run now c ρ).reply.returned = false → (call.run now c ρ).configuration = c) := by
  cases commandSteps call now c ρ with
  | chosen choice _ asked returned _ => simp [asked, returned]
  | refused _ asked failed unchanged => simp [asked, failed, unchanged]
  | other plain _ => exact absurd configures (Bool.eq_false_iff.mp plain)

def after (now : String) : List Command → Configuration → Registers → Configuration × Registers
  | [], c, ρ => (c, ρ)
  | command :: rest, c, ρ =>
    let turn := command.run now c ρ
    after now rest turn.configuration turn.registers

theorem turnsAfter (now : String) (before rest : List Command) (c : Configuration) (ρ : Registers) :
    turns now (before ++ rest) c ρ =
      turns now before c ρ ++ turns now rest (after now before c ρ).1 (after now before c ρ).2 := by
  induction before generalizing c ρ with
  | nil => rfl
  | cons command before ih => simp only [List.cons_append, turns, after, ih]

theorem afterAppend (now : String) (before rest : List Command) (c : Configuration) (ρ : Registers) :
    after now (before ++ rest) c ρ = after now rest (after now before c ρ).1 (after now before c ρ).2 := by
  induction before generalizing c ρ with
  | nil => rfl
  | cons command before ih => exact ih ..

def turnAfter (now : String) (before : List Command) (c : Configuration) (ρ : Registers)
    (command : Command) : Turn :=
  command.run now (after now before c ρ).1 (after now before c ρ).2

/- Whatever a history did, one more call that returns leaves of it no more than of the configuration that it
began with. -/
theorem historyOverwritten (choice : Choice) (history : List Command) (start : Configuration) (ρ : Registers) :
    Agrees (start.choose choice) ((after now history start ρ).1.choose choice) := by
  induction history generalizing start ρ with
  | nil => exact .refl _
  | cons command rest ih =>
    have later := ih (command.run now start ρ).configuration (command.run now start ρ).registers
    cases commandSteps command now start ρ with
    | chosen earlier _ _ _ follows =>
      rw [follows, Configuration.chooseAgain] at later
      rwa [after, follows]
    | refused _ _ _ unchanged =>
      rw [unchanged] at later
      rwa [after, unchanged]
    | other _ idles => exact (idles.agrees.chosen choice).trans later

def Uneventful (now : String) : List Command → Configuration → Registers → Prop
  | [], _, _ => True
  | command :: rest, c, ρ =>
    let turn := command.run now c ρ
    (command.configures = true → turn.reply.returned = false) ∧
      Uneventful now rest turn.configuration turn.registers

theorem uneventfulAgrees {history : List Command} (uneventful : Uneventful now history c ρ) :
    Agrees c (after now history c ρ).1 := by
  induction history generalizing c ρ with
  | nil => exact .refl c
  | cons command rest ih =>
    obtain ⟨first, later⟩ := uneventful
    have agrees := ih later
    cases commandSteps command now c ρ with
    | chosen choice configures _ returned _ => exact absurd returned (Bool.eq_false_iff.mp (first configures))
    | refused _ _ _ unchanged =>
      rw [unchanged] at agrees
      rwa [after, unchanged]
    | other _ idles => exact idles.agrees.trans agrees

theorem historyUnbound {history : List Command} (free : ∀ command ∈ history, command.binds = false)
    (unbound : c.bound = []) : (after now history c ρ).1.bound = [] := by
  induction history generalizing c ρ with
  | nil => exact unbound
  | cons command rest ih =>
    refine ih (fun other member => free other (List.mem_cons_of_mem command member)) ?_
    cases commandSteps command now c ρ with
    | chosen choice _ _ _ follows => rw [follows]; exact unbound
    | refused _ _ _ unchanged => rw [unchanged]; exact unbound
    | other _ idles => exact idles.unbound (free command List.mem_cons_self) unbound

/- The steps before a call, the call, which returns, and steps after it in which no other call returns. -/
structure LastReturned (now : String) (start : Configuration) (ρ : Registers) (before : List Command)
    (call : Command) (rest : List Command) : Prop where
  configures : call.configures = true
  returned : (turnAfter now before start ρ call).reply.returned = true
  uneventful : Uneventful now rest (turnAfter now before start ρ call).configuration
    (turnAfter now before start ρ call).registers

theorem lastReturnedFollows {start : Configuration} {before rest : List Command} {call : Command}
    (last : LastReturned now start ρ before call rest) :
    ∃ choice, call.choice? (after now before start ρ).2 = some choice ∧
      Follows start choice (after now (before ++ call :: rest) start ρ).1 := by
  have kept := uneventfulAgrees last.uneventful
  cases commandSteps call now (after now before start ρ).1 (after now before start ρ).2 with
  | chosen choice _ asked _ follows =>
    refine ⟨choice, asked, Configuration.agreesFollows ?_⟩
    rw [turnAfter, follows] at kept
    rw [afterAppend, after, follows]
    exact (historyOverwritten choice before start ρ).trans kept
  | refused _ _ failed _ => exact absurd last.returned (Bool.eq_false_iff.mp failed)
  | other plain _ => exact absurd last.configures (Bool.eq_false_iff.mp plain)

end Logging
end Perhaps
