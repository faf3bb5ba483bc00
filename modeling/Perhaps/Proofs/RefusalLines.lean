import Perhaps.Proofs.ConfigurationHistory
import Perhaps.Proofs.RefusalLog

/-! Refusals on standard error. A refusal is logged by the container's logger, which stands right below the
package's, so that its level or else the package's or the root's decides; what is shown goes to each handler
of the package's logger once. After a call to configure that returned, the last of these is its own. -/
namespace Perhaps.Logging

open Program (Instruction Registers)
open Logging.Configuration (Agrees Follows packageLogger)

variable {now : String} {c : Configuration} {ρ : Registers}

namespace Configuration

theorem aboveContainer {known : List (List Char)} (package : packageLogger.toList.reverse ∈ known) :
    above known Container.logger.toList.reverse = [packageLogger.toList.reverse] := by
  have parent : above known Container.logger.toList.reverse =
      if known.contains packageLogger.toList.reverse then
        packageLogger.toList.reverse :: above known packageLogger.toList.reverse
      else above known packageLogger.toList.reverse.tail := rfl
  have top : above known packageLogger.toList.reverse = [] := rfl
  rw [parent, if_pos (List.contains_iff_mem.mpr package), top]

theorem containerLineage {c : Configuration} (known : packageLogger ∈ c.loggers) :
    c.lineage Container.logger = [Container.logger, packageLogger] := by
  have package : packageLogger.toList.reverse ∈ c.loggers.map fun l => l.toList.reverse :=
    List.mem_map_of_mem known
  rw [lineage, aboveContainer package]
  rfl

theorem containerLevel {c : Configuration} (known : packageLogger ∈ c.loggers) :
    c.effectiveLevel Container.logger =
      if c.ownLevel Container.logger ≠ 0 then c.ownLevel Container.logger
      else if c.ownLevel packageLogger ≠ 0 then c.ownLevel packageLogger else c.rootLevel := by
  rw [effectiveLevel, containerLineage known]
  by_cases own : c.ownLevel Container.logger = 0
  · by_cases package : c.ownLevel packageLogger = 0 <;> simp [own, package]
  · simp [own]

theorem handleOfContainer {c : Configuration} (known : packageLogger ∈ c.loggers) (now : String) {r : Record}
    (logger : r.logger = Container.logger) (level : r.level = LevelName.debug.number) :
    c.handle now r = if c.effectiveLevel Container.logger ≤ LevelName.debug.number then
      c.handlers.filterMap (written (Event.ofRecord c.bound now r)) else [] := by
  have inside : c.isPackageLogger Container.logger = true := by
    rw [isPackageLogger, containerLineage known]
    rfl
  have shown : shows (c.effectiveLevel Container.logger) LevelName.debug.number =
      decide (c.effectiveLevel Container.logger ≤ LevelName.debug.number) := by
    simp [shows, LevelName.number]
  simp only [handle, logger, level, inside, shown, if_true, decide_eq_true_eq]

end Configuration

theorem plainEventRenders (now : String) (r : Record) (renderer : Renderer) :
    ∃ line, (Event.ofRecord [] now r).render renderer = .ok line := by
  have event : Event.ofRecord [] now r = [("event", .str r.text), ("logger", .str r.logger),
    ("level", .str (levelWord r.level)), ("timestamp", .str now)] := rfl
  rw [event]
  cases renderer with
  | json => exact ⟨_, rfl⟩
  | console coloured => exact ⟨_, rfl⟩

/- The level that counts for the container's logger once a call was followed. -/
def Choice.containerLevel (choice : Choice) (start : Configuration) : Int :=
  if start.ownLevel Container.logger ≠ 0 then start.ownLevel Container.logger
  else if choice.level ≠ 0 then choice.level else start.rootLevel

theorem followsLevel {start : Configuration} {choice : Choice} (follows : Follows start choice c)
    (known : packageLogger ∈ start.loggers) :
    c.effectiveLevel Container.logger = choice.containerLevel start := by
  have own := follows.otherLevels Container.logger (by decide)
  rw [Configuration.containerLevel (follows.known packageLogger known), own, follows.level, follows.rootLevel]
  rfl

/- A refusal is logged once and, if its level counts, written by each handler once. The own handler's line is
the last and comes from the renderer that was asked for; it can fail only for bound variables. -/
structure Refused (now : String) (start c : Configuration) (choice : Choice) (kind : ContainerError) (f : Fault)
    (o : Outcome Unit Value) (lines : List (List Char)) : Prop where
  failed : o.result = .error f
  own : f.kind = .container kind
  logged : o.log = [recordOf kind f]
  written : lines =
    let event := Event.ofRecord c.bound now (recordOf kind f)
    if choice.containerLevel start ≤ LevelName.debug.number then
      (start.handlers.filter Handler.isForeign).filterMap (Configuration.written event) ++
        (event.render choice.renderer).toOption.toList
    else []
  rendered : c.bound = [] → ∃ line,
    (Event.ofRecord c.bound now (recordOf kind f)).render choice.renderer = .ok line

theorem ownHandlerWrites (e : Event) (r : Renderer) :
    [Handler.own r].filterMap (Configuration.written e) = (e.render r).toOption.toList := by
  cases rendered : (e.render r).toOption <;> simp [Configuration.written, Handler.own, rendered]

theorem refusalWritten {start : Configuration} {choice : Choice} (follows : Follows start choice c)
    (known : packageLogger ∈ start.loggers) {o : Outcome Unit Value} {kind : ContainerError} {f : Fault}
    (failed : o.result = .error f) (own : f.kind = .container kind) (logged : o.log = [recordOf kind f]) :
    Refused now start c choice kind f o (o.log.flatMap (c.handle now)) := by
  refine ⟨failed, own, logged, ?written, ?rendered⟩
  case written =>
    rw [logged, List.flatMap_singleton,
      Configuration.handleOfContainer (follows.known packageLogger known) now rfl rfl,
      followsLevel follows known, follows.handlers, List.filterMap_append, ownHandlerWrites]
  case rendered =>
    intro unbound
    rw [unbound]
    exact plainEventRenders now (recordOf kind f) choice.renderer

theorem loggedRefused {start : Configuration} {choice : Choice} (follows : Follows start choice c)
    (known : packageLogger ∈ start.loggers) {o : Outcome Unit Value} (law : LogLaw o) {r : Record}
    (member : r ∈ o.log) : ∃ kind f, Refused now start c choice kind f o (o.log.flatMap (c.handle now)) := by
  obtain ⟨kind, f, _, failed, own, same⟩ := law.recorded r member
  obtain ⟨single, logged⟩ := List.length_eq_one_iff.mp
    (Nat.le_antisymm law.atMostOne (List.length_pos_of_mem member))
  have only : single = r := by
    rw [logged] at member
    exact (List.mem_singleton.mp member).symm
  rw [only, same] at logged
  exact ⟨kind, f, refusalWritten follows known failed own logged⟩

/- What a program's step leaves on standard error after a call: nothing, or what is written of its refusal; and
an error of a container's kind that was not handed in is a refusal. -/
structure Written (now : String) (start c : Configuration) (choice : Choice) (ρ : Registers) (i : Instruction)
    (turn : Turn) : Prop where
  reply : turn.reply = .performed (i.run ρ ())
  lines : (i.run ρ ()).log = [] ∧ turn.errors = [] ∨
    ∃ kind f, Refused now start c choice kind f (i.run ρ ()) turn.errors
  refusals : ∀ kind f, i.step.within Value.errorFree (Program.readsNoError ρ) = true →
    (i.run ρ ()).result = .error f → f.kind = .container kind →
      Refused now start c choice kind f (i.run ρ ()) turn.errors

theorem performWritten {start : Configuration} {choice : Choice} (follows : Follows start choice c)
    (known : packageLogger ∈ start.loggers) (i : Instruction) :
    Written now start c choice ρ i ((Command.perform i).run now c ρ) := by
  have law : LogLaw (i.run ρ ()) := Program.outcomesLog [i] ρ () _ List.mem_cons_self
  refine ⟨rfl, ?lines, ?refusals⟩
  case lines =>
    cases logged : (i.run ρ ()).log with
    | nil => exact .inl ⟨rfl, congrArg (List.flatMap (c.handle now)) logged⟩
    | cons r rs => exact .inr (loggedRefused follows known law (logged ▸ List.mem_cons_self))
  case refusals =>
    intro kind f free failed own
    obtain ⟨r, logged⟩ := List.length_eq_one_iff.mp (Program.instructionLogged i ρ free failed own)
    have member : r ∈ (i.run ρ ()).log := logged ▸ List.mem_cons_self
    obtain ⟨_, _, refused⟩ : ∃ kind f, Refused now start c choice kind f (i.run ρ ()) _ :=
      loggedRefused follows known law member
    have sameFault := refused.failed
    rw [failed] at sameFault
    cases sameFault
    have sameKind := refused.own
    rw [own] at sameKind
    cases sameKind
    exact refused

theorem lastReturnedDecides (now : String) (start : Configuration) (ρ : Registers) :
    (∀ before call rest, turns now (before ++ call :: rest) start ρ =
      let turn := turnAfter now before start ρ call
      turns now before start ρ ++ turn :: turns now rest turn.configuration turn.registers) ∧
    (∀ before (call : Command), call.configures = true →
      ((turnAfter now before start ρ call).reply.returned = true ↔
        (call.choice? (after now before start ρ).2).isSome = true) ∧
      ((turnAfter now before start ρ call).reply.returned = false →
        (turnAfter now before start ρ call).configuration = (after now before start ρ).1)) ∧
    (∀ history, Uneventful now history start ρ → Agrees start (after now history start ρ).1) ∧
    (∀ before call rest, LastReturned now start ρ before call rest →
      ∃ choice, call.choice? (after now before start ρ).2 = some choice ∧
        let history := before ++ call :: rest
        Follows start choice (after now history start ρ).1 ∧
        (packageLogger ∈ start.loggers → ∀ i, Written now start (after now history start ρ).1 choice
          (after now history start ρ).2 i (turnAfter now history start ρ (.perform i)))) ∧
    (∀ history, start.bound = [] → (∀ command ∈ history, command.binds = false) →
      (after now history start ρ).1.bound = []) ∧
    (∀ hs, Handler.removedInTurn hs hs = hs.filter Handler.isForeign) := by
  refine ⟨?turns, fun _ _ => callReturnsOrKeeps, fun _ => uneventfulAgrees, ?last,
    fun _ unbound free => historyUnbound free unbound, Handler.removedInTurnAll⟩
  case turns =>
    intro before call rest
    exact turnsAfter now before (call :: rest) start ρ
  case last =>
    intro before call rest last
    obtain ⟨choice, asked, follows⟩ := lastReturnedFollows last
    exact ⟨choice, asked, follows, fun known i => performWritten follows known i⟩

theorem adjacentHandlersReplaced :
    let start : Configuration := ⟨[], [packageLogger], 30, true,
      [.own .json, .own .json, ⟨none, .discard⟩, .own (.console true)], [], 0, .console false⟩
    let before : List Command := [.configure (some (.literal (.str "basic_format"))) none]
    let call : Command := .configure (some (.literal (.str "debug"))) (some (.literal (.bool true)))
    let rest : List Command := [.applySettings (some [("log_level", .literal (.str "loud"))]) [] none]
    let get : Instruction := ⟨⟨some (.literal .empty), .get⟩, none⟩
    LastReturned "" start .empty before call rest ∧
      (after "" (before ++ call :: rest) start .empty).1.handlers = [⟨none, .discard⟩, .own .json] ∧
      (turnAfter "" (before ++ call :: rest) start .empty (.perform get)).errors.length = 1 := by
  intro start before call rest get
  have last : LastReturned "" start .empty before call rest := ⟨rfl, rfl, fun _ => by decide +kernel, trivial⟩
  obtain ⟨choice, asked, follows, written⟩ :=
    (lastReturnedDecides "" start .empty).2.2.2.1 before call rest last
  obtain rfl : ⟨10, .json⟩ = choice := Option.some.inj asked
  refine ⟨last, follows.handlers, ?_⟩
  have refused := (written (by decide) get).refusals .noSuchElement _ rfl rfl rfl
  have unbound := (lastReturnedDecides "" start .empty).2.2.2.2.1 (before ++ call :: rest) rfl
    (by simp [before, call, rest, Command.binds])
  obtain ⟨line, rendered⟩ := refused.rendered unbound
  have reached : (Choice.mk 10 .json).containerLevel start ≤ LevelName.debug.number := by decide
  have foreign : start.handlers.filter Handler.isForeign = [⟨none, .discard⟩] := by decide
  rw [refused.written]
  simp only [if_pos reached, foreign, rendered]
  rfl

end Perhaps.Logging
