import Mathlib.Data.List.Forall2
import Perhaps.Proofs.EventWriting
import Perhaps.Proofs.RefusalLines

/-! How settings reach the output. Where nobody else sets a level or writes, each refusal gives one line once
settings of level `DEBUG` were applied, and none with a level above it. With `NOTSET` it gives none either, for
then the root's level counts. A line is missing only where bound variables cannot be written. -/
namespace Perhaps

namespace Settings

open Logging (LevelName Renderer)

def renderer (s : Settings) : Renderer := if s.jsonLogs then .json else .console true

def Shows (s : Settings) : Prop := 0 < s.logLevel.number ∧ s.logLevel.number ≤ LevelName.debug.number

instance (s : Settings) : Decidable s.Shows := inferInstanceAs (Decidable (_ ∧ _))

end Settings

namespace Logging

open Program (Instruction Registers Term)
open Logging.Configuration (Agrees Follows packageLogger)

/- The loggers as most programs leave them: the root has its default level, the container's logger none of its
own, and the only handlers that write are those of a call to configure. -/
structure Standard (start : Configuration) : Prop where
  known : packageLogger ∈ start.loggers
  rootLevel : start.rootLevel = LevelName.warning.number
  unset : start.ownLevel Container.logger = 0
  silent : ∀ h ∈ start.handlers.filter Handler.isForeign, h.sink = .discard

theorem initialStandard : Standard .initial := by
  refine ⟨by decide, rfl, rfl, ?_⟩
  intro h member
  cases List.mem_singleton.mp (List.mem_filter.mp member).1
  rfl

def Choice.ofSettings (s : Settings) : Choice := .of s.logLevel.number s.jsonLogs

variable {now : String} {start c : Configuration} {ρ : Registers} {s t : Settings}

theorem settingsReach (standard : Standard start) (s : Settings) :
    (Choice.ofSettings s).containerLevel start ≤ LevelName.debug.number ↔ s.Shows := by
  have level : (Choice.ofSettings s).containerLevel start =
      if s.logLevel.number ≠ 0 then s.logLevel.number else LevelName.warning.number := by
    rw [Choice.containerLevel, if_neg (not_not_intro standard.unset), standard.rootLevel]
    rfl
  rw [level, Settings.Shows]
  cases s.logLevel <;> decide

structure RefusalShown (now : String) (bound : Fields Value) (s : Settings) (kind : ContainerError) (f : Fault)
    (o : Outcome Unit Value) (lines : List (List Char)) : Prop where
  failed : o.result = .error f
  own : f.kind = .container kind
  logged : o.log = [recordOf kind f]
  hidden : ¬ s.Shows → lines = []
  shown : s.Shows → lines = ((Event.ofRecord bound now (recordOf kind f)).render s.renderer).toOption.toList
  rendered : (∀ b ∈ bound, s.renderer.Writes b) →
    ∃ line, (Event.ofRecord bound now (recordOf kind f)).render s.renderer = .ok line

/- A step of a program once settings count: it leaves no line, or what is left of its refusal. An error of a
container's kind is a refusal unless user code had such an error at hand. -/
structure Shown (now : String) (bound : Fields Value) (s : Settings) (ρ : Registers) (i : Instruction)
    (turn : Turn) : Prop where
  reply : turn.reply = .performed (i.run ρ ())
  registers : turn.registers = ρ.store i.register (i.run ρ ()).result
  output : turn.output = []
  lines : (i.run ρ ()).log = [] ∧ turn.errors = [] ∨
    ∃ kind f, RefusalShown now bound s kind f (i.run ρ ()) turn.errors
  refusals : ∀ kind f, i.step.within Value.errorFree (Program.readsNoError ρ) = true →
    (i.run ρ ()).result = .error f → f.kind = .container kind →
      RefusalShown now bound s kind f (i.run ρ ()) turn.errors

inductive RunShown (now : String) (bound : Fields Value) (s : Settings) :
    List Instruction → Registers → List Turn → Prop where
  | done (ρ : Registers) : RunShown now bound s [] ρ []
  | step {i : Instruction} {is : List Instruction} {ρ : Registers} {turn : Turn} {later : List Turn}
      (first : Shown now bound s ρ i turn) (rest : RunShown now bound s is turn.registers later) :
      RunShown now bound s (i :: is) ρ (turn :: later)

theorem silentWrites {handlers : List Handler} (silent : ∀ h ∈ handlers, h.sink = .discard) (e : Event) :
    handlers.filterMap (Configuration.written e) = [] := by
  rw [List.filterMap_eq_nil_iff]
  intro h member
  rw [Configuration.written, silent h member]

theorem refusedShown (standard : Standard start) {kind : ContainerError} {f : Fault} {o : Outcome Unit Value}
    {lines : List (List Char)} (refused : Refused now start c (.ofSettings s) kind f o lines) :
    RefusalShown now c.bound s kind f o lines := by
  have written := refused.written
  simp only [silentWrites standard.silent, List.nil_append, settingsReach standard s] at written
  refine ⟨refused.failed, refused.own, refused.logged, ?hidden, ?shown, ?rendered⟩
  case hidden => exact fun hides => by rw [written, if_neg hides]
  case shown => exact fun shows => by rw [written, if_pos shows]; rfl
  case rendered => exact fun writes => Event.recordWritten writes now _

theorem performShown (standard : Standard start) (follows : Follows start (.ofSettings s) c) (i : Instruction) :
    Shown now c.bound s ρ i ((Command.perform i).run now c ρ) := by
  have written : Written now start c (.ofSettings s) ρ i ((Command.perform i).run now c ρ) :=
    performWritten follows standard.known i
  refine ⟨rfl, rfl, rfl, ?lines, ?refusals⟩
  case lines =>
    rcases written.lines with quiet | ⟨kind, f, refused⟩
    · exact .inl quiet
    · exact .inr ⟨kind, f, refusedShown standard refused⟩
  case refusals =>
    intro kind f free failed own
    exact refusedShown standard (written.refusals kind f free failed own)

theorem programShown (standard : Standard start) (follows : Follows start (.ofSettings s) c)
    (program : List Instruction) (ρ : Registers) :
    RunShown now c.bound s program ρ (turns now (program.map .perform) c ρ) := by
  induction program generalizing ρ with
  | nil => exact .done ρ
  | cons i is ih => exact .step (performShown standard follows i) (ih _)

namespace Shown

variable {bound : Fields Value} {i : Instruction} {turn : Turn}

theorem hidden (shown : Shown now bound s ρ i turn) (hides : ¬ s.Shows) : turn.errors = [] := by
  rcases shown.lines with ⟨-, quiet⟩ | ⟨kind, f, refused⟩
  · exact quiet
  · exact refused.hidden hides

theorem counted (shown : Shown now bound s ρ i turn) (shows : s.Shows)
    (writes : ∀ b ∈ bound, s.renderer.Writes b) : turn.errors.length = (i.run ρ ()).log.length := by
  rcases shown.lines with ⟨logged, quiet⟩ | ⟨kind, f, refused⟩
  · rw [logged, quiet, List.length_nil, List.length_nil]
  · obtain ⟨line, rendered⟩ := refused.rendered writes
    rw [refused.shown shows, refused.logged, rendered]
    rfl

theorem atMost (shown : Shown now bound s ρ i turn) : turn.errors.length ≤ (i.run ρ ()).log.length := by
  rcases shown.lines with ⟨-, quiet⟩ | ⟨kind, f, refused⟩
  · simp [quiet]
  · by_cases shows : s.Shows
    · rw [refused.shown shows, refused.logged]
      exact Option.length_toList_le
    · simp [refused.hidden shows]

end Shown

theorem smallerShows (set : s.logLevel ≠ .notset) (smaller : s.logLevel.number ≤ t.logLevel.number)
    (shows : t.Shows) : s.Shows := by
  have positive : 0 < s.logLevel.number := by
    cases level : s.logLevel <;> first | exact absurd level set | decide
  exact ⟨positive, Int.le_trans smaller shows.2⟩

theorem runsCompared {bound : Fields Value} (writes : ∀ b ∈ bound, s.renderer.Writes b)
    (set : s.logLevel ≠ .notset) (smaller : s.logLevel.number ≤ t.logLevel.number) {program : List Instruction}
    {more fewer : List Turn} (first : RunShown now bound s program ρ more)
    (second : RunShown now bound t program ρ fewer) :
    List.Forall₂ (fun m f => f.errors.length ≤ m.errors.length) more fewer := by
  induction first generalizing fewer with
  | done ρ => cases second; exact .nil
  | step shown rest ih =>
    cases second with
    | step shown' rest' =>
      rw [shown'.registers, ← shown.registers] at rest'
      refine .cons ?_ (ih rest')
      by_cases shows : t.Shows
      · rw [shown.counted (smallerShows set smaller shows) writes]
        exact shown'.atMost
      · simp [shown'.hidden shows]

inductive Loads (ρ : Registers) : Command → Settings → Prop where
  | settings {arguments : Option (List (String × Term))} {environment : List (String × String)}
      {file : Option String} {vs : List (String × Value)} {s : Settings}
      (read : (Term.fieldValues ρ (arguments.getD []) () : Outcome Unit (List (String × Value))).result = .ok vs)
      (loaded : Settings.load ⟨vs, environment, file⟩ = .ok s) :
      Loads ρ (.applySettings arguments environment file) s

structure AppliedBy (turn : Turn) (c : Configuration) (ρ : Registers) (s : Settings) : Prop where
  reply : ∃ own, turn.reply = .settings s own
  configuration : turn.configuration = c.choose (.ofSettings s)
  registers : turn.registers = ρ

theorem loadsApplies {call : Command} (loads : Loads ρ call s) : AppliedBy (call.run now c ρ) c ρ s := by
  cases loads with
  | settings read loaded =>
    rw [Command.run, withOperandsOk read]
    simp only [Command.loaded, loaded, applyChooses]
    exact ⟨⟨_, rfl⟩, rfl, rfl⟩

theorem loadsFollowed {call : Command} {before rest : List Command}
    (loads : Loads (after now before start ρ).2 call s)
    (uneventful : Uneventful now rest (turnAfter now before start ρ call).configuration
      (turnAfter now before start ρ call).registers) :
    Follows start (.ofSettings s) (after now (before ++ call :: rest) start ρ).1 := by
  have applied : AppliedBy (turnAfter now before start ρ call) _ _ s := loadsApplies loads
  have kept := uneventfulAgrees uneventful
  have chosen : Agrees _ ((after now before start ρ).1.choose (.ofSettings s)) :=
    historyOverwritten _ before start ρ
  rw [← applied.configuration] at chosen
  rw [afterAppend, after]
  exact Configuration.agreesFollows (chosen.trans kept)

theorem settingsReachOutput (now : String) {start : Configuration} (standard : Standard start) (ρ : Registers)
    (before : List Command) :
    (∀ call s, Loads (after now before start ρ).2 call s →
      let turn := turnAfter now before start ρ call
      (∃ own, turn.reply = .settings s own) ∧
      ∀ rest, Uneventful now rest turn.configuration turn.registers →
        let c := (after now (before ++ call :: rest) start ρ).1
        let σ := (after now (before ++ call :: rest) start ρ).2
        ∀ program, RunShown now c.bound s program σ (turns now (program.map .perform) c σ)) ∧
    (∀ call call' s t, Loads (after now before start ρ).2 call s → Loads (after now before start ρ).2 call' t →
      s.logLevel ≠ .notset → s.logLevel.number ≤ t.logLevel.number →
      (∀ b ∈ (after now before start ρ).1.bound, s.renderer.Writes b) → ∀ program : List Instruction,
        let run turn := turns now (program.map .perform) turn.configuration turn.registers
        List.Forall₂ (fun more fewer => fewer.errors.length ≤ more.errors.length)
          (run (turnAfter now before start ρ call)) (run (turnAfter now before start ρ call'))) := by
  constructor
  · intro call s loads
    have applied : AppliedBy (turnAfter now before start ρ call) _ _ s := loadsApplies loads
    refine ⟨applied.reply, fun rest uneventful => ?_⟩
    exact fun program => programShown standard (loadsFollowed loads uneventful) program _
  · intro call call' s t loads loads' set smaller writes program
    have applied : AppliedBy (turnAfter now before start ρ call) _ _ s := loadsApplies loads
    have applied' : AppliedBy (turnAfter now before start ρ call') _ _ t := loadsApplies loads'
    have first : Follows start (.ofSettings s) ((after now before start ρ).1.choose (.ofSettings s)) :=
      Configuration.agreesFollows (historyOverwritten _ before start ρ)
    have second : Follows start (.ofSettings t) ((after now before start ρ).1.choose (.ofSettings t)) :=
      Configuration.agreesFollows (historyOverwritten _ before start ρ)
    simp only [applied.configuration, applied'.configuration, applied.registers, applied'.registers]
    exact runsCompared writes set smaller (programShown standard first program _)
      (programShown standard second program _)

def emptyGet : Instruction := ⟨⟨some (.literal .empty), .get⟩, none⟩

def applyLevel (level : String) : Command :=
  .applySettings none [("PRESENCE_LOG_LEVEL", level), ("PRESENCE_JSON_LOGS", "on")] none

theorem applyLevelLoads {level : String} {l : LevelName} (read : (Settings.load
    ⟨[], [("PRESENCE_LOG_LEVEL", level), ("PRESENCE_JSON_LOGS", "on")], none⟩).toOption = some ⟨l, true⟩) :
    Loads .empty (applyLevel level) ⟨l, true⟩ := by
  cases loaded : Settings.load ⟨[], [("PRESENCE_LOG_LEVEL", level), ("PRESENCE_JSON_LOGS", "on")], none⟩ with
  | error issues => rw [loaded] at read; contradiction
  | ok s =>
    rw [loaded] at read
    cases read
    exact .settings rfl loaded

theorem emptyGetLines {turn : Turn} (shown : Shown now [] s .empty emptyGet turn) :
    turn.errors.length = if s.Shows then 1 else 0 := by
  have logged : (emptyGet.run .empty () : Outcome Unit Value).log.length = 1 := rfl
  by_cases shows : s.Shows
  · rw [if_pos shows, shown.counted shows (by simp), logged]
  · rw [if_neg shows, shown.hidden shows, List.length_nil]

theorem debugShowsRefusal :
    Loads .empty (applyLevel "debug") ⟨.debug, true⟩ ∧
    let c := (after "" [applyLevel "debug"] .initial .empty).1
    (turns "" [.perform emptyGet] c .empty).map (fun turn => turn.errors.length) = [1] := by
  have loads : Loads .empty (applyLevel "debug") ⟨.debug, true⟩ := applyLevelLoads (by decide +kernel)
  refine ⟨loads, ?_⟩
  obtain ⟨-, runs⟩ := (settingsReachOutput "" initialStandard .empty []).1 _ _ loads
  have run := runs [] trivial [emptyGet]
  have unbound : (after "" [applyLevel "debug"] .initial .empty).1.bound = [] :=
    historyUnbound (List.forall_mem_singleton.mpr rfl) rfl
  have applied : AppliedBy (turnAfter "" [] .initial .empty (applyLevel "debug")) .initial .empty _ :=
    loadsApplies loads
  have unset : (after "" [applyLevel "debug"] .initial .empty).2 = .empty := applied.registers
  rw [List.nil_append, unbound, unset] at run
  cases run with
  | step first rest =>
    have one := (emptyGetLines first).trans (if_pos (by decide))
    exact congrArg (fun n => [n]) one

/- The level `NOTSET` has the least number and shows nothing. -/
theorem notsetHidesRefusals :
    (¬ ∀ call s, Loads .empty call s → s.logLevel.number ≤ LevelName.debug.number →
      ∀ i : Instruction, (i.run .empty ()).log.length = 1 →
        ((Command.perform i).run "" (call.run "" .initial .empty).configuration .empty).errors.length = 1) ∧
    ¬ ∀ call call' s t, Loads .empty call s → Loads .empty call' t → s.logLevel.number ≤ t.logLevel.number →
      ∀ i : Instruction,
        ((Command.perform i).run "" (call'.run "" .initial .empty).configuration .empty).errors.length ≤
        ((Command.perform i).run "" (call.run "" .initial .empty).configuration .empty).errors.length := by
  have quiet : Loads .empty (applyLevel "notset") ⟨.notset, true⟩ := applyLevelLoads (by decide +kernel)
  have loud : Loads .empty (applyLevel "debug") ⟨.debug, true⟩ := applyLevelLoads (by decide +kernel)
  have lines : ∀ {call s}, Loads .empty call s →
      ((Command.perform emptyGet).run "" (call.run "" .initial .empty).configuration .empty).errors.length =
        if s.Shows then 1 else 0 := by
    intro call s loads
    have applied : AppliedBy (call.run "" .initial .empty) .initial .empty s := loadsApplies loads
    rw [applied.configuration]
    exact emptyGetLines (performShown initialStandard (Configuration.agreesFollows (.refl _)) emptyGet)
  constructor
  · intro shown
    have one := shown _ _ quiet (by decide) emptyGet rfl
    rw [lines quiet] at one
    exact absurd one (by decide)
  · intro ordered
    have more := ordered _ _ _ _ quiet loud (by decide) emptyGet
    rw [lines quiet, lines loud] at more
    exact absurd more (by decide)

end Logging
end Perhaps
