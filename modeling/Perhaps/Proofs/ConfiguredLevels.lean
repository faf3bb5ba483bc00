import Perhaps.Proofs.ConfigurationHistory
import Perhaps.Proofs.LevelNames

/-! Levels by name in a call to configure. The name is put into capitals and not stripped; eight names stand for
their numbers and the other texts for that of `INFO`, but for two that lead to something that is no level. With
one of these the call fails and changes nothing. What a setting accepts, and then hands over, is never one. -/
namespace Perhaps.Logging

open Program (Registers)
open Logging.Configuration (packageLogger namedLevel)
open Settings (checkLevel)
open Text (upper)

/- Names, in capitals, that are found where levels are looked up and are those of no level. -/
def strayNames : List (List Char) := ["BASIC_FORMAT".toList, "_STYLES".toList]

def namedCall (s : String) (json : Bool) : Command :=
  .configure (some (.literal (.str s))) (some (.literal (.bool json)))

structure SetsTo (turn : Turn) (start : Configuration) (level : Int) (json : Bool) : Prop where
  reply : turn.reply = .done
  configuration : turn.configuration = start.choose (.of level json)
  level : turn.configuration.ownLevel packageLogger = level

variable {now : String} {c : Configuration} {ρ : Registers} {s : String} {json : Bool}

theorem chosenLevel (c : Configuration) (choice : Choice) :
    (c.choose choice).ownLevel packageLogger = choice.level :=
  (Configuration.agreesFollows (.refl _)).level

theorem namedLevelCases (s : String) :
    (upper s.toList ∈ strayNames ∧ ∃ e, namedLevel s = .error e) ∨
    (∃ l : LevelName, upper s.toList = l.name.toList ∧ namedLevel s = .ok l.number) ∨
    upper s.toList ∉ strayNames ∧ (∀ l : LevelName, upper s.toList ≠ l.name.toList) ∧
      namedLevel s = .ok LevelName.info.number := by
  by_cases format : upper s.toList = "BASIC_FORMAT".toList
  · exact .inl ⟨format ▸ List.mem_cons_self, _, by rw [namedLevel, if_pos format]⟩
  by_cases styles : upper s.toList = "_STYLES".toList
  · exact .inl ⟨styles ▸ List.mem_cons_of_mem _ List.mem_cons_self, _, by
      rw [namedLevel, if_neg format, if_pos styles]⟩
  have looked : namedLevel s = .ok ((LevelName.ofName? (upper s.toList)).getD .info).number := by
    rw [namedLevel, if_neg format, if_neg styles]
  cases found : LevelName.ofName? (upper s.toList) with
  | some l => exact .inr (.inl ⟨l, LevelName.ofNameIff.mp found, by rw [looked, found]; rfl⟩)
  | none =>
    have plain : upper s.toList ∉ strayNames := by
      simpa only [strayNames, List.mem_cons, List.not_mem_nil, or_false, not_or] using ⟨format, styles⟩
    refine .inr (.inr ⟨plain, ?_, by rw [looked, found]; rfl⟩)
    intro l same
    rw [LevelName.ofNameIff.mpr same] at found
    contradiction

theorem levelNameNotStray (l : LevelName) : l.name.toList ∉ strayNames := by
  cases l <;> decide +kernel

theorem namedCallSets {level : Int} (found : namedLevel s = .ok level) :
    SetsTo ((namedCall s json).run now c ρ) c level json := by
  have run : (namedCall s json).run now c ρ = Turn.quiet .done (c.choose (.of level json)) ρ := by
    show Turn.configured .done c ρ (c.configure (.str s) json) = _
    rw [Configuration.configure, Configuration.levelNumber, found]
    rfl
  rw [run]
  exact ⟨rfl, rfl, chosenLevel c (.of level json)⟩

theorem namedCallFails {e : Cause} (failed : namedLevel s = .error e) :
    (namedCall s json).run now c ρ = Turn.quiet (.failed e.fault) c ρ := by
  show Turn.configured .done c ρ (c.configure (.str s) json) = _
  rw [Configuration.configure, Configuration.levelNumber, failed]
  rfl

theorem unnamedInCapitals (unnamed : ∀ l, checkLevel (.str s) ≠ .ok l) (l : LevelName) :
    upper s.toList ≠ l.name.toList := by
  intro same
  have spelled := Text.upperSpelled (LevelName.namePlain l) same
  have named : LevelName.Named l s.toList := ⟨[], s.toList, [], by simp, by simp, by simp, spelled⟩
  exact unnamed l (Settings.checkLevelIff.mpr (LevelName.ofSettingIff.mpr named))

theorem levelsByName (now : String) (c : Configuration) (ρ : Registers) (s : String) (json : Bool) :
    let turn := (namedCall s json).run now c ρ
    (turn.reply.returned = true ↔ upper s.toList ∉ strayNames) ∧
    (∀ l : LevelName, upper s.toList = l.name.toList → SetsTo turn c l.number json) ∧
    ((∀ l : LevelName, upper s.toList ≠ l.name.toList) → upper s.toList ∉ strayNames →
      SetsTo turn c LevelName.info.number json) ∧
    (upper s.toList ∈ strayNames → (∃ f, turn.reply = .failed f) ∧ turn.configuration = c) ∧
    (∀ l, checkLevel (.str s) = .ok l → SetsTo ((namedCall l.name json).run now c ρ) c l.number json) ∧
    ((∀ l, checkLevel (.str s) ≠ .ok l) → upper s.toList ∉ strayNames →
      SetsTo turn c LevelName.info.number json) := by
  intro turn
  have handedOver : ∀ l, checkLevel (.str s) = .ok l →
      SetsTo ((namedCall l.name json).run now c ρ) c l.number json :=
    fun l _ => namedCallSets (namedLevelOfName l)
  rcases namedLevelCases s with ⟨stray, e, failed⟩ | ⟨l, same, found⟩ | ⟨plain, unnamed, found⟩
  case inl =>
    have fails : turn = Turn.quiet (.failed e.fault) c ρ := namedCallFails failed
    have noLevel : ∀ l : LevelName, upper s.toList ≠ l.name.toList :=
      fun l same => levelNameNotStray l (same ▸ stray)
    rw [fails]
    refine ⟨by simp [Turn.quiet, Reply.returned, stray], ?_, ?_, fun _ => ⟨⟨_, rfl⟩, rfl⟩, handedOver, ?_⟩
    · exact fun l same => absurd same (noLevel l)
    · exact fun _ plain => absurd stray plain
    · exact fun _ plain => absurd stray plain
  case inr.inl =>
    have sets : SetsTo turn c l.number json := namedCallSets found
    have plain : upper s.toList ∉ strayNames := same ▸ levelNameNotStray l
    refine ⟨by simp [sets.reply, Reply.returned, plain], ?_, ?_, ?_, handedOver, ?_⟩
    · intro l' same'
      have names : some l = some l' := by rw [← LevelName.nameRead, ← same, same', LevelName.nameRead]
      rwa [← Option.some.inj names]
    · exact fun unnamed _ => absurd same (unnamed l)
    · exact fun stray => absurd stray plain
    · exact fun unnamed _ => absurd same (unnamedInCapitals unnamed l)
  case inr.inr =>
    have sets : SetsTo turn c LevelName.info.number json := namedCallSets found
    refine ⟨by simp [sets.reply, Reply.returned, plain], ?_, fun _ _ => sets, ?_, handedOver, fun _ _ => sets⟩
    · exact fun l same => absurd same (unnamed l)
    · exact fun stray => absurd stray plain

theorem spaceHidesLevel :
    SetsTo ((namedCall "dEbug" true).run "" .initial .empty) .initial 10 true ∧
    SetsTo ((namedCall " debug" true).run "" .initial .empty) .initial 20 true := by
  have spaced : upper " debug".toList = " DEBUG".toList := by decide +kernel
  refine ⟨(levelsByName "" .initial .empty "dEbug" true).2.1 .debug (by decide +kernel), ?_⟩
  refine (levelsByName "" .initial .empty " debug" true).2.2.1 ?_ ?_
  · intro l same
    rw [spaced] at same
    cases l <;> exact absurd same (by decide +kernel)
  · rw [spaced]
    decide +kernel

/- Not every call with a text for its level returns: this one is neither a level nor taken for `INFO`. -/
theorem strayNameRaises :
    (¬ ∀ (s : String) (json : Bool), ((namedCall s json).run "" .initial .empty).reply.returned = true) ∧
    ¬ ∀ s : String, Text.strip s.toList = s.toList → (∀ l, checkLevel (.str s) ≠ .ok l) →
      SetsTo ((namedCall s false).run "" .initial .empty) .initial LevelName.info.number false := by
  have failed : namedLevel "BASIC_FORMAT" =
      .error (.missingKey (.str "%(levelname)s:%(name)s:%(message)s")) := by
    rw [namedLevel, if_pos (by decide +kernel)]
  have fails : (namedCall "BASIC_FORMAT" false).run "" .initial .empty = Turn.quiet (.failed _) .initial .empty :=
    namedCallFails failed
  constructor
  · intro returns
    have returned := returns "BASIC_FORMAT" false
    rw [fails] at returned
    contradiction
  · intro sets
    have unnamed : LevelName.ofSetting? "BASIC_FORMAT".toList = none := by decide +kernel
    have set := sets "BASIC_FORMAT" (by decide +kernel) fun l accepted => by
      rw [Settings.checkLevelIff, unnamed] at accepted
      contradiction
    have reply := set.reply
    rw [fails] at reply
    contradiction

end Perhaps.Logging
