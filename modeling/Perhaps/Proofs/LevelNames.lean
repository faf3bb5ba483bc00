import Perhaps.Proofs.Spelling
import Perhaps.Settings.Validation

/-! The texts that name a level in a setting: white space, a spelling of the level's name, white space. All
other texts are refused as they were given. White space at the ends and a change to capitals make no difference
to the level that is named. -/
namespace Perhaps

open Text (isBlank upper strip Plain Spells)

namespace Logging.LevelName

theorem namePlain (l : LevelName) : Plain l.name.toList := by
  have capitals : l.name.toList.all Char.isUpper = true := by cases l <;> decide +kernel
  refine ⟨List.all_eq_true.mp capitals, ?_⟩
  cases l <;> decide +kernel

def Named (l : LevelName) (s : List Char) : Prop :=
  ∃ before text after, s = before ++ text ++ after ∧ (∀ c ∈ before, isBlank c = true) ∧
    (∀ c ∈ after, isBlank c = true) ∧ List.Forall₂ Spells l.name.toList text

theorem ofNameIff {s : List Char} {l : LevelName} : ofName? s = some l ↔ s = l.name.toList := by
  constructor
  · intro found
    have same : (l.name.toList == s) = true := by simpa using List.find?_some found
    exact (beq_iff_eq.mp same).symm
  · intro same
    rw [same, nameRead]

theorem ofSettingIff {s : List Char} {l : LevelName} : ofSetting? s = some l ↔ Named l s := by
  rw [ofSetting?, ofNameIff, Text.upperIffSpelled (namePlain l)]
  constructor
  · intro spelled
    obtain ⟨before, after, split, front, back⟩ := Text.stripSplit s
    exact ⟨before, strip s, after, split, front, back, spelled⟩
  · rintro ⟨before, text, after, rfl, front, back, spelled⟩
    have solid := Text.spelledTextSolid (namePlain l).capitals spelled
    rwa [Text.stripPadded text front back, Text.stripSolid solid]

theorem ofSettingPadded (s : List Char) {before after : List Char} (front : ∀ c ∈ before, isBlank c = true)
    (back : ∀ c ∈ after, isBlank c = true) : ofSetting? (before ++ s ++ after) = ofSetting? s := by
  rw [ofSetting?, Text.stripPadded s front back, ofSetting?]

theorem ofSettingUpper (s : List Char) : ofSetting? (upper s) = ofSetting? s := by
  ext l
  rw [ofSetting?, Text.stripUpper, ofNameIff, Text.upperOnceMore (namePlain l), ofSetting?, ofNameIff]

theorem ofSettingName (l : LevelName) : ofSetting? l.name.toList = some l :=
  ofSettingIff.mpr ⟨[], l.name.toList, [], by simp, by simp, by simp, List.forall₂_same.mpr fun _ _ => .capital⟩

end Logging.LevelName

namespace Settings

open Logging (LevelName)
open Logging.LevelName (Named)

theorem checkLevelIff {s : String} {l : LevelName} :
    checkLevel (.str s) = .ok l ↔ LevelName.ofSetting? s.toList = some l := by
  rw [checkLevel]
  cases LevelName.ofSetting? s.toList <;> simp

theorem checkLevelRefused {s : String} (unnamed : LevelName.ofSetting? s.toList = none) :
    checkLevel (.str s) = .error (.unknownLevel (.str s)) := by
  rw [checkLevel, unnamed]

theorem validateLevelIff {s : String} {l : LevelName} :
    validateLogLevel (.str s) = .ok l ↔ LevelName.ofSetting? s.toList = some l := by
  rw [validateLogLevel, parseLogLevel]
  cases LevelName.ofSetting? s.toList <;> simp

theorem levelLanguage :
    (∀ s l, checkLevel (.str s) = .ok l ↔ Named l s.toList) ∧
    (∀ s, (∀ l, ¬ Named l s.toList) → ∃ e, checkLevel (.str s) = .error e ∧
      e.fault.kind = .standard .valueError ∧
      e.fault.message = String.join ["Unknown log level: ", String.ofList (Text.quoted s.toList)]) ∧
    (∀ s l l', Named l s → Named l' s → l = l') ∧
    (∀ l : LevelName, checkLevel (.str l.name) = .ok l) ∧
    (∀ before s after, (∀ c ∈ before, isBlank c = true) → (∀ c ∈ after, isBlank c = true) →
      ∀ l, checkLevel (.str (String.ofList (before ++ s ++ after))) = .ok l ↔
        checkLevel (.str (String.ofList s)) = .ok l) ∧
    (∀ s l, checkLevel (.str (String.ofList (upper s))) = .ok l ↔ checkLevel (.str (String.ofList s)) = .ok l) ∧
    (∀ s l, validateLogLevel (.str s) = .ok l ↔ Named l s.toList) := by
  refine ⟨?accepted, ?refused, ?unique, ?again, ?padded, ?raised, ?validated⟩
  case accepted =>
    intro s l
    rw [checkLevelIff, LevelName.ofSettingIff]
  case refused =>
    intro s unnamed
    have none : LevelName.ofSetting? s.toList = none :=
      Option.eq_none_iff_forall_ne_some.mpr fun l found => unnamed l (LevelName.ofSettingIff.mp found)
    exact ⟨_, checkLevelRefused none, rfl, Cause.messageFault _⟩
  case unique =>
    intro s l l' first second
    rw [← LevelName.ofSettingIff] at first second
    exact Option.some.inj (first.symm.trans second)
  case again =>
    exact fun l => checkLevelIff.mpr (LevelName.ofSettingName l)
  case padded =>
    intro before s after front back l
    rw [checkLevelIff, checkLevelIff, String.toList_ofList, String.toList_ofList,
      LevelName.ofSettingPadded s front back]
  case raised =>
    intro s l
    rw [checkLevelIff, checkLevelIff, String.toList_ofList, String.toList_ofList, LevelName.ofSettingUpper]
  case validated =>
    intro s l
    rw [validateLevelIff, LevelName.ofSettingIff]

/- A dotless letter between wide spaces is accepted, an invisible character in front of a name is not. -/
theorem dotlessNameAccepted :
    checkLevel (.str "\u2003\u0131Nfo\n") = .ok .info ∧
    ∃ e, checkLevel (.str "\u200bDEBUG") = .error e ∧ e.fault.kind = .standard .valueError ∧
      e.fault.message = String.join ["Unknown log level: ", String.ofList (Text.quoted "\u200bDEBUG".toList)] := by
  have named : Named .info "\u2003\u0131Nfo\n".toList :=
    ⟨['\u2003'], ['\u0131', 'N', 'f', 'o'], ['\n'], rfl,
      List.forall_mem_singleton.mpr (by decide +kernel), List.forall_mem_singleton.mpr (by decide +kernel),
      .cons (.dotless rfl) (.cons .capital (.cons .small (.cons .small .nil)))⟩
  refine ⟨(levelLanguage.1 _ _).mpr named, levelLanguage.2.1 _ fun l named => ?_⟩
  have found := LevelName.ofSettingIff.mpr named
  have none : LevelName.ofSetting? "\u200bDEBUG".toList = none := by decide +kernel
  rw [none] at found
  contradiction

end Settings
end Perhaps
