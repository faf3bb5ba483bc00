import Perhaps.Proofs.FileReferences
import Perhaps.Proofs.LevelNames
import Perhaps.Settings

/-! Settings from several sources. One value wins for each field, that of the first source which has a value for
it; these two are validated, and nothing else has a say in what a load gives. Which value wins depends on what
goes by the field's name, in any case, in the source that it comes from and in those before it. -/
namespace Perhaps

namespace Fields

variable {β : Type}

theorem keepKeep {p q : String → Bool} (covers : ∀ name, p name = true → q name = true) (fs : Fields β) :
    keep p (keep q fs) = keep p fs := by
  rw [keep, keep, List.filter_filter, keep]
  refine List.filter_congr fun f _ => ?_
  cases wanted : p f.1 with
  | false => rfl
  | true => rw [covers f.1 wanted]; rfl

end Fields

namespace Settings

variable {β : Type}

def goesBy (wanted name : String) : Bool := name.map Char.toLower = wanted

inductive First (wanted : String) (v : β) : Fields β → Prop where
  | here {name : String} (called : goesBy wanted name = true) (rest : Fields β) : First wanted v ((name, v) :: rest)
  | later {f : String × β} {rest : Fields β} (other : goesBy wanted f.1 = false) (first : First wanted v rest) :
      First wanted v (f :: rest)

inductive Last (wanted : String) (v : β) : Fields β → Prop where
  | here {name : String} {rest : Fields β} (called : goesBy wanted name = true)
      (others : ∀ f ∈ rest, goesBy wanted f.1 = false) : Last wanted v ((name, v) :: rest)
  | later {f : String × β} {rest : Fields β} (last : Last wanted v rest) : Last wanted v (f :: rest)

theorem firstNamedCons (f : String × β) (fields : Fields β) (wanted : String) :
    firstNamed (f :: fields) wanted = if goesBy wanted f.1 then some f.2 else firstNamed fields wanted := by
  cases called : goesBy wanted f.1 <;> simp_all [firstNamed, goesBy]

theorem firstNamedIff {fields : Fields β} {wanted : String} {v : β} :
    firstNamed fields wanted = some v ↔ First wanted v fields := by
  constructor
  · intro found
    induction fields with
    | nil => contradiction
    | cons f fields ih =>
      rw [firstNamedCons] at found
      cases called : goesBy wanted f.1 with
      | true =>
        rw [called] at found
        cases found
        exact .here called fields
      | false =>
        rw [called] at found
        exact .later called (ih found)
  · intro first
    induction first with
    | here called rest => rw [firstNamedCons, called]; rfl
    | later other first ih => rw [firstNamedCons, other]; exact ih

theorem lastNamedCons (f : String × β) (fields : Fields β) (wanted : String) :
    lastNamed (f :: fields) wanted =
      (lastNamed fields wanted).or (if goesBy wanted f.1 then some f.2 else none) := by
  rw [lastNamed, firstNamed, List.reverse_cons, List.find?_append, lastNamed, firstNamed]
  cases List.find? _ fields.reverse with
  | some g => rfl
  | none => cases called : goesBy wanted f.1 <;> simp_all [goesBy]

theorem lastNamedNone {fields : Fields β} {wanted : String} :
    lastNamed fields wanted = none ↔ ∀ f ∈ fields, goesBy wanted f.1 = false := by
  simp [lastNamed, firstNamed, goesBy]

theorem lastNamedIff {fields : Fields β} {wanted : String} {v : β} :
    lastNamed fields wanted = some v ↔ Last wanted v fields := by
  constructor
  · intro found
    induction fields with
    | nil => contradiction
    | cons f fields ih =>
      rw [lastNamedCons] at found
      cases below : lastNamed fields wanted with
      | some w =>
        rw [below] at found ih
        exact .later (ih found)
      | none =>
        rw [below] at found
        cases called : goesBy wanted f.1 with
        | true =>
          rw [called] at found
          cases found
          exact .here called (lastNamedNone.mp below)
        | false =>
          rw [called] at found
          contradiction
  · intro last
    induction last with
    | here called others => rw [lastNamedCons, lastNamedNone.mpr others, called]; rfl
    | later last ih => rw [lastNamedCons, ih]; rfl

theorem firstNamedKeep (fields : Fields β) (wanted : String) :
    firstNamed (fields.keep (goesBy wanted)) wanted = firstNamed fields wanted := by
  rw [firstNamed, Fields.keep, List.find?_filter, firstNamed]
  simp [goesBy]

theorem lastNamedKeep (fields : Fields β) (wanted : String) :
    lastNamed (fields.keep (goesBy wanted)) wanted = lastNamed fields wanted := by
  rw [lastNamed, Fields.keep, ← List.filter_reverse, lastNamed]
  exact firstNamedKeep fields.reverse wanted

inductive Origin where
  | argument
  | environment
  | file
  | default
  deriving DecidableEq, Repr

def Origin.rank : Origin → Nat
  | .argument => 0
  | .environment => 1
  | .file => 2
  | .default => 3

theorem Origin.rankInjective {o o' : Origin} (same : o.rank = o'.rank) : o = o' := by
  cases o <;> cases o' <;> first | rfl | contradiction

namespace Sources

def fileBindings (s : Sources) : List EnvFile.Binding := (s.file.map EnvFile.bindings).getD []

def fileVariables (s : Sources) : Fields (Option String) := (s.file.map (EnvFile.assigned s.visible)).getD []

end Sources

/- The value that a source has for a field. A variable of the file without a value supplies none. -/
inductive Supplies (s : Sources) (f : Field) : Origin → Value → Prop where
  | argument {v : Value} (first : First f.name v s.arguments) : Supplies s f .argument v
  | environment {text : String} (last : Last f.variableName text s.visible) :
      Supplies s f .environment (.str text)
  | file {text : String} (last : Last f.variableName (some text) s.fileVariables) : Supplies s f .file (.str text)
  | default : Supplies s f .default f.default

structure Wins (s : Sources) (f : Field) (o : Origin) (v : Value) : Prop where
  supplied : Supplies s f o v
  first : ∀ o' v', Supplies s f o' v' → o.rank ≤ o'.rank

namespace Sources

def supplied? (s : Sources) (f : Field) : Origin → Option Value
  | .argument => firstNamed s.arguments f.name
  | .environment => (lastNamed s.visible f.variableName).map .str
  | .file => (lastNamed s.fileVariables f.variableName).bind fun text => text.map .str
  | .default => some f.default

theorem suppliedIff {s : Sources} {f : Field} {o : Origin} {v : Value} :
    s.supplied? f o = some v ↔ Supplies s f o v := by
  constructor
  · intro found
    cases o with
    | argument => exact .argument (firstNamedIff.mp found)
    | environment =>
      obtain ⟨text, last, rfl⟩ := Option.map_eq_some_iff.mp found
      exact .environment (lastNamedIff.mp last)
    | file =>
      obtain ⟨text, last, given⟩ := Option.bind_eq_some_iff.mp found
      obtain ⟨text, rfl, rfl⟩ := Option.map_eq_some_iff.mp given
      exact .file (lastNamedIff.mp last)
    | default =>
      cases found
      exact .default
  · intro supplies
    cases supplies with
    | argument first => exact firstNamedIff.mpr first
    | environment last => rw [supplied?, lastNamedIff.mpr last]; rfl
    | file last => rw [supplied?, lastNamedIff.mpr last]; rfl
    | default => rfl

theorem fromFileSupplied (s : Sources) (f : Field) : s.fromFile? f = s.supplied? f .file := by
  rw [fromFile?, supplied?, fileVariables]
  cases s.file <;> rfl

theorem valueSupplied (s : Sources) (f : Field) :
    s.value f = ((s.supplied? f .argument).or ((s.supplied? f .environment).or (s.supplied? f .file))).getD
      f.default := by
  have arguments : firstNamed s.arguments f.name = s.supplied? f .argument := rfl
  have environment : s.fromEnvironment? f = s.supplied? f .environment := rfl
  rw [value, arguments, environment, fromFileSupplied]
  cases s.supplied? f .argument with
  | some v => rfl
  | none => cases s.supplied? f .environment <;> rfl

end Sources

variable {s t : Sources} {f : Field} {o o' : Origin} {v v' w : Value}

theorem winsIff : Wins s f o v ↔ s.supplied? f o = some v ∧ ∀ o', o'.rank < o.rank → s.supplied? f o' = none := by
  constructor
  · intro wins
    refine ⟨Sources.suppliedIff.mpr wins.supplied, fun o' before => ?_⟩
    refine Option.eq_none_iff_forall_ne_some.mpr fun v' given => ?_
    exact Nat.not_le_of_lt before (wins.first o' v' (Sources.suppliedIff.mp given))
  · rintro ⟨given, missing⟩
    refine ⟨Sources.suppliedIff.mp given, fun o' v' supplies => Nat.le_of_not_lt fun before => ?_⟩
    rw [← Sources.suppliedIff, missing o' before] at supplies
    contradiction

theorem valueWins (s : Sources) (f : Field) : ∃ o, Wins s f o (s.value f) := by
  simp only [winsIff, Sources.valueSupplied]
  cases argument : s.supplied? f .argument with
  | some v => exact ⟨.argument, argument, fun _ before => nomatch before⟩
  | none =>
    cases environment : s.supplied? f .environment with
    | some v =>
      refine ⟨.environment, environment, fun o before => ?_⟩
      cases o <;> first | assumption | contradiction
    | none =>
      cases file : s.supplied? f .file with
      | some v =>
        refine ⟨.file, file, fun o before => ?_⟩
        cases o <;> first | assumption | contradiction
      | none =>
        refine ⟨.default, rfl, fun o before => ?_⟩
        cases o <;> first | assumption | contradiction

theorem winnerUnique (first : Wins s f o v) (second : Wins s f o' v') : o = o' ∧ v = v' := by
  have same : o = o' := Origin.rankInjective
    (Nat.le_antisymm (first.first o' v' second.supplied) (second.first o v first.supplied))
  subst same
  exact ⟨rfl, Option.some.inj ((winsIff.mp first).1.symm.trans (winsIff.mp second).1)⟩

theorem winnerIsValue (wins : Wins s f o v) : v = s.value f := by
  obtain ⟨o', value⟩ := valueWins s f
  exact (winnerUnique wins value).2

def Field.problem? : Field → Value → Option Problem
  | .logLevel, v => match validateLogLevel v with
    | .ok _ => none
    | .error p => some p
  | .jsonLogs, v => match validateJsonLogs v with
    | .ok _ => none
    | .error p => some p

def issueWith (f : Field) (v : Value) : Option Issue := (f.problem? v).map fun p => ⟨f, p, v⟩

theorem issuesIff {i : Issue} {is issues : List Issue} :
    (.error (i :: is) : Except (List Issue) Settings) = .error issues ↔ issues ≠ [] ∧ issues = i :: is := by
  constructor
  · intro same
    cases same
    exact ⟨List.cons_ne_nil i is, rfl⟩
  · rintro ⟨-, rfl⟩
    rfl

theorem validateAccepted {level switch : Value} {r : Settings} :
    validate level switch = .ok r ↔
      validateLogLevel level = .ok r.logLevel ∧ validateJsonLogs switch = .ok r.jsonLogs := by
  obtain ⟨l, j⟩ := r
  rw [validate]
  cases validateLogLevel level <;> cases validateJsonLogs switch <;> simp

theorem validateRefused {level switch : Value} {issues : List Issue} : validate level switch = .error issues ↔
    issues ≠ [] ∧ issues = (issueWith .logLevel level).toList ++ (issueWith .jsonLogs switch).toList := by
  rw [validate, issueWith, issueWith, Field.problem?, Field.problem?]
  cases validateLogLevel level with
  | ok l =>
    cases validateJsonLogs switch with
    | ok j => exact ⟨nofun, fun given => absurd given.2 given.1⟩
    | error q => exact issuesIff
  | error p => cases validateJsonLogs switch <;> exact issuesIff

theorem issueWithNone {v : Value} : (issueWith f v).toList = [] ↔ f.problem? v = none := by
  rw [Option.toList_eq_nil_iff, issueWith, Option.map_eq_none_iff]

structure Decided (s : Sources) (level switch : Value) : Prop where
  failed : (∃ issues, load s = .error issues) ↔
    Field.logLevel.problem? level ≠ none ∨ Field.jsonLogs.problem? switch ≠ none
  accepted : ∀ r, load s = .ok r ↔
    validateLogLevel level = .ok r.logLevel ∧ validateJsonLogs switch = .ok r.jsonLogs
  refused : ∀ issues, load s = .error issues ↔ issues ≠ [] ∧
    issues = (issueWith .logLevel level).toList ++ (issueWith .jsonLogs switch).toList
  named : ∀ r text, load s = .ok r → level = .str text → Logging.LevelName.Named r.logLevel text.toList

theorem loadDecided (s : Sources) : Decided s (s.value .logLevel) (s.value .jsonLogs) := by
  refine ⟨?failed, fun _ => validateAccepted, fun _ => validateRefused, ?named⟩
  case failed =>
    rw [← not_and_or, ← issueWithNone, ← issueWithNone, ← List.append_eq_nil_iff]
    constructor
    · rintro ⟨issues, loaded⟩
      obtain ⟨given, same⟩ := validateRefused.mp loaded
      exact same ▸ given
    · exact fun given => ⟨_, validateRefused.mpr ⟨given, rfl⟩⟩
  case named =>
    intro r text loaded given
    have level := (validateAccepted.mp loaded).1
    rw [given, validateLevelIff] at level
    exact Logging.LevelName.ofSettingIff.mp level

/- Sources that have the same under a field's name, in any case, down to the source of an origin. -/
structure Alike (f : Field) (o : Origin) (s t : Sources) : Prop where
  arguments : s.arguments.keep (goesBy f.name) = t.arguments.keep (goesBy f.name)
  environment : Origin.environment.rank ≤ o.rank →
    Fields.keep (goesBy f.variableName) s.environment = Fields.keep (goesBy f.variableName) t.environment
  file : Origin.file.rank ≤ o.rank →
    s.fileVariables.keep (goesBy f.variableName) = t.fileVariables.keep (goesBy f.variableName)

theorem visibleKeep (s : Sources) (p : String → Bool) :
    s.visible.keep p = Fields.ofAssignments (Fields.keep p s.environment) :=
  Fields.keepOfAssignments p s.environment

theorem alikeSupplied (alike : Alike f o s t) (within : o'.rank ≤ o.rank) :
    s.supplied? f o' = t.supplied? f o' := by
  cases o' with
  | argument =>
    show firstNamed s.arguments f.name = firstNamed t.arguments f.name
    rw [← firstNamedKeep, alike.arguments, firstNamedKeep]
  | environment =>
    rw [Sources.supplied?, ← lastNamedKeep, visibleKeep, alike.environment within, ← visibleKeep, lastNamedKeep]
    rfl
  | file =>
    rw [Sources.supplied?, ← lastNamedKeep, alike.file within, lastNamedKeep]
    rfl
  | default => rfl

theorem alikeWins (alike : Alike f o s t) (wins : Wins s f o v) : Wins t f o v := by
  rw [winsIff] at wins ⊢
  refine ⟨alikeSupplied alike (Nat.le_refl _) ▸ wins.1, fun o' before => ?_⟩
  rw [← alikeSupplied alike (Nat.le_of_lt before)]
  exact wins.2 o' before

theorem sameWinnersLoad (same : ∀ f o v, Wins s f o v → ∃ o', Wins t f o' v) : load s = load t := by
  have values : ∀ f, s.value f = t.value f := by
    intro f
    obtain ⟨o, wins⟩ := valueWins s f
    obtain ⟨o', wins'⟩ := same f o _ wins
    exact winnerIsValue wins'
  rw [load, load, values, values]

/- Files and environments that have the same under a set of names, among them those that a field goes by and
those that the values of the file refer to. -/
structure FilesAlike (f : Field) (p : String → Bool) (s t : Sources) : Prop where
  covers : ∀ name, goesBy f.variableName name = true → p name = true
  bindings : EnvFile.kept p s.fileBindings = EnvFile.kept p t.fileBindings
  confined : EnvFile.Confined p (EnvFile.kept p s.fileBindings)
  visible : ∀ name, p name = true → s.visible.get? name = t.visible.get? name

theorem fileVariablesAssigned (s : Sources) : s.fileVariables =
    (EnvFile.assign s.visible s.fileBindings []).map fun v => (v.1, v.2.map String.ofList) := by
  rw [Sources.fileVariables, Sources.fileBindings]
  cases s.file <;> rfl

theorem filesAlikeKeep {p : String → Bool} (alike : FilesAlike f p s t) :
    s.fileVariables.keep (goesBy f.variableName) = t.fileVariables.keep (goesBy f.variableName) := by
  have inside : s.fileVariables.keep p = t.fileVariables.keep p := by
    rw [fileVariablesAssigned, fileVariablesAssigned, Fields.keepMap p, Fields.keepMap p,
      EnvFile.assignConfined alike.visible alike.bindings alike.confined]
  rw [← Fields.keepKeep alike.covers, inside, Fields.keepKeep alike.covers]

structure Reordered (s t : Sources) : Prop where
  arguments : ∀ wanted, s.arguments.keep (goesBy wanted) = t.arguments.keep (goesBy wanted)
  environment : ∀ wanted, Fields.keep (goesBy wanted) s.environment = Fields.keep (goesBy wanted) t.environment
  file : s.file = t.file

theorem reorderedVisible (reordered : Reordered s t) (name : String) :
    s.visible.get? name = t.visible.get? name := by
  have itself : goesBy (name.map Char.toLower) name = true := decide_eq_true rfl
  rw [← Fields.getKeep itself, visibleKeep, reordered.environment, ← visibleKeep, Fields.getKeep itself]

theorem reorderedLoad (reordered : Reordered s t) : load s = load t := by
  have bindings : s.fileBindings = t.fileBindings := by
    rw [Sources.fileBindings, reordered.file, Sources.fileBindings]
  refine sameWinnersLoad fun f o v wins => ⟨o, alikeWins ⟨?arguments, ?environment, ?file⟩ wins⟩
  case arguments => exact reordered.arguments f.name
  case environment => exact fun _ => reordered.environment f.variableName
  case file =>
    have all : FilesAlike f (fun _ => true) s t :=
      ⟨fun _ _ => rfl, by rw [bindings], fun _ _ _ _ _ _ => rfl, fun name _ => reorderedVisible reordered name⟩
    exact fun _ => filesAlikeKeep all

theorem winningValuesDecide :
    (∀ s f, ∃ o v, Wins s f o v) ∧
    (∀ s f o v o' v', Wins s f o v → Wins s f o' v' → o = o' ∧ v = v') ∧
    (∀ s o v o' w, Wins s .logLevel o v → Wins s .jsonLogs o' w → Decided s v w) ∧
    (∀ s t, (∀ f o v, Wins s f o v → ∃ o', Wins t f o' v) → load s = load t) ∧
    (∀ f o v s t, Alike f o s t → Wins s f o v → Wins t f o v) ∧
    (∀ f p s t, FilesAlike f p s t →
      s.fileVariables.keep (goesBy f.variableName) = t.fileVariables.keep (goesBy f.variableName)) ∧
    (∀ s t, Reordered s t → load s = load t) ∧
    ∀ s r, load s = .ok r → r.logLevel.name ∈
      ["CRITICAL", "FATAL", "ERROR", "WARN", "WARNING", "INFO", "DEBUG", "NOTSET"] := by
  refine ⟨?winner, ?unique, ?decided, ?agree, ?alike, ?files, ?reordered, ?level⟩
  case winner => exact fun s f => (valueWins s f).imp fun _ wins => ⟨_, wins⟩
  case unique => exact fun _ _ _ _ _ _ => winnerUnique
  case decided =>
    intro s o v o' w level switch
    rw [winnerIsValue level, winnerIsValue switch]
    exact loadDecided s
  case agree => exact fun _ _ => sameWinnersLoad
  case alike => exact fun _ _ _ _ _ => alikeWins
  case files => exact fun _ _ _ _ => filesAlikeKeep
  case reordered => exact fun _ _ => reorderedLoad
  case level =>
    intro s r _
    cases r.logLevel <;> decide

theorem maskedValuesIgnored :
    let s : Sources := ⟨[("Log_Level", .str "debug")],
      [("PRESENCE_JSON_LOGS", "maybe"), ("PRESENCE_LOG_LEVEL", "loud")], some "presence_json_logs=on"⟩
    let t : Sources := ⟨[("colour", .int 1), ("Log_Level", .str "debug")],
      [("LEVEL", "info"), ("PRESENCE_JSON_LOGS", "maybe")], none⟩
    load s = load t ∧ load s = .error [⟨.jsonLogs, .unclearBoolean, .str "maybe"⟩] := by
  intro s t
  obtain ⟨-, unique, decided, agree, alike, -⟩ := winningValuesDecide
  have named : goesBy "log_level" "Log_Level" = true := by decide +kernel
  have others : goesBy "log_level" "colour" = false ∧ goesBy "json_logs" "colour" = false ∧
      goesBy "json_logs" "Log_Level" = false := by decide +kernel
  have visible : s.visible = s.environment := by decide +kernel
  have level : Wins s .logLevel .argument (.str "debug") :=
    ⟨.argument (.here named []), fun _ _ _ => Nat.zero_le _⟩
  have switch : Wins s .jsonLogs .environment (.str "maybe") := by
    refine ⟨.environment ?_, fun o v supplies => ?_⟩
    · rw [visible]
      exact .here (by decide +kernel) (List.forall_mem_singleton.mpr (by decide +kernel))
    · cases supplies with
      | argument first =>
        have missing : firstNamed s.arguments "json_logs" = none := by
          rw [firstNamedCons, others.2.2]
          rfl
        rw [← firstNamedIff, Field.name, missing] at first
        contradiction
      | environment | file | default => decide
  have levelAlike : Alike .logLevel .argument s t :=
    ⟨by simp [s, t, Fields.keep, Field.name, named, others], fun below => absurd below (by decide),
      fun below => absurd below (by decide)⟩
  have switchAlike : Alike .jsonLogs .environment s t :=
    ⟨by simp [s, t, Fields.keep, Field.name, others], fun _ => by decide +kernel,
      fun below => absurd below (by decide)⟩
  constructor
  · refine agree s t fun f o v wins => ⟨o, ?_⟩
    cases f with
    | logLevel =>
      obtain ⟨rfl, rfl⟩ := unique _ _ _ _ _ _ wins level
      exact alike _ _ _ _ _ levelAlike wins
    | jsonLogs =>
      obtain ⟨rfl, rfl⟩ := unique _ _ _ _ _ _ wins switch
      exact alike _ _ _ _ _ switchAlike wins
  · refine ((decided _ _ _ _ _ level switch).refused _).mpr ⟨List.cons_ne_nil _ _, ?_⟩
    have fine : Field.logLevel.problem? (.str "debug") = none := by decide +kernel
    have unclear : Field.jsonLogs.problem? (.str "maybe") = some .unclearBoolean := by decide +kernel
    rw [issueWith, issueWith, fine, unclear]
    rfl

end Settings
end Perhaps
