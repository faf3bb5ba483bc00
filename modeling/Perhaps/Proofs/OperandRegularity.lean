import Perhaps.Proofs.Mentions
import Perhaps.Proofs.Regularity

/-! Operands, the stock of functions, and assertions. Each keeps what is asked of the values it is given, and
none of them logs anything that a container does not. -/
namespace Perhaps.Program

/- The registers that may be read hold values with the property. -/
def Registers.Hold (p : Value → Bool) (r : String → Bool) (ρ : Registers) : Prop :=
  ∀ name v, r name = true → ρ.get? name = some v → v.everywhere p = true

variable {σ : Type} {p : Value → Bool} {r : String → Bool} {ρ : Registers}

theorem containerOfKeeps (closed : Value.Closed p) {v : Value} (all : v.everywhere p = true) :
    Run.Answers p (Value.ofContainer <$> Container.of v : Run σ Value) := by
  cases v with
  | absent => exact Run.keepsRefuse .nullValue (by decide) _
  | _ =>
    refine Run.keepsPure (Value.ofContainerEverywhere closed fun u hu => ?_)
    cases hu
    exact ⟨by simp, all⟩

theorem ofNullableKeeps (closed : Value.Closed p) {v : Value} (all : v.everywhere p = true) :
    Run.Answers p (Value.ofContainer <$> Container.ofNullable v : Run σ Value) := by
  refine Run.keepsPure (Value.ofContainerEverywhere closed fun u hu => ?_)
  obtain ⟨there, rfl⟩ := Value.toOptionThere hu
  exact ⟨there, all⟩

theorem hashKeeps (closed : Value.Closed p) (v : Value) :
    Run.Keeps p (Run.ofExcept v.hashCode? : Run σ HashCode) fun _ => True := by
  unfold Value.hashCode?
  cases v.hashCode with
  | ok h => exact Run.keepsPure trivial
  | error t => exact Run.keepsText closed rfl

theorem arithmeticKeeps (closed : Value.Closed p) (f : Arithmetic) (n : Int) (x : Value) :
    Run.Answers p (Run.attempt (f.apply n x) : Run σ Value) := by
  unfold Arithmetic.apply
  split
  · exact Run.keepsText closed rfl
  · cases x with
    | int m => cases f <;> first | exact Run.keepsPure (closed.int _) | exact Run.keepsPure (closed.bool _)
    | _ => exact Run.keepsText closed rfl

theorem lengthKeeps (closed : Value.Closed p) (x : Value) :
    Run.Answers p (Run.attempt (length x) : Run σ Value) := by
  cases x with
  | str | bytes | list | tuple | dict => exact Run.keepsPure (closed.int _)
  | _ => exact Run.keepsText closed rfl

theorem readIntKeeps (closed : Value.Closed p) (x : Value) :
    Run.Answers p (Run.attempt (readInt x) : Run σ Value) := by
  cases x with
  | str s =>
    simp only [readInt]
    split
    · split
      · exact Run.keepsText closed rfl
      · exact Run.keepsPure (closed.int _)
    · exact Run.keepsText closed rfl
  | _ => exact Run.keepsText closed rfl

theorem concatKeeps (closed : Value.Closed p) (tail : String) (x : Value) :
    Run.Answers p (Run.attempt (concat tail x) : Run σ Value) := by
  cases x with
  | str s => exact Run.keepsPure (closed.str _)
  | _ => exact Run.keepsText closed rfl

theorem countKeeps (closed : Value.Closed p) (part : String) (x : Value) :
    Run.Answers p (Run.attempt (count part x) : Run σ Value) := by
  cases x with
  | str s => exact Run.keepsPure (closed.int _)
  | _ => exact Run.keepsText closed rfl

theorem entryKeeps (closed : Value.Closed p) (key : Value) {x : Value} (hx : x.everywhere p = true) :
    Run.Answers p (Run.attempt (entry key x) : Run σ Value) := by
  cases x with
  | dict entries =>
    rw [Value.everywhere, Bool.and_eq_true] at hx
    unfold entry lookUp
    cases key.hashCode with
    | error t => exact Run.keepsText closed rfl
    | ok h =>
      refine Run.keepsPure ?_
      cases found : Value.entry? entries key with
      | none => exact closed.absent
      | some v => exact Value.entryEverywhere hx.2 found
  | _ => exact Run.keepsText closed rfl

theorem itemKeeps (closed : Value.Closed p) {key x : Value} (hk : key.everywhere p = true)
    (hx : x.everywhere p = true) : Run.Answers p (Run.attempt (item key x) : Run σ Value) := by
  cases x with
  | dict entries =>
    rw [Value.everywhere, Bool.and_eq_true] at hx
    cases hashed : key.hashCode with
    | error t =>
      simp only [item, lookUp, hashed]
      exact Run.keepsText closed rfl
    | ok h =>
      cases found : Value.entry? entries key with
      | none =>
        simp only [item, lookUp, hashed, found]
        exact Run.keepsFail (by simp [Cause.args, Value.itemsEverywhere, hk])
      | some v =>
        simp only [item, lookUp, hashed, found]
        exact Run.keepsPure (Value.entryEverywhere hx.2 found)
  | list items =>
    rw [Value.everywhere, Bool.and_eq_true] at hx
    cases key with
    | int n =>
      simp only [item]
      cases found : if n < 0 then none else items[n.toNat]? with
      | none => exact Run.keepsText closed rfl
      | some v =>
        split at found
        · contradiction
        · exact Run.keepsPure (Value.itemsEverywhereIff.mp hx.2 v (List.mem_of_getElem? found))
    | _ => exact Run.keepsText closed rfl
  | _ => exact Run.keepsText closed rfl

theorem hashValueKeeps (closed : Value.Closed p) (v : Value) :
    Run.Answers p (hashValue v : Run σ Value) := by
  refine Run.keepsBind (hashKeeps closed v) fun h _ => ?_
  cases h with
  | number n => exact Run.keepsPure (closed.int n)
  | other => exact Run.keepsPure (closed.str _)

theorem comparisonKeeps (closed : Value.Closed p) (s v : Value) :
    Run.Answers p (Run.attempt (comparisonValue s v) : Run σ Value) := by
  unfold comparisonValue
  split
  · exact Run.keepsText closed rfl
  · exact Run.keepsPure (closed.bool _)
  · exact Run.keepsPure closed.notImplemented

def FailsWithText {α : Type} (r : Except Cause α) : Prop := ∀ c, r = .error c → c.args = [.str c.wording]

theorem orderedText (rel : Relation) (s v : Value) : FailsWithText (s.ordered rel v) := by
  refine Value.ordered.induct (fun s v => FailsWithText (s.ordered rel v))
    (fun xs ys => FailsWithText (Value.orderedItems rel xs ys))
    ?text ?bytes ?list ?tuple ?numbers ?alike ?different ?left ?right s v
  case text => intro s t c h; rw [Value.ordered] at h; cases h
  case bytes => intro bs cs c h; rw [Value.ordered] at h; cases h
  case list => intro xs ys ih; rwa [Value.ordered]
  case tuple => intro xs ys ih; rwa [Value.ordered]
  case numbers =>
    intro a b noText noBytes noList noTuple c h
    rw [Value.ordered] at h
    · unfold Value.orderedNumbers at h
      split at h <;> cases h
      rfl
    · exact noText
    · exact noBytes
    · exact noList
    · exact noTuple
  case alike => intro x xs y ys same ih; rwa [Value.orderedItems, if_pos same]
  case different => intro x xs y ys other ih; rwa [Value.orderedItems, if_neg other]
  case left => intro ys c h; rw [Value.orderedItems] at h; cases h
  case right => intro xs _ c h; cases xs <;> rw [Value.orderedItems] at h <;> cases h

theorem orderedKeeps (closed : Value.Closed p) (rel : Relation) (s v : Value) :
    Run.Answers p (Value.bool <$> Run.attempt (s.ordered rel v) : Run σ Value) := by
  have found : Run.Keeps p (Run.attempt (s.ordered rel v) : Run σ Bool) fun _ => True := by
    cases h : s.ordered rel v with
    | ok b => exact Run.keepsPure trivial
    | error c => exact Run.keepsText closed (orderedText rel s v c h)
  exact Run.keepsMap found fun b _ => closed.bool b

theorem classifyEverywhere (closed : Value.Closed p) {s : Value} (hs : s.everywhere p = true) :
    (classify s).everywhere p = true := by
  unfold classify
  cases h : s.container? with
  | none => simp [Value.everywhere, Value.itemsEverywhere, closed.list, closed.str]
  | some o =>
    cases o with
    | none => simp [Value.everywhere, Value.itemsEverywhere, closed.list, closed.str]
    | some payload =>
      have inner := Value.payloadEverywhere hs h
      simp [Value.everywhere, Value.itemsEverywhere, closed.list, closed.str, inner]

theorem accessKeeps (closed : Value.Closed p) {v : Value} (hv : v.everywhere p = true) (member : String) :
    Run.Keeps p (Container.access v member : Run σ (Option Value)) fun o =>
      ∀ payload, o = some payload → payload.everywhere p = true := by
  unfold Container.access
  cases h : v.container? with
  | none => exact Run.keepsText closed (by cases v <;> rfl)
  | some o => exact Run.keepsPure fun payload same => Value.payloadEverywhere hv (same ▸ h)

theorem changeFieldKeeps (closed : Value.Closed p) (s : Value) (verb field : String) :
    Run.Answers p (Run.fail (changeField s verb field) : Run σ Value) := by
  refine Run.keepsText closed ?_
  cases s with
  | present payload o =>
    simp only [changeField]
    split <;> rfl
  | _ => rfl

theorem keepsError (closed : Value.Closed p) (kind : ErrorKind) (message : Option String) :
    Run.Keeps p (Run.ofExcept (kind.buildWithMessage message) : Run σ Fault) fun f =>
      f.kind = kind ∧ Value.itemsEverywhere p f.args = true := by
  refine Run.keepsBuild closed ?_
  cases message with
  | none => rfl
  | some m => simp [Value.itemsEverywhere, Value.everywhere, closed.str]

mutual

theorem termKeeps (closed : Value.Closed p) (hold : ρ.Hold p r) :
    (t : Term) → t.within p r = true → Run.Answers p (t.value ρ : Run σ Value)
  | .literal v, within => by
    rw [Term.value]
    exact Run.keepsPure within
  | .numeral text, _ => by
    rw [Term.value]
    exact readIntKeeps closed (.str text)
  | .error kind message, within => by
    rw [Term.value]
    refine Run.keepsMap (keepsError closed kind message) ?_
    rintro f ⟨same, built⟩
    exact Run.faultValueEverywhere closed (by rw [same]; exact within) built
  | .register name, within => by
    rw [Term.value]
    cases found : ρ.get? name with
    | some v => exact Run.keepsPure (hold name v within found)
    | none =>
      exact Run.keepsFail (by simp [Cause.args, Value.itemsEverywhere, Value.everywhere, closed.str])
  | .list items, within => by
    rw [Term.value]
    refine Run.keepsMap (termsKeep closed hold items within) fun vs all => ?_
    rw [Value.everywhere, closed.list, all, Bool.and_self]
  | .tuple items, within => by
    rw [Term.value]
    refine Run.keepsMap (termsKeep closed hold items within) fun vs all => ?_
    rw [Value.everywhere, closed.tuple, all, Bool.and_self]
  | .dict entries, within => by
    rw [Term.value]
    refine Run.keepsMap (entriesKeep closed hold entries within [] rfl) fun es all => ?_
    rw [Value.everywhere, closed.dict, all, Bool.and_self]
  | .present payload, within => by
    rw [Term.value]
    exact Run.keepsBind (termKeeps closed hold payload within) fun v all => containerOfKeeps closed all

theorem termsKeep (closed : Value.Closed p) (hold : ρ.Hold p r) :
    (ts : List Term) → termsWithin p r ts = true →
      Run.Keeps p (Term.values ρ ts : Run σ (List Value)) fun vs => Value.itemsEverywhere p vs = true
  | [], _ => by
    rw [Term.values]
    exact Run.keepsPure rfl
  | t :: ts, within => by
    rw [Term.values]
    rw [termsWithin, Bool.and_eq_true] at within
    refine Run.keepsBind (termKeeps closed hold t within.1) fun v all => ?_
    refine Run.keepsBind (termsKeep closed hold ts within.2) fun vs rest => Run.keepsPure ?_
    rw [Value.itemsEverywhere, all, rest, Bool.and_self]

theorem entriesKeep (closed : Value.Closed p) (hold : ρ.Hold p r) :
    (ts : List (Term × Term)) → entriesWithin p r ts = true → (es : List (Value × Value)) →
      Value.entriesEverywhere p es = true →
      Run.Keeps p (Term.entryValues ρ ts es : Run σ (List (Value × Value))) fun es =>
        Value.entriesEverywhere p es = true
  | [], _, es, all => by
    rw [Term.entryValues]
    exact Run.keepsPure all
  | (k, t) :: ts, within, es, all => by
    rw [Term.entryValues]
    rw [entriesWithin, Bool.and_eq_true, Bool.and_eq_true] at within
    refine Run.keepsBind (termKeeps closed hold k within.1.1) fun key hk => ?_
    refine Run.keepsBind (termKeeps closed hold t within.1.2) fun v hv => ?_
    refine Run.keepsBind (hashKeeps closed key) fun _ _ => ?_
    exact entriesKeep closed hold ts within.2 _ (Value.insertEntryEverywhere all hk hv)

end

theorem valueOrKeeps (closed : Value.Closed p) (hold : ρ.Hold p r) {default : Value}
    (hd : default.everywhere p = true) (t : Option Term) (within : optionWithin p r t = true) :
    Run.Answers p (Term.valueOr ρ default t : Run σ Value) := by
  cases t with
  | none => exact Run.keepsPure hd
  | some t => exact termKeeps closed hold t within

theorem failAboutKeeps {α : Type} {post : α → Prop} (closed : Value.Closed p) (expectation : String) (v : Value)
    (context : List Char) : Run.Keeps p (Assertion.failAbout expectation v context : Run σ α) post := by
  refine Run.keepsBind (Run.keepsWritten closed Value.literal v) fun shown _ => ?_
  exact Run.keepsText closed rfl

theorem contextKeeps (closed : Value.Closed p) (message : Value) :
    Run.Keeps p (Run.attempt (Assertion.context message) : Run σ (List Char)) fun _ => True := by
  unfold Assertion.context
  split
  · exact Run.keepsWritten closed _ message
  · exact Run.keepsPure trivial

theorem assertedContainerKeeps (closed : Value.Closed p) {v : Value} (hv : v.everywhere p = true)
    (context : List Char) : Run.Keeps p (Assertion.container v context : Run σ (Option Value)) fun o =>
      ∀ payload, o = some payload → payload.everywhere p = true := by
  unfold Assertion.container
  cases h : v.container? with
  | none => exact failAboutKeeps closed _ v context
  | some o => exact Run.keepsPure fun payload same => Value.payloadEverywhere hv (same ▸ h)

theorem assertPresentKeeps (closed : Value.Closed p) {v : Value} (hv : v.everywhere p = true) (message : Value) :
    Run.Answers p (Assertion.present v message : Run σ Value) := by
  refine Run.keepsBind (contextKeeps closed message) fun context _ => ?_
  refine Run.keepsBind (assertedContainerKeeps closed hv context) fun o inner => ?_
  cases o with
  | none => exact failAboutKeeps closed _ v context
  | some payload => exact Run.keepsPure (inner payload rfl)

theorem assertEmptyKeeps (closed : Value.Closed p) {v : Value} (hv : v.everywhere p = true) (message : Value) :
    Run.Keeps p (Assertion.empty v message : Run σ Unit) fun _ => True := by
  refine Run.keepsBind (contextKeeps closed message) fun context _ => ?_
  refine Run.keepsBind (assertedContainerKeeps closed hv context) fun o _ => ?_
  cases o with
  | none => exact Run.keepsPure trivial
  | some payload => exact failAboutKeeps closed _ v context

theorem assertPresentValueKeeps (closed : Value.Closed p) {v : Value} (hv : v.everywhere p = true)
    (expected : Value) : Run.Keeps p (Assertion.presentValue v expected : Run σ Unit) fun _ => True := by
  refine Run.keepsBind (assertPresentKeeps closed hv (.str "")) fun payload _ => ?_
  split
  · exact Run.keepsPure trivial
  · refine Run.keepsBind (Run.keepsWritten closed Value.literal expected) fun wanted _ => ?_
    refine Run.keepsBind (Run.keepsWritten closed Value.literal payload) fun found _ => ?_
    exact Run.keepsText closed rfl

theorem getKeeps (closed : Value.Closed p) {s : Value} (hs : s.everywhere p = true) :
    Run.Answers p (Action.get.run ρ s : Run σ Value) := by
  cases s with
  | dict entries => exact Run.keepsText closed rfl
  | present payload o =>
    rw [Value.everywhere, Bool.and_eq_true] at hs
    exact Run.keepsPure hs.2
  | empty => exact Run.keepsRefuse .noSuchElement (by decide) _
  | _ => exact Run.keepsText closed rfl

theorem insertAllFails {t : Value.HashTable} {vs : List Value} {f : Fault} (failed : t.insertAll vs = .error f) :
    ∃ name, f = (Cause.unhashable name).fault := by
  induction vs generalizing t with
  | nil => cases failed
  | cons v vs ih =>
    simp only [Value.HashTable.insertAll, Value.hashCode?] at failed
    cases hashed : v.hashCode with
    | error name =>
      rw [hashed] at failed
      cases failed
      exact ⟨name, rfl⟩
    | ok h =>
      rw [hashed] at failed
      exact ih failed

theorem distinctKeeps (closed : Value.Closed p) {vs : List Value} (all : Value.itemsEverywhere p vs = true) :
    Run.Answers p (Value.list <$> Run.ofExcept (Value.distinct vs) : Run σ Value) := by
  have found : Run.Keeps p (Run.ofExcept (Value.distinct vs) : Run σ (List Value)) fun us =>
      Value.itemsEverywhere p us = true := by
    cases done : Value.distinct vs with
    | ok us => exact Run.keepsPure (Value.distinctEverywhere all done)
    | error f =>
      unfold Value.distinct at done
      cases inserted : Value.HashTable.insertAll ⟨[]⟩ vs with
      | ok t => rw [inserted] at done; cases done
      | error g =>
        rw [inserted] at done
        cases done
        obtain ⟨name, rfl⟩ := insertAllFails inserted
        exact Run.keepsText closed rfl
  refine Run.keepsMap found fun us hus => ?_
  rw [Value.everywhere, closed.list, hus, Bool.and_self]

end Perhaps.Program
