import Perhaps.Container.Assertion
import Perhaps.Proofs.ChainLaws
import Perhaps.Proofs.EqualityLaws
import Perhaps.Proofs.Everywhere

/-! What the assertions accept, and what they say of a value that they refuse: what is wrong with its type comes before
what is wrong with its state, and that before its payload. An assertion can also fail for want of a text, where a whole
number that it has to write has too many digits. None of them logs, calls or changes anything. -/
namespace Perhaps.Assertion

variable {σ : Type}

inductive Demand where
  | present (message : Value)
  | empty (message : Value)
  | payload (expected : Value)

structure Complaint where
  shown : List Value
  text : List Char

/- A message that counts as false is left out, whatever it is. -/
def Writes (message : Value) : Prop := message.truth = true → message.isTooLong = false

instance (message : Value) : Decidable (Writes message) := inferInstanceAs (Decidable (_ → _))

def said (message : Value) : List Char := if message.truth then word " — " ++ message.plain else []

def unequal (expected found : Value) : Complaint :=
  ⟨[expected, found], word "Expected present value " ++ expected.literal ++ word " but got " ++ found.literal⟩

namespace Demand

def assert : Demand → Value → Run σ Value
  | present message, v => Assertion.present v message
  | empty message, v => do
    Assertion.empty v message
    pure .absent
  | payload expected, v => do
    Assertion.presentValue v expected
    pure .absent

def message : Demand → Value
  | present message | empty message => message
  | payload _ => .str ""

def complaintAbout (d : Demand) (expectation : String) (v : Value) : Complaint :=
  ⟨[v], expectation.toList ++ v.literal ++ said d.message⟩

/- The first thing that is wrong with a value: its type, then its state, then its payload. -/
def complaint? (d : Demand) (v : Value) : Option Complaint :=
  match v.container? with
  | none => some (d.complaintAbout (String.join ["Expected an Optional but got ", v.typeName, ": "]) v)
  | some o =>
    match d, o with
    | present _, some _ | empty _, none => none
    | present _, none | payload _, none => some (d.complaintAbout "Expected a present Optional but got " v)
    | empty _, some _ => some (d.complaintAbout "Expected an empty Optional but got " v)
    | payload expected, some found =>
      if found.same expected then none
      else some (unequal expected found)

def answer (d : Demand) (v : Value) : Value :=
  match d, v.container? with
  | present _, some (some found) => found
  | _, _ => .absent

structure Writable (d : Demand) (v : Value) : Prop where
  message : Writes d.message
  shown : ∀ c, d.complaint? v = some c → Value.anyTooLong c.shown = false

end Demand

theorem attemptWritten {α : Type} (form : Value → α) (v : Value) :
    (Run.attempt (v.written form) : Run σ α) =
      if v.isTooLong then Run.fail (.tooManyDigits none) else pure (form v) := by
  rw [Value.writtenIf]
  split <;> rfl

theorem contextWritten {message : Value} (writes : Writes message) :
    (Run.attempt (context message) : Run σ (List Char)) = pure (said message) := by
  unfold context said
  cases spoken : message.truth with
  | false => rfl
  | true => simp [attemptWritten, writes spoken]

theorem contextTooLong {message : Value} (long : ¬ Writes message) :
    (Run.attempt (context message) : Run σ (List Char)) = Run.fail (.tooManyDigits none) := by
  obtain ⟨spoken, long⟩ := Classical.not_imp.mp long
  have long : message.isTooLong = true := by simpa using long
  simp only [context, spoken, if_true, attemptWritten, long]

namespace Complaint

def raise {α : Type} (c : Complaint) : Run σ α :=
  if Value.anyTooLong c.shown then Run.fail (.tooManyDigits none) else Run.fail (.assertion c.text)

theorem raiseBind {α β : Type} (c : Complaint) (k : α → Run σ β) : c.raise >>= k = c.raise := by
  unfold raise
  split <;> rfl

end Complaint

theorem failAboutRaises {α : Type} (d : Demand) (expectation : String) (v : Value) :
    (failAbout expectation v (said d.message) : Run σ α) = (d.complaintAbout expectation v).raise := by
  simp only [failAbout, attemptWritten, Complaint.raise, Demand.complaintAbout, Value.anyTooLong, Bool.or_false]
  split <;> rfl

def refusePayload {α : Type} (expected found : Value) : Run σ α := do
  let wanted ← Run.attempt (expected.written Value.literal)
  let shown ← Run.attempt (found.written Value.literal)
  Run.fail (.assertion (word "Expected present value " ++ wanted ++ word " but got " ++ shown))

theorem unequalRaises {α : Type} (expected found : Value) :
    (refusePayload expected found : Run σ α) = (unequal expected found).raise := by
  simp only [refusePayload, attemptWritten, Complaint.raise, unequal, Value.anyTooLong, Bool.or_false]
  cases expected.isTooLong with
  | true => rfl
  | false =>
    cases found.isTooLong with
    | true => rfl
    | false => rfl

theorem failAboutBind {α β : Type} (expectation : String) (v : Value) (told : List Char) (k : α → Run σ β) :
    failAbout expectation v told >>= k = failAbout expectation v told := by
  simp only [failAbout, attemptWritten]
  split <;> rfl

theorem containerAsserted (d : Demand) (v : Value) :
    (container v (said d.message) : Run σ (Option Value)) =
      match v.container? with
      | none => (d.complaintAbout (String.join ["Expected an Optional but got ", v.typeName, ": "]) v).raise
      | some o => pure o := by
  unfold container
  cases v.container? with
  | none => exact failAboutRaises d _ v
  | some o => rfl

namespace Demand

def judge (d : Demand) (v : Value) (told : List Char) (o : Option Value) : Run σ Value :=
  match d, o with
  | present _, some found => pure found
  | empty _, none => pure .absent
  | present _, none | payload _, none => failAbout "Expected a present Optional but got " v told
  | empty _, some _ => failAbout "Expected an empty Optional but got " v told
  | payload expected, some found => if found.same expected then pure .absent else refusePayload expected found

theorem assertInTurn (d : Demand) (v : Value) : (d.assert v : Run σ Value) =
    (do
      let told ← Run.attempt (context d.message)
      let o ← container v told
      d.judge v told o) := by
  cases d with
  | present message =>
    refine Run.bindCongr fun _ told _ => Run.bindCongr fun _ o _ => ?_
    cases o <;> rfl
  | empty message =>
    simp only [assert, Assertion.empty, bind_assoc]
    refine Run.bindCongr fun _ told _ => Run.bindCongr fun _ o _ => ?_
    cases o with
    | none => rfl
    | some found => exact failAboutBind ..
  | payload expected =>
    simp only [assert, Assertion.presentValue, Assertion.present, bind_assoc]
    refine Run.bindCongr fun _ told _ => Run.bindCongr fun _ o _ => ?_
    cases o with
    | none => exact failAboutBind ..
    | some found =>
      simp only [judge, pure_bind]
      split
      · rfl
      · simp only [refusePayload, bind_assoc]
        rfl

theorem judged (d : Demand) {v : Value} {o : Option Value} (container : v.container? = some o) :
    (d.judge v (said d.message) o : Run σ Value) =
      match d.complaint? v with
      | none => pure (d.answer v)
      | some c => c.raise := by
  simp only [complaint?, answer, container]
  cases d with
  | present message =>
    cases o with
    | none => exact failAboutRaises (present message) _ v
    | some found => rfl
  | empty message =>
    cases o with
    | none => rfl
    | some found => exact failAboutRaises (empty message) _ v
  | payload expected =>
    cases o with
    | none => exact failAboutRaises (payload expected) _ v
    | some found =>
      simp only [judge]
      split
      · rfl
      · exact unequalRaises expected found

theorem assertWritten (d : Demand) (writes : Writes d.message) (v : Value) :
    (d.assert v : Run σ Value) =
      match d.complaint? v with
      | none => pure (d.answer v)
      | some c => c.raise := by
  rw [assertInTurn, contextWritten writes, pure_bind, containerAsserted]
  cases container : v.container? with
  | none =>
    simp only [complaint?, container]
    exact Complaint.raiseBind ..
  | some o => exact d.judged container

theorem assertUnwritten (d : Demand) (long : ¬ Writes d.message) (v : Value) :
    (d.assert v : Run σ Value) = Run.fail (.tooManyDigits none) := by
  rw [assertInTurn, contextTooLong long]
  rfl

theorem assertCases (d : Demand) (v : Value) :
    (d.Writable v ∧ d.complaint? v = none ∧ (d.assert v : Run σ Value) = pure (d.answer v)) ∨
    (∃ c, d.Writable v ∧ d.complaint? v = some c ∧ (d.assert v : Run σ Value) = Run.fail (.assertion c.text)) ∨
    (¬ d.Writable v ∧ (d.assert v : Run σ Value) = Run.fail (.tooManyDigits none)) := by
  by_cases writes : Writes d.message
  · have asserted := assertWritten (σ := σ) d writes v
    cases wrong : d.complaint? v with
    | none =>
      rw [wrong] at asserted
      exact .inl ⟨⟨writes, by simp [wrong]⟩, rfl, asserted⟩
    | some c =>
      rw [wrong] at asserted
      cases long : Value.anyTooLong c.shown with
      | true =>
        refine .inr (.inr ⟨fun writable => ?_, ?_⟩)
        · rw [writable.shown c wrong] at long
          cases long
        · simp only [asserted, Complaint.raise, long, if_true]
      | false =>
        refine .inr (.inl ⟨c, ⟨writes, by simp [wrong, long]⟩, rfl, ?_⟩)
        simp only [asserted, Complaint.raise, long, Bool.false_eq_true, if_false]
  · exact .inr (.inr ⟨fun writable => writes writable.message, assertUnwritten d writes v⟩)

theorem assertQuiet (d : Demand) (v : Value) (w : σ) :
    (d.assert v w).calls = [] ∧ (d.assert v w).log = [] ∧ (d.assert v w).world = w := by
  rcases assertCases (σ := σ) d v with ⟨_, _, same⟩ | ⟨c, _, _, same⟩ | ⟨_, same⟩ <;> rw [same] <;>
    exact ⟨rfl, rfl, rfl⟩

theorem succeedsIff (d : Demand) (v a : Value) (w : σ) :
    (d.assert v w).result = .ok a ↔ Writes d.message ∧ d.complaint? v = none ∧ a = d.answer v := by
  rcases assertCases (σ := σ) d v with ⟨writable, fine, same⟩ | ⟨c, _, wrong, same⟩ | ⟨long, same⟩
  · rw [same]
    simp [pure, Run.pure, writable.message, fine, eq_comm]
  · rw [same]
    simp [Run.fail, Run.raise, wrong]
  · rw [same]
    simp only [Run.fail, Run.raise, reduceCtorEq, false_iff]
    rintro ⟨writes, fine, _⟩
    exact long ⟨writes, by simp [fine]⟩

theorem failsIff (d : Demand) (v : Value) (f : Fault) (w : σ) :
    (d.assert v w).result = .error f ↔
      (d.Writable v ∧ ∃ c, d.complaint? v = some c ∧ f = (Cause.assertion c.text).fault) ∨
      (¬ d.Writable v ∧ f = (Cause.tooManyDigits none).fault) := by
  rcases assertCases (σ := σ) d v with ⟨writable, fine, same⟩ | ⟨c, writable, wrong, same⟩ | ⟨long, same⟩
  · rw [same]
    simp [pure, Run.pure, writable, fine]
  · rw [same]
    simp [Run.fail, Run.raise, writable, wrong, eq_comm]
  · rw [same]
    simp [Run.fail, Run.raise, long, eq_comm]

theorem presentAccepts {message v : Value} :
    (present message).complaint? v = none ↔ ∃ found o, v = .present found o := by
  cases v <;> simp [complaint?, Value.container?]

theorem emptyAccepts {message v : Value} : (empty message).complaint? v = none ↔ v = .empty := by
  cases v <;> simp [complaint?, Value.container?]

theorem payloadAccepts {expected v : Value} :
    (payload expected).complaint? v = none ↔ ∃ found o, v = .present found o ∧ found.same expected = true := by
  cases v <;> simp [complaint?, Value.container?]

theorem typeFirst (d : Demand) {v : Value} (other : v.container? = none) : d.complaint? v =
    some (d.complaintAbout (String.join ["Expected an Optional but got ", v.typeName, ": "]) v) := by
  simp only [complaint?, other]

theorem writableOfShort {d : Demand} {v : Value} (message : d.message.isTooLong = false) (value : v.isTooLong = false)
    (expected : ∀ e, d = payload e → e.isTooLong = false) : d.Writable v where
  message _ := message
  shown c wrong := by
    have about : ∀ expectation, Value.anyTooLong (d.complaintAbout expectation v).shown = false := by
      simp [complaintAbout, Value.anyTooLong, value]
    simp only [complaint?] at wrong
    split at wrong
    · cases wrong
      exact about _
    · next o container =>
      split at wrong <;> try cases wrong
      · exact about _
      · exact about _
      · exact about _
      · next e found =>
        obtain ⟨p, rfl⟩ := Value.containerSomeIff.mp container
        split at wrong <;> cases wrong
        simpa [unequal, Value.anyTooLong, Value.isTooLong] using ⟨expected e rfl, value⟩

def Succeeds (d : Demand) (v : Value) (w : σ) : Prop := ∃ a, (d.assert v w).result = .ok a

theorem presentSucceeds {message v p : Value} {w : σ} : ((present message).assert v w).result = .ok p ↔
    Writes message ∧ ∃ o, v = .present p o := by
  rw [succeedsIff, presentAccepts]
  constructor
  · rintro ⟨writes, ⟨found, o, rfl⟩, rfl⟩
    exact ⟨writes, o, rfl⟩
  · rintro ⟨writes, o, rfl⟩
    exact ⟨writes, ⟨p, o, rfl⟩, rfl⟩

theorem emptySucceeds {message v a : Value} {w : σ} : ((empty message).assert v w).result = .ok a ↔
    Writes message ∧ v = .empty ∧ a = .absent := by
  rw [succeedsIff, emptyAccepts]
  rfl

theorem equalsPresent {expected v : Value} {o : Occurrence} : v.same (.present expected o) = true ↔
    ∃ found p, v = .present found p ∧ found.same expected = true := by
  cases v with
  | present found p => simp [Value.same]
  | _ => simp [Value.same, Value.sameQuantity, Value.quantity?]

theorem payloadSucceeds {expected v a : Value} (solid : v.solid = true) {w : σ} :
    ((payload expected).assert v w).result = .ok a ↔ a = .absent ∧ expected ≠ .absent ∧
      ∃ c, ((Value.ofContainer <$> Container.of expected : Run σ Value) w).result = .ok c ∧ v.same c = true := by
  rw [succeedsIff, payloadAccepts]
  constructor
  · rintro ⟨_, ⟨found, o, rfl, same⟩, rfl⟩
    have filled : expected ≠ .absent := by
      intro gone
      exact Value.payloadThere solid rfl ((Value.sameAbsent same).mpr gone)
    refine ⟨rfl, filled, .present expected none, ?_, equalsPresent.mpr ⟨found, o, rfl, same⟩⟩
    rw [Method.enclosed filled]
    rfl
  · rintro ⟨rfl, filled, c, wrapped, same⟩
    rw [Method.enclosed filled] at wrapped
    cases wrapped
    exact ⟨(nomatch ·), equalsPresent.mp same, rfl⟩

theorem overlongUnshown (d : Demand) {v : Value} (other : v.container? = none) (long : v.isTooLong = true) {w : σ} :
    (d.assert v w).result = .error (Cause.tooManyDigits none).fault := by
  refine (d.failsIff v _ w).mpr (.inr ⟨fun writable => ?_, rfl⟩)
  have short := writable.shown _ (d.typeFirst other)
  simp [complaintAbout, Value.anyTooLong, long] at short

theorem overlongUnsaid (d : Demand) (told : d.message.truth = true) (long : d.message.isTooLong = true) {v : Value}
    {w : σ} : (d.assert v w).result = .error (Cause.tooManyDigits none).fault := by
  refine (d.failsIff v _ w).mpr (.inr ⟨fun writable => ?_, rfl⟩)
  have short := writable.message told
  rw [long] at short
  cases short

theorem overlongNumberFails {n : Nat} (long : Nat.pow 10 digitLimit ≤ n) (w : σ) :
    (((present (.str "")).assert (.int n) w).result = .error (Cause.tooManyDigits none).fault) ∧
    ((present (.list [.int n])).assert (.present (.bool true) none) w).result =
      .error (Cause.tooManyDigits none).fault := by
  have number := Value.overlongNumber long
  refine ⟨overlongUnshown _ rfl number, overlongUnsaid _ rfl ?_⟩
  rw [message, Value.isTooLong, Value.anyTooLong, number, Bool.true_or]

end Demand

theorem presentGets (v message : Value) : (Assertion.present v message : Run σ Value) =
    (do
      let told ← Run.attempt (context message)
      let o ← container v told
      if o.isSome then Container.get o else failAbout "Expected a present Optional but got " v told) := by
  unfold Assertion.present
  refine Run.bindCongr fun _ told _ => Run.bindCongr fun _ o _ => ?_
  cases o <;> rfl

open Demand (Succeeds)

theorem assertionsAgree :
    (∀ message v p (w : σ), ((Demand.present message).assert v w).result = .ok p ↔
      Writes message ∧ ∃ o, v = .present p o) ∧
    (∀ message v a (w : σ), ((Demand.empty message).assert v w).result = .ok a ↔
      Writes message ∧ v = .empty ∧ a = .absent) ∧
    (∀ message v (w : σ), Writes message → v.container?.isSome = true →
      ((Demand.present message).Succeeds v w ↔ ¬ (Demand.empty message).Succeeds v w)) ∧
    (∀ message v (w : σ), v.container? = none →
      ¬ (Demand.present message).Succeeds v w ∧ ¬ (Demand.empty message).Succeeds v w) ∧
    (∀ expected v a (w : σ), v.solid = true → (((Demand.payload expected).assert v w).result = .ok a ↔
      a = .absent ∧ expected ≠ .absent ∧
        ∃ c, ((Value.ofContainer <$> Container.of expected : Run σ Value) w).result = .ok c ∧ v.same c = true)) ∧
    (∀ (d : Demand) v f (w : σ), (d.assert v w).result = .error f ↔
      (d.Writable v ∧ ∃ c, d.complaint? v = some c ∧
        f = ⟨.standard .assertionError, [.str (String.ofList c.text)]⟩) ∨
      (¬ d.Writable v ∧ f = (Cause.tooManyDigits none).fault)) ∧
    (∀ (d : Demand) v f (w : σ), (d.assert v w).result = .error f →
      (∀ kind, f.kind ≠ .container kind) ∧ f.kind ≠ .standard .attributeError) ∧
    (∀ (d : Demand) v, d.message.isTooLong = false → v.isTooLong = false →
      (∀ expected, d = .payload expected → expected.isTooLong = false) → d.Writable v) ∧
    (∀ (d : Demand) v, v.container? = none → d.complaint? v =
      some (d.complaintAbout (String.join ["Expected an Optional but got ", v.typeName, ": "]) v)) ∧
    (∀ (d : Demand) v (w : σ),
      (d.assert v w).calls = [] ∧ (d.assert v w).log = [] ∧ (d.assert v w).world = w) ∧
    (∀ v message, (Assertion.present v message : Run σ Value) =
      (do
        let told ← Run.attempt (context message)
        let o ← container v told
        if o.isSome then Container.get o else failAbout "Expected a present Optional but got " v told)) := by
  refine ⟨fun _ _ _ _ => Demand.presentSucceeds, fun _ _ _ _ => Demand.emptySucceeds, ?one, ?neither,
    fun _ _ _ _ solid => Demand.payloadSucceeds solid, Demand.failsIff, ?kinds, fun _ _ => Demand.writableOfShort,
    fun d _ other => d.typeFirst other, Demand.assertQuiet, presentGets⟩
  case one =>
    intro message v w writes container
    obtain ⟨o, container⟩ := Option.isSome_iff_exists.mp container
    simp only [Succeeds, Demand.presentSucceeds, Demand.emptySucceeds]
    obtain rfl | ⟨payload, o, rfl⟩ := Value.containerCases container
    · simp [writes]
    · simp [writes]
  case neither =>
    intro message v w other
    simp only [Succeeds, Demand.presentSucceeds, Demand.emptySucceeds]
    constructor
    · rintro ⟨_, _, _, rfl⟩
      cases other
    · rintro ⟨_, _, rfl, _⟩
      cases other
  case kinds =>
    intro d v f w failed
    rcases (d.failsIff v f w).mp failed with ⟨_, c, _, rfl⟩ | ⟨_, rfl⟩ <;> simp [Cause.fault, Cause.kind]

theorem nestedNumbersAccepted :
    ((Value.present (.present (.bool true) none) none).solid = true ∧
      ((Demand.payload (.present (.int 1) none)).assert (.present (.present (.bool true) none) none) () :
        Outcome Unit Value).result = .ok .absent) ∧
    ((Writes (.str "") ∧ (Value.present (.int 0) none).container?.isSome = true) ∧
      ((Demand.present (.str "")).Succeeds (.present (.int 0) none) () ↔
        ¬ (Demand.empty (.str "")).Succeeds (.present (.int 0) none) ())) ∧
    ((Demand.empty (.str "ctx")).Writable .absent ∧ Value.absent.container? = none ∧
      ((Demand.empty (.str "ctx")).assert .absent () : Outcome Unit Value).result =
        .error ⟨.standard .assertionError, [.str "Expected an Optional but got NoneType: None — ctx"]⟩) := by
  obtain ⟨_, _, one, _, payload, fails, _, short, type, _⟩ := assertionsAgree (σ := Unit)
  refine ⟨⟨rfl, ?_⟩, ⟨⟨(nomatch ·), rfl⟩, one _ _ () (nomatch ·) rfl⟩, ?_⟩
  · refine (payload _ _ _ () rfl).mpr ⟨rfl, by simp, .present (.present (.int 1) none) none, rfl, ?_⟩
    simp [Value.same, Value.sameQuantity, Value.quantity?]
    decide
  · have writable := short (.empty (.str "ctx")) .absent rfl rfl (by simp)
    refine ⟨writable, rfl, (fails _ _ _ ()).mpr (.inl ⟨writable, _, type _ _ rfl, ?_⟩)⟩
    rfl

/- A whole number beyond the limit of digits is no container, yet the failure is no assertion error. In a message it
fails even an assertion that holds. -/
theorem overlongNumberNotShown :
    (((Demand.present (.str "")).assert (.int (Nat.pow 10 digitLimit)) () : Outcome Unit Value).result =
        .error (Cause.tooManyDigits none).fault ∧
      (Cause.tooManyDigits none).fault.kind ≠ .standard .assertionError) ∧
    ((Demand.present (.list [.int (Nat.pow 10 digitLimit)])).assert (.present (.bool true) none) () :
      Outcome Unit Value).result ≠ .ok (.bool true) := by
  obtain ⟨shown, said⟩ := Demand.overlongNumberFails (Nat.le_refl (Nat.pow 10 digitLimit)) ()
  refine ⟨⟨shown, by simp [Cause.fault, Cause.kind]⟩, ?_⟩
  rw [said]
  simp

end Perhaps.Assertion
