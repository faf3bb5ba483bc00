import Perhaps.Proofs.MapFusion

/-! Filters in a row. They ask their predicates in turn about the payload, up to the first that raises or does not hold,
as one filter does with the conjunction that stops early. Predicates that neither raise nor change anything can be
asked in any order and repeatedly. -/
namespace Perhaps

namespace Callback

variable {σ : Type} {p : Callback σ}

structure Named (σ : Type) where
  name : String
  body : List Value → Run σ Value

def Named.callback (n : Named σ) : Callback σ := (Callback.function n.body).recorded n.name

def conjunction (p : Callback σ) : List (Callback σ) → Callback σ
  | [] => p
  | q :: qs => .function fun args => do
    let answer ← p.call args
    if answer.truth then (conjunction q qs).call args else pure answer

theorem conjunctionGiven (given : p.isAbsent = false) (ps : List (Callback σ)) :
    (p.conjunction ps).isAbsent = false := by
  cases ps with
  | nil => exact given
  | cons q qs => rfl

/- A callback that neither raises nor changes the world on a value. Its answer may depend on the world. -/
def Steady (c : Callback σ) (x : Value) : Prop :=
  ∀ w, ∃ r, (c.call [x] w).result = .ok r ∧ (c.call [x] w).world = w

end Callback

/- What comes of asking predicates in turn about a value. Each is asked once and in the world that the one before it
has left; one that raises or does not hold is the last. -/
inductive Judged {σ : Type} (x : Value) : List (Callback σ) → σ → Outcome σ Bool → Prop where
  | all (w : σ) : Judged x [] w ⟨.ok true, [], [], w⟩
  | raised {p ps w e} (called : (p.call [x] w).result = .error e) :
      Judged x (p :: ps) w ⟨.error e, (p.call [x] w).calls, (p.call [x] w).log, (p.call [x] w).world⟩
  | refused {p ps w r} (called : (p.call [x] w).result = .ok r) (untrue : r.truth = false) :
      Judged x (p :: ps) w ⟨.ok false, (p.call [x] w).calls, (p.call [x] w).log, (p.call [x] w).world⟩
  | next {p ps w r o} (called : (p.call [x] w).result = .ok r) (holds : r.truth = true)
      (rest : Judged x ps (p.call [x] w).world o) :
      Judged x (p :: ps) w ⟨o.result, (p.call [x] w).calls ++ o.calls, (p.call [x] w).log ++ o.log, o.world⟩

namespace Judged

variable {σ : Type} {x : Value} {w : σ} {o : Outcome σ Bool}

theorem total (x : Value) (ps : List (Callback σ)) (w : σ) : ∃ o, Judged x ps w o := by
  induction ps generalizing w with
  | nil => exact ⟨_, .all w⟩
  | cons p ps ih =>
    cases called : (p.call [x] w).result with
    | error e => exact ⟨_, .raised called⟩
    | ok r =>
      cases truth : r.truth with
      | false => exact ⟨_, .refused called truth⟩
      | true =>
        obtain ⟨o, rest⟩ := ih (p.call [x] w).world
        exact ⟨_, .next called truth rest⟩

def Holds (x : Value) (w : σ) (p : Callback σ) : Prop := ∃ r, (p.call [x] w).result = .ok r ∧ r.truth = true

/- Steady predicates are all asked in the same world, so it does not matter which of them comes first. -/
theorem ofSteady {ps : List (Callback σ)} (judged : Judged x ps w o) (steady : ∀ p ∈ ps, p.Steady x) :
    ∃ b, o.result = .ok b ∧ (b = true ↔ ∀ p ∈ ps, Holds x w p) := by
  induction judged with
  | all w => exact ⟨true, rfl, by simp⟩
  | @raised p ps w e called =>
    obtain ⟨r, answered, _⟩ := steady p List.mem_cons_self w
    rw [called] at answered
    contradiction
  | @refused p ps w r called untrue =>
    refine ⟨false, rfl, by simp, fun all => ?_⟩
    obtain ⟨s, answered, holds⟩ := all p List.mem_cons_self
    rw [called] at answered
    cases answered
    rw [untrue] at holds
    contradiction
  | @next p ps w r o called holds rest ih =>
    obtain ⟨_, _, same⟩ := steady p List.mem_cons_self w
    obtain ⟨b, done, iff⟩ := ih fun q member => steady q (List.mem_cons_of_mem p member)
    rw [same] at iff
    have here : Holds x w p := ⟨r, called, holds⟩
    exact ⟨b, done, by simp [iff, here]⟩

theorem callsAsked {named : List (Callback.Named σ)} (quiet : ∀ n ∈ named, ∀ w, (n.body [x] w).calls = [])
    (judged : Judged x (named.map Callback.Named.callback) w o) :
    ∃ asked, asked <+: named ∧ o.calls = asked.map fun n => ⟨n.name, [x]⟩ := by
  induction named generalizing w o with
  | nil => cases judged; exact ⟨[], List.prefix_refl [], rfl⟩
  | cons n named ih =>
    have entered : (n.callback.call [x] w).calls = [⟨n.name, [x]⟩] := by
      rw [Callback.Named.callback, Method.recordedCalls, quiet n List.mem_cons_self]
    cases judged with
    | raised called => exact ⟨[n], List.prefix_append [n] named, entered⟩
    | refused called untrue => exact ⟨[n], List.prefix_append [n] named, entered⟩
    | next called holds rest =>
      obtain ⟨asked, first, same⟩ := ih (fun m member => quiet m (List.mem_cons_of_mem n member)) rest
      refine ⟨n :: asked, (List.prefix_cons_inj n).mpr first, ?_⟩
      simp [entered, same]

end Judged

namespace Method

variable {σ : Type} {v payload : Value} {f p : Callback σ} {ps : List (Callback σ)} {w : σ}

def filters : List (Callback σ) → Value → Run σ Value
  | [], v => pure v
  | p :: ps, v => do
    let kept ← filter.perform v p
    filters ps kept

theorem filtersEmpty (given : ∀ p ∈ ps, p.isAbsent = false) : filters ps .empty = pure .empty := by
  induction ps with
  | nil => rfl
  | cons p ps ih =>
    have first : filter.perform .empty p = pure .empty :=
      performUntouched filter rfl (.inl (given p List.mem_cons_self)) rfl
    rw [filters, first, pure_bind]
    exact ih fun q member => given q (List.mem_cons_of_mem p member)

theorem filtersPresent (h : v.container? = some (some payload)) (given : p.isAbsent = false)
    (ps : List (Callback σ)) : filters (p :: ps) v =
      p.call [payload] >>= fun a => filters ps (if a.truth then v else .empty) := by
  rw [filters, performTriggered filter h given rfl, bind_assoc]
  refine Run.bindCongr fun w a _ => ?_
  exact pure_bind _ _

theorem conjunctionKeeps (h : v.container? = some (some payload)) (p : Callback σ) (ps : List (Callback σ))
    (given : ∀ q ∈ p :: ps, q.isAbsent = false) :
    filters (p :: ps) v = (p.conjunction ps).call [payload] >>= filter.finish v := by
  induction ps generalizing p with
  | nil =>
    rw [filtersPresent h (given p List.mem_cons_self)]
    rfl
  | cons q qs ih =>
    have rest : ∀ r ∈ q :: qs, r.isAbsent = false := fun r member => given r (List.mem_cons_of_mem p member)
    rw [filtersPresent h (given p List.mem_cons_self)]
    show _ = (p.call [payload] >>= fun a =>
      if a.truth then (q.conjunction qs).call [payload] else pure a) >>= filter.finish v
    rw [bind_assoc]
    refine Run.bindCongr fun w a _ => ?_
    cases truth : a.truth with
    | true => exact ih q rest
    | false =>
      have emptied : (filter.finish v a : Run σ Value) = pure .empty := by
        simp only [finish, truth]
        rfl
      show filters (q :: qs) .empty = pure a >>= filter.finish v
      rw [filtersEmpty rest, pure_bind, emptied]

theorem filtersFuse (v : Value) (p : Callback σ) (ps : List (Callback σ))
    (given : ∀ q ∈ p :: ps, q.isAbsent = false) : filters (p :: ps) v = filter.perform v (p.conjunction ps) := by
  have conjoined := Callback.conjunctionGiven (given p List.mem_cons_self) ps
  cases h : v.container? with
  | none => rw [filters, performElsewhere filter h, performElsewhere filter h]; rfl
  | some o =>
    cases o with
    | none =>
      rw [Value.containerNoneIff.mp h, filtersEmpty given]
      exact (performUntouched filter rfl (.inl conjoined) rfl).symm
    | some payload => rw [performTriggered filter h conjoined rfl, conjunctionKeeps h p ps given]; rfl

theorem judgedFilters (h : v.container? = some (some payload)) (given : ∀ p ∈ ps, p.isAbsent = false)
    {o : Outcome σ Bool} (judged : Judged payload ps w o) : filters ps v w =
      ⟨o.result.map fun kept => if kept then v else .empty, o.calls, o.log, o.world⟩ := by
  induction judged with
  | all w => rfl
  | @raised p ps w e called =>
    rw [filtersPresent h (given p List.mem_cons_self), Run.bindError called]
    rfl
  | @refused p ps w r called untrue =>
    have emptied : filters ps (if r.truth then v else .empty) = pure .empty := by
      rw [untrue]
      exact filtersEmpty fun q member => given q (List.mem_cons_of_mem p member)
    rw [filtersPresent h (given p List.mem_cons_self), Run.bindSettles called emptied]
    rfl
  | @next p ps w r o called holds rest ih =>
    rw [filtersPresent h (given p List.mem_cons_self), Run.bindOk called, if_pos holds,
      ih fun q member => given q (List.mem_cons_of_mem p member)]

theorem filtersJudged (h : v.container? = some (some payload)) (given : ∀ p ∈ ps, p.isAbsent = false) (w : σ) :
    ∃ o, Judged payload ps w o ∧ filters ps v w =
      ⟨o.result.map fun kept => if kept then v else .empty, o.calls, o.log, o.world⟩ := by
  obtain ⟨o, judged⟩ := Judged.total payload ps w
  exact ⟨o, judged, judgedFilters h given judged⟩

theorem filtersAnswer {o : Option Value} (h : v.container? = some o) (given : ∀ p ∈ ps, p.isAbsent = false)
    {r : Value} (done : (filters ps v w).result = .ok r) : r = v ∨ r = .empty := by
  cases o with
  | none =>
    rw [Value.containerNoneIff.mp h, filtersEmpty given] at done
    cases done
    exact .inr rfl
  | some payload =>
    obtain ⟨⟨result, calls, log, u⟩, _, same⟩ := filtersJudged h given w
    rw [same] at done
    cases result with
    | error e => contradiction
    | ok kept =>
      cases done
      cases kept with
      | true => exact .inl rfl
      | false => exact .inr rfl

theorem steadyAgree {qs : List (Callback σ)} {o : Option Value} (h : v.container? = some o)
    (given : ∀ p ∈ ps, p.isAbsent = false) (members : ∀ p, p ∈ ps ↔ p ∈ qs)
    (steady : ∀ payload, o = some payload → ∀ p ∈ ps, p.Steady payload) (w : σ) :
    (filters ps v w).result = (filters qs v w).result := by
  have givenToo : ∀ q ∈ qs, q.isAbsent = false := fun q member => given q ((members q).mpr member)
  cases o with
  | none => rw [Value.containerNoneIff.mp h, filtersEmpty given, filtersEmpty givenToo]
  | some payload =>
    have left := steady payload rfl
    have right : ∀ q ∈ qs, q.Steady payload := fun q member => left q ((members q).mpr member)
    obtain ⟨first, judged, same⟩ := filtersJudged h given w
    obtain ⟨second, judgedToo, sameToo⟩ := filtersJudged h givenToo w
    obtain ⟨b, done, holds⟩ := judged.ofSteady left
    obtain ⟨c, doneToo, holdsToo⟩ := judgedToo.ofSteady right
    have agree : b = c := by
      rw [Bool.eq_iff_iff, holds, holdsToo]
      simp only [members]
    rw [same, sameToo, done, doneToo, agree]

def screened (f p : Callback σ) : Callback σ :=
  f.andThen (Callback.unlessAbsent fun r => do
    let answer ← p.call [r]
    pure (if answer.truth then r else .absent))

theorem filterAfterMap (v : Value) (left : f.isAbsent = false) (right : p.isAbsent = false) :
    (map.perform v f >>= fun r => filter.perform r p) = map.perform v (screened f p) := by
  refine mapAbsorbs filter left (performUntouched filter rfl (.inl right) rfl) (fun r filled => ?_) v
  have h : (Value.present r none).container? = some (some r) := rfl
  rw [performTriggered filter h right rfl, bind_assoc]
  refine Run.bindCongr fun w a _ => ?_
  rw [pure_bind]
  show pure (if a.truth then .present r none else .empty) =
    pure (Value.ofContainer (if a.truth then r else .absent).toOption)
  cases a.truth with
  | true => exact congrArg pure (Value.ofContainerFilled filled).symm
  | false => rfl

theorem filtersActAsOne :
    (∀ v p (ps : List (Callback σ)), (∀ q ∈ p :: ps, q.isAbsent = false) →
      filters (p :: ps) v = filter.perform v (p.conjunction ps)) ∧
    (∀ v payload (ps : List (Callback σ)) w, v.container? = some (some payload) →
      (∀ p ∈ ps, p.isAbsent = false) → ∃ o, Judged payload ps w o ∧ filters ps v w =
        ⟨o.result.map fun kept => if kept then v else .empty, o.calls, o.log, o.world⟩) ∧
    (∀ v payload (named : List (Callback.Named σ)) w, v.container? = some (some payload) →
      (∀ n ∈ named, ∀ u, (n.body [payload] u).calls = []) → ∃ asked, asked <+: named ∧
        (filters (named.map Callback.Named.callback) v w).calls = asked.map fun n => ⟨n.name, [payload]⟩) ∧
    (∀ v (ps : List (Callback σ)), v.container? = some none → (∀ p ∈ ps, p.isAbsent = false) →
      filters ps v = pure v) ∧
    (∀ v o (ps : List (Callback σ)) w r, v.container? = some o → (∀ p ∈ ps, p.isAbsent = false) →
      (filters ps v w).result = .ok r → r = v ∨ r = .empty) ∧
    (∀ v (f p : Callback σ), f.isAbsent = false → p.isAbsent = false →
      (map.perform v f >>= fun r => filter.perform r p) = map.perform v (screened f p)) ∧
    (∀ v o (ps qs : List (Callback σ)) w, v.container? = some o → (∀ p ∈ ps, p.isAbsent = false) →
      (∀ p, p ∈ ps ↔ p ∈ qs) → (∀ payload, o = some payload → ∀ p ∈ ps, p.Steady payload) →
      (filters ps v w).result = (filters qs v w).result) := by
  refine ⟨filtersFuse, ?judged, ?asked, ?empty, ?answer, ?afterMap, ?order⟩
  case judged =>
    intro v payload ps w h given
    exact filtersJudged h given w
  case asked =>
    intro v payload named w h quiet
    have given : ∀ p ∈ named.map Callback.Named.callback, p.isAbsent = false := by
      intro p member
      obtain ⟨n, _, same⟩ := List.mem_map.mp member
      subst p
      rfl
    obtain ⟨o, judged, same⟩ := filtersJudged h given w
    rw [same]
    exact judged.callsAsked quiet
  case empty =>
    intro v ps h given
    rw [Value.containerNoneIff.mp h]
    exact filtersEmpty given
  case answer =>
    intro v o ps w r h given done
    exact filtersAnswer h given done
  case afterMap =>
    intro v f p left right
    exact filterAfterMap v left right
  case order =>
    intro v o ps qs w h given members steady
    exact steadyAgree h given members steady w

theorem laterPredicatesNotAsked :
    ((∀ q ∈ [(Callback.function fun _ => pure (.list [.int 0])).recorded "first",
        (Callback.function fun _ => pure (.str "")).recorded "second",
        (Callback.function fun _ => Run.fail .divisionByZero).recorded "third"],
        (q : Callback Unit).isAbsent = false) ∧
      filter.perform (.present (.int 5) none)
        (((Callback.function fun _ => pure (.list [.int 0])).recorded "first").conjunction
          [(Callback.function fun _ => pure (.str "")).recorded "second",
            (Callback.function fun _ => Run.fail .divisionByZero).recorded "third"]) () =
        (⟨.ok .empty, [⟨"first", [.int 5]⟩, ⟨"second", [.int 5]⟩], [], ()⟩ : Outcome Unit Value)) ∧
    ((∀ c ∈ [Callback.unary "yes" fun _ => pure (.bool true), .unary "list" fun x => pure (.list [x])],
        (c : Callback Unit).isAbsent = false ∧ c.Steady (.int 5)) ∧
      (filters [.unary "yes" fun _ => pure (.bool true), .unary "list" fun x => pure (.list [x])]
        (.present (.int 5) (some 3)) () : Outcome Unit Value).result =
      (filters [.unary "list" fun x => pure (.list [x]), .unary "yes" fun _ => pure (.bool true),
        .unary "list" fun x => pure (.list [x])] (.present (.int 5) (some 3)) ()).result) := by
  obtain ⟨fused, _, _, _, _, _, order⟩ := filtersActAsOne (σ := Unit)
  have given : ∀ q ∈ [(Callback.function fun _ => pure (.list [.int 0])).recorded "first",
      (Callback.function fun _ => pure (.str "")).recorded "second",
      (Callback.function fun _ => Run.fail .divisionByZero).recorded "third"],
      (q : Callback Unit).isAbsent = false := by
    simp [Callback.recordedAbsent]
  have steady : ∀ c ∈ [Callback.unary "yes" fun _ => pure (.bool true), .unary "list" fun x => pure (.list [x])],
      (c : Callback Unit).isAbsent = false ∧ c.Steady (.int 5) := by
    intro c member
    rcases List.mem_cons.mp member with same | member
    · subst c
      exact ⟨rfl, fun w => ⟨_, rfl, rfl⟩⟩
    · cases List.mem_singleton.mp member
      exact ⟨rfl, fun w => ⟨_, rfl, rfl⟩⟩
  refine ⟨⟨given, ?_⟩, steady, order _ (some (.int 5)) _ _ () rfl (fun c member => (steady c member).1)
    (fun c => ?_) ?_⟩
  · rw [← fused _ _ _ given]
    rfl
  · simp only [List.mem_cons, List.not_mem_nil, or_false]
    grind
  · intro payload same c member
    cases same
    exact (steady c member).2

end Method
end Perhaps
