import Perhaps.Proofs.HashContract
import Perhaps.Proofs.MapFusion
import Perhaps.Proofs.StageChain

/-! Equality as a congruence. Equal containers cannot be told apart by asking them, nor by transforming them with
callbacks that answer equal values alike: runs end in the same error or in equal results and leave the same record,
and so do chains of transformations of any length. Calls are compared by their arguments' equality. -/
namespace Perhaps

namespace Value

theorem truthOfNumber {v : Value} {p : Quantity} (number : v.quantity? = some p) :
    v.truth = !p.same (.exact (.ofInt 0)) := by
  cases v with
  | bool b =>
    cases number
    cases b <;> rfl
  | int n =>
    cases number
    exact congrArg Bool.not (Binary.sameZero (.ofInt n)).symm
  | float x =>
    cases number
    cases x with
    | finite negative d => simp only [truth, Double.finiteNotZero, Bool.not_false]
    | nan o | infinity negative | zero negative => rfl
  | _ => contradiction

theorem itemsTruth {xs ys : List Value} (same : sameItems xs ys = true) : xs.isEmpty = ys.isEmpty := by
  cases xs <;> cases ys <;> simp_all [sameItems]

theorem sameTruth {a b : Value} (same : Same a b) : a.truth = b.truth := by
  fun_cases a.same b with
  | case1 | case7 | case8 | case9 | case10 | case11 => rfl
  | case2 s t =>
    obtain rfl : s = t := by simpa [Same, Value.same] using same
    rfl
  | case3 bs cs =>
    obtain rfl : bs = cs := by simpa [Same, Value.same] using same
    rfl
  | case4 xs ys | case5 xs ys =>
    have items : sameItems xs ys = true := by simpa [Same, Value.same] using same
    simp only [truth, itemsTruth items]
  | case6 es fs =>
    obtain ⟨length, _⟩ : es.length = fs.length ∧ entriesIn es fs = true := by
      simpa [Same, Value.same] using same
    cases es <;> cases fs <;> first | rfl | simp at length
  | case12 =>
    have equation : a.same b = sameQuantity a b := by rw [Value.same] <;> assumption
    obtain ⟨p, q, here, there, equal⟩ := sharedQuantity (equation.symm.trans same)
    rw [truthOfNumber here, truthOfNumber there, Bool.not_inj_iff, Bool.eq_iff_iff]
    exact ⟨Quantity.sameTrans (Quantity.sameSymm equal), Quantity.sameTrans equal⟩

theorem identicalHash (a b : Value) (one : a.identical b = true) : a.hashCode = b.hashCode := by
  fun_induction a.identical b with
  | case1 o p => rfl
  | case2 => rfl
  | case3 a o b p ih =>
    rw [Bool.and_eq_true] at one
    rw [hashCode, hashCode, ih one.2]
  | case4 => contradiction

mutual

theorem congruentHash (a b : Value) (same : Same a b) : a.hashCode = b.hashCode := by
  fun_cases a.same b with
  | case1 | case4 | case6 | case7 | case9 | case10 | case11 => simp only [hashCode]
  | case2 s t => simp only [hashCode]
  | case3 bs cs => simp only [hashCode]
  | case5 xs ys =>
    rw [hashCode, hashCode]
    exact congruentItemsHash xs ys (by simpa [Same, Value.same] using same)
  | case8 x o y p =>
    rw [hashCode, hashCode]
    exact congruentHash x y (by simpa [Same, Value.same] using same)
  | case12 =>
    have equation : a.same b = sameQuantity a b := by rw [Value.same] <;> assumption
    obtain ⟨p, q, here, there, equal⟩ := sharedQuantity (equation.symm.trans same)
    obtain ⟨r, left, right⟩ := Quantity.sameResidue equal
    rw [hashNumber here left, hashNumber there right]
termination_by sizeOf a

theorem congruentItemsHash (xs ys : List Value) (same : sameItems xs ys = true) : hashItems xs = hashItems ys := by
  fun_cases sameItems xs ys with
  | case1 => rfl
  | case2 x xs y ys =>
    rw [sameItems, Bool.and_eq_true, Bool.or_eq_true] at same
    have head : x.hashCode = y.hashCode := same.1.elim (identicalHash x y) (congruentHash x y)
    rw [hashItems, hashItems, head, congruentItemsHash xs ys same.2]
  | case3 => cases xs <;> cases ys <;> simp_all [sameItems]
termination_by sizeOf xs

end

theorem sameContainers {a b : Value} {o : Option Value} (container : a.container? = some o) (same : Same a b) :
    (a = empty ∧ b = empty) ∨ ∃ x m y n, a = present x m ∧ b = present y n ∧ Same x y := by
  obtain rfl | ⟨x, m, rfl⟩ := containerCases container
  · cases b with
    | empty => exact .inl ⟨rfl, rfl⟩
    | _ => simp [Same, Value.same, sameQuantity, quantity?] at same
  · cases b with
    | present y n => exact .inr ⟨x, m, y, n, rfl, rfl, by simpa [Same, Value.same] using same⟩
    | _ => simp [Same, Value.same, sameQuantity, quantity?] at same

structure Equals (s : Value → Prop) (a b : Value) : Prop where
  same : Same a b
  left : s a
  right : s b

def Holding (s : Value → Prop) (v : Value) : Prop :=
  ∃ o, v.container? = some o ∧ ∀ payload, o = some payload → s payload

/- What a chained callback may answer for the chain to go on: a container, or absence, which is refused. -/
def Chainable (s : Value → Prop) (v : Value) : Prop := v = absent ∨ v.Holding s

variable {s : Value → Prop}

theorem holdingEmpty : Holding s empty := ⟨none, rfl, fun _ impossible => nomatch impossible⟩

theorem holdingPresent {payload : Value} {n : Occurrence} : Holding s (present payload n) ↔ s payload := by
  constructor
  · rintro ⟨o, container, held⟩
    cases container
    exact held payload rfl
  · intro member
    exact ⟨some payload, rfl, fun other same => Option.some.inj same ▸ member⟩

theorem sameEmpty : Same empty empty := by simp [Same, same]

theorem equalsEmpty : Equals (Holding s) empty empty := ⟨sameEmpty, holdingEmpty, holdingEmpty⟩

theorem equalsPresent {x y : Value} {m n : Occurrence} :
    Equals (Holding s) (present x m) (present y n) ↔ Equals s x y := by
  constructor
  · rintro ⟨same, left, right⟩
    exact ⟨by simpa [Same, Value.same] using same, holdingPresent.mp left, holdingPresent.mp right⟩
  · rintro ⟨same, left, right⟩
    exact ⟨by simpa [Same, Value.same] using same, holdingPresent.mpr left, holdingPresent.mpr right⟩

theorem equalContainers {a b : Value} (equal : Equals (Holding s) a b) :
    (a = empty ∧ b = empty) ∨ ∃ x m y n, a = present x m ∧ b = present y n ∧ Equals s x y := by
  obtain ⟨o, container, _⟩ := equal.left
  obtain both | ⟨x, m, y, n, rfl, rfl, _⟩ := sameContainers container equal.same
  · exact .inl both
  · exact .inr ⟨x, m, y, n, rfl, rfl, equalsPresent.mp equal⟩

end Value

open Value (Equals Holding Same Chainable)

/- Two ways to end that nobody tells apart: in errors of one kind with one message, or in related results. -/
inductive EndAlike (r : Value → Value → Prop) : Except Fault Value → Except Fault Value → Prop where
  | failed {e f : Fault} (kind : e.kind = f.kind) (message : e.message = f.message) : EndAlike r (.error e) (.error f)
  | answered {a b : Value} (related : r a b) : EndAlike r (.ok a) (.ok b)

theorem EndAlike.mono {r q : Value → Value → Prop} {x y : Except Fault Value} (ends : EndAlike r x y)
    (wider : ∀ a b, r a b → q a b) : EndAlike q x y := by
  cases ends with
  | failed kind message => exact .failed kind message
  | answered related => exact .answered (wider _ _ related)

def SameCall (c d : Call) : Prop := c.function = d.function ∧ List.Forall₂ Same c.args d.args

structure Matched {σ : Type} (r : Value → Value → Prop) (o p : Outcome σ Value) : Prop where
  results : EndAlike r o.result p.result
  calls : List.Forall₂ SameCall o.calls p.calls
  log : o.log = p.log
  world : o.world = p.world

namespace Matched

variable {σ : Type} {r q : Value → Value → Prop} {x y : Run σ Value} {w : σ}

theorem pure {a b : Value} (related : r a b) (w : σ) :
    Matched r ((Pure.pure a : Run σ Value) w) ((Pure.pure b : Run σ Value) w) :=
  ⟨.answered related, .nil, rfl, rfl⟩

theorem failed {f : Fault} (failed : (x w).result = .error f) (quiet : (x w).calls = []) :
    Matched r (x w) (x w) := by
  refine ⟨?_, ?_, rfl, rfl⟩
  · rw [failed]
    exact .failed rfl rfl
  · rw [quiet]
    exact .nil

theorem mono (matched : Matched r (x w) (y w)) (wider : ∀ a b, r a b → q a b) : Matched q (x w) (y w) :=
  ⟨matched.results.mono wider, matched.calls, matched.log, matched.world⟩

theorem bind {f g : Value → Run σ Value} (first : Matched r (x w) (y w))
    (next : ∀ a b u, r a b → Matched q (f a u) (g b u)) : Matched q ((x >>= f) w) ((y >>= g) w) := by
  obtain ⟨results, calls, log, world⟩ := first
  cases left : (x w).result with
  | error e =>
    cases right : (y w).result with
    | error f =>
      rw [left, right] at results
      cases results with
      | failed kind message =>
        rw [Run.bindError left, Run.bindError right]
        exact ⟨.failed kind message, calls, log, world⟩
    | ok b => rw [left, right] at results; cases results
  | ok a =>
    cases right : (y w).result with
    | error f => rw [left, right] at results; cases results
    | ok b =>
      rw [left, right] at results
      cases results with
      | answered related =>
        have rest := next a b (x w).world related
        rw [Run.bindOk left, Run.bindOk right, ← world]
        exact ⟨rest.results, List.rel_append calls rest.calls, by rw [log, rest.log], rest.world⟩

end Matched

/- A callback that answers equal arguments of a set alike: with errors that nobody tells apart, or with equal answers
of another set, and with the same calls, records and changes. -/
def Callback.Respects {σ : Type} (s t : Value → Prop) (c : Callback σ) : Prop :=
  ∀ x y w, Equals s x y → Matched (Equals t) (c.call [x] w) (c.call [y] w)

def Callback.effectFree {σ : Type} (g : List Value → Except Fault Value) : Callback σ :=
  .function fun args => Run.ofExcept (g args)

namespace Callback

variable {σ : Type} {s t : Value → Prop}

theorem effectFreeRespects {g : List Value → Except Fault Value}
    (alike : ∀ x y, Equals s x y → EndAlike (Equals t) (g [x]) (g [y])) : (effectFree g : Callback σ).Respects s t := by
  intro x y w equal
  have ends := alike x y equal
  show Matched _ ((Run.ofExcept (g [x]) : Run σ Value) w) (Run.ofExcept (g [y]) w)
  cases left : g [x] with
  | error e =>
    cases right : g [y] with
    | error f => rw [left, right] at ends; exact ⟨ends, .nil, rfl, rfl⟩
    | ok b => rw [left, right] at ends; cases ends
  | ok a =>
    cases right : g [y] with
    | error f => rw [left, right] at ends; cases ends
    | ok b => rw [left, right] at ends; exact ⟨ends, .nil, rfl, rfl⟩

theorem recordedRespects {c : Callback σ} (respects : c.Respects s t) (name : String) :
    (c.recorded name).Respects s t := by
  cases c with
  | value v => exact respects
  | function body =>
    intro x y w equal
    obtain ⟨results, calls, log, world⟩ := respects x y w equal
    have entered (z : Value) : ((function body).recorded name).call [z] w =
        ⟨(body [z] w).result, ⟨name, [z]⟩ :: (body [z] w).calls, (body [z] w).log, (body [z] w).world⟩ := rfl
    rw [entered x, entered y]
    exact ⟨results, .cons ⟨rfl, .cons equal.same .nil⟩ calls, log, world⟩

end Callback

namespace Method

variable {σ : Type} {s t : Value → Prop} {a b : Value} {c : Callback σ}

theorem eagerTriggered {m : Method} (eager : m.eager = true) (o : Option Value) :
    m.triggered o = o.isSome ∧ m.arguments o = o.toList ∧ m.untouched o = .empty := by
  cases m <;> first | contradiction | exact ⟨rfl, rfl, rfl⟩

theorem performMatched {m : Method} {r : Value → Value → Prop} (eager : m.eager = true)
    (equal : Equals (Holding s) a b) (respects : c.Respects s t) (idle : r .empty .empty)
    (finishes : ∀ x y u, Equals t x y → Matched r ((m.finish a x : Run σ Value) u) (m.finish b y u)) (w : σ) :
    Matched r (m.perform a c w) (m.perform b c w) := by
  cases absent : c.isAbsent with
  | true =>
    obtain ⟨o, left, _⟩ := equal.left
    obtain ⟨p, right, _⟩ := equal.right
    rw [performAbsent m left absent (by simp [eager]), performAbsent m right absent (by simp [eager])]
    exact .failed rfl rfl
  | false =>
    obtain ⟨rfl, rfl⟩ | ⟨x, j, y, k, rfl, rfl, payloads⟩ := Value.equalContainers equal
    · obtain ⟨idles, _, same⟩ := eagerTriggered eager none
      rw [performUntouched m rfl (.inl absent) idles, same]
      exact .pure idle w
    · obtain ⟨dueX, withX, _⟩ := eagerTriggered eager (some x)
      obtain ⟨dueY, withY, _⟩ := eagerTriggered eager (some y)
      rw [performTriggered m rfl absent dueX, performTriggered m rfl absent dueY, withX, withY]
      exact (respects x y w payloads).bind finishes

theorem mapMatched (equal : Equals (Holding s) a b) (respects : c.Respects s t) (w : σ) :
    Matched (Equals (Holding t)) (map.perform a c w) (map.perform b c w) := by
  refine performMatched rfl equal respects Value.equalsEmpty (fun x y u answers => ?_) w
  refine Matched.pure ?_ u
  by_cases missing : x = .absent
  · rw [missing, (Value.sameAbsent answers.same).mp missing]
    exact Value.equalsEmpty
  · have filled : y ≠ .absent := fun gone => missing ((Value.sameAbsent answers.same).mpr gone)
    rw [Value.ofContainerFilled missing, Value.ofContainerFilled filled]
    exact Value.equalsPresent.mpr answers

theorem filterMatched (equal : Equals (Holding s) a b) (respects : c.Respects s t) (w : σ) :
    Matched (Equals (Holding s)) (filter.perform a c w) (filter.perform b c w) := by
  refine performMatched rfl equal respects Value.equalsEmpty (fun x y u answers => ?_) w
  refine Matched.pure ?_ u
  rw [Value.sameTruth answers.same]
  cases y.truth with
  | true => exact equal
  | false => exact Value.equalsEmpty

theorem flatMapMatched (equal : Equals (Holding s) a b) (respects : c.Respects s t) (w : σ) :
    Matched (Equals fun v => v = .empty ∨ t v ∧ v ≠ .absent) (flatMap.perform a c w) (flatMap.perform b c w) := by
  refine performMatched rfl equal respects ⟨Value.sameEmpty, .inl rfl, .inl rfl⟩ (fun x y u answers => ?_) w
  by_cases missing : x = .absent
  · rw [missing, (Value.sameAbsent answers.same).mp missing]
    exact .failed rfl rfl
  · have filled : y ≠ .absent := fun gone => missing ((Value.sameAbsent answers.same).mpr gone)
    rw [finishGiven a missing, finishGiven b filled]
    exact .pure ⟨answers.same, .inr ⟨answers.left, missing⟩, .inr ⟨answers.right, filled⟩⟩ u

end Method

namespace Stage

variable {σ : Type} {s : Value → Prop} {a b : Value}

def Respects (s : Value → Prop) : Stage σ → Prop
  | map f => (Callback.function f).Respects s s
  | filter p => (Callback.function p).Respects s fun _ => True
  | flatMap f => (Callback.function f).Respects s (Chainable s)

def through : List (Stage σ) → Value → Run σ Value
  | [], v => pure v
  | stage :: rest, v => do
    let next ← stage.method.perform v (.function stage.body)
    through rest next

theorem stageMatched {stage : Stage σ} (respects : stage.Respects s) (equal : Equals (Holding s) a b) (w : σ) :
    Matched (Equals (Holding s)) (stage.method.perform a (.function stage.body) w)
      (stage.method.perform b (.function stage.body) w) := by
  cases stage with
  | map f => exact Method.mapMatched equal respects w
  | filter p => exact Method.filterMatched equal respects w
  | flatMap f =>
    have going {v : Value} (answer : v = .empty ∨ Chainable s v ∧ v ≠ .absent) : Holding s v := by
      rcases answer with rfl | ⟨missing | held, filled⟩
      · exact Value.holdingEmpty
      · exact absurd missing filled
      · exact held
    exact (Method.flatMapMatched equal respects w).mono fun x y answers =>
      ⟨answers.same, going answers.left, going answers.right⟩

theorem chainMatched {stages : List (Stage σ)} (respects : ∀ stage ∈ stages, stage.Respects s)
    (equal : Equals (Holding s) a b) (w : σ) :
    Matched (Equals (Holding s)) (through stages a w) (through stages b w) := by
  induction stages generalizing a b w with
  | nil => exact .pure equal w
  | cons stage rest ih =>
    rw [List.forall_mem_cons] at respects
    exact (stageMatched respects.1 equal w).bind fun x y u next => ih respects.2 next u

end Stage

namespace Program

variable {σ : Type} {ρ : Registers} {a b : Value} {o : Option Value}

inductive Asks : Action → Prop where
  | isPresent : Asks .isPresent
  | isEmpty : Asks .isEmpty
  | truth : Asks .truth
  | hash : Asks .hash
  | get : Asks .get
  | orElse {default : Value} (settled : default.Settled) : Asks (.orElse (.literal default))

theorem observersAgree (container : a.container? = some o) (same : Same a b) {action : Action}
    (observes : action ∈ [Action.isPresent, .isEmpty, .truth, .hash]) :
    (action.run ρ a : Run σ Value) = action.run ρ b := by
  have hash := Value.congruentHash a b same
  simp only [List.mem_cons, List.not_mem_nil, or_false] at observes
  obtain ⟨rfl, rfl⟩ | ⟨x, m, y, n, rfl, rfl, _⟩ := Value.sameContainers container same
  · rfl
  · rcases observes with rfl | rfl | rfl | rfl
    · rw [Action.run, Action.run]; rfl
    · rw [Action.run, Action.run]; rfl
    · rw [Action.run, Action.run]; rfl
    · rw [Action.run, Action.run, hashValue, hashValue, Value.hashCode?, Value.hashCode?, hash]

theorem answersMatch (container : a.container? = some o) (same : Same a b) {action : Action}
    (asks : Asks action) (w : σ) : Matched Same (action.run ρ a w) (action.run ρ b w) := by
  have plain (c : Bool) : Matched Same ((pure (.bool c) : Run σ Value) w) ((pure (.bool c) : Run σ Value) w) :=
    .pure (Value.settledRefl ⟨rfl, rfl⟩) w
  cases asks with
  | isPresent =>
    rw [← observersAgree container same (by simp), Action.run, Method.accessContainer container, pure_bind]
    exact plain _
  | isEmpty =>
    rw [← observersAgree container same (by simp), Action.run, Method.accessContainer container, pure_bind]
    exact plain _
  | truth =>
    rw [← observersAgree container same (by simp), Action.run]
    exact plain _
  | hash =>
    rw [← observersAgree container same (by simp), Action.run]
    obtain ⟨number, other, unhashed⟩ := Value.hashValueCases (σ := σ) a
    cases hashed : a.hashCode with
    | error t =>
      rw [unhashed t hashed]
      exact .failed rfl rfl
    | ok h =>
      cases h with
      | number h =>
        rw [number h hashed]
        exact .pure (Value.settledRefl ⟨rfl, rfl⟩) w
      | other =>
        rw [other hashed]
        exact .pure (Value.settledRefl ⟨rfl, rfl⟩) w
  | get =>
    obtain ⟨rfl, rfl⟩ | ⟨x, m, y, n, rfl, rfl, payloads⟩ := Value.sameContainers container same
    · exact .failed rfl rfl
    · exact .pure payloads w
  | orElse settled =>
    obtain ⟨rfl, rfl⟩ | ⟨x, m, y, n, rfl, rfl, payloads⟩ := Value.sameContainers container same
    · exact .pure (Value.settledRefl settled) w
    · exact .pure payloads w

end Program

open Program (Asks)

theorem equalityIsCongruence {σ : Type} (ρ : Program.Registers) :
    (∀ a b o, a.container? = some o → a.same b = true →
      (∀ action ∈ [Program.Action.isPresent, .isEmpty, .truth, .hash],
        (action.run ρ a : Run σ Value) = action.run ρ b) ∧
      ∀ action w, Asks action → Matched Same (action.run ρ a w : Outcome σ Value) (action.run ρ b w)) ∧
    (∀ s (c : Callback σ) a b w, Equals (Holding s) a b → c.Respects s (fun _ => True) →
      Matched Same (Method.map.perform a c w) (Method.map.perform b c w) ∧
      Matched Same (Method.filter.perform a c w) (Method.filter.perform b c w) ∧
      Matched Same (Method.flatMap.perform a c w) (Method.flatMap.perform b c w)) ∧
    (∀ s (stages : List (Stage σ)) a b w, Equals (Holding s) a b → (∀ stage ∈ stages, stage.Respects s) →
      Matched (Equals (Holding s)) (Stage.through stages a w) (Stage.through stages b w) ∧
      ∀ action, Asks action →
        Matched Same ((Stage.through stages a >>= action.run ρ) w) ((Stage.through stages b >>= action.run ρ) w)) ∧
    (∀ s t (g : List Value → Except Fault Value), (∀ x y, Equals s x y → EndAlike (Equals t) (g [x]) (g [y])) →
      (Callback.effectFree g : Callback σ).Respects s t) ∧
    (∀ s t (c : Callback σ) name, c.Respects s t → (c.recorded name).Respects s t) := by
  refine ⟨?asked, ?transformed, ?chained, fun _ _ _ => Callback.effectFreeRespects,
    fun _ _ _ name respects => Callback.recordedRespects respects name⟩
  case asked =>
    intro a b o container same
    exact ⟨fun action => Program.observersAgree container same, fun action w asks =>
      Program.answersMatch container same asks w⟩
  case transformed =>
    intro s c a b w equal respects
    exact ⟨(Method.mapMatched equal respects w).mono fun _ _ results => results.same,
      (Method.filterMatched equal respects w).mono fun _ _ results => results.same,
      (Method.flatMapMatched equal respects w).mono fun _ _ results => results.same⟩
  case chained =>
    intro s stages a b w equal respects
    have matched := Stage.chainMatched respects equal w
    refine ⟨matched, fun action asks => matched.bind fun x y u next => ?_⟩
    obtain ⟨o, container, _⟩ := next.left
    exact Program.answersMatch container next.same asks u

theorem mixedNumbersAgree :
    let a : Value := .present (.int 1) none
    let b : Value := .present (.bool true) (some 3)
    let listed : Callback Unit := .effectFree fun args => .ok (.list args)
    let stages : List (Stage Unit) := [.map fun args => pure (.list args), .filter fun _ => pure (.str "x")]
    (a.container? = some (some (.int 1)) ∧ a.same b = true ∧
      (Program.Action.hash.run .empty a : Run Unit Value) = Program.Action.hash.run .empty b) ∧
    (Equals (Holding fun _ => True) a b ∧ listed.Respects (fun _ => True) (fun _ => True) ∧
      (listed.recorded "list1").Respects (fun _ => True) (fun _ => True)) ∧
    ((∀ stage ∈ stages, stage.Respects fun _ => True) ∧ Asks .get ∧
      Matched Same (⟨.ok (.list [.int 1]), [], [], ()⟩ : Outcome Unit Value)
        ⟨.ok (.list [.bool true]), [], [], ()⟩) := by
  intro a b listed stages
  obtain ⟨asked, _, chained, pure, recorded⟩ := equalityIsCongruence (σ := Unit) .empty
  have equal : Equals (Holding fun _ => True) a b := Value.equalsPresent.mpr ⟨rfl, trivial, trivial⟩
  have respects : listed.Respects (fun _ => True) (fun _ => True) := by
    refine pure _ _ _ fun x y alike => .answered ⟨?_, trivial, trivial⟩
    simp [Same, Value.same, Value.sameItems, alike.same]
  have yes : (Callback.effectFree fun _ => .ok (.str "x") : Callback Unit).Respects (fun _ => True) fun _ => True :=
    pure _ _ _ fun x y _ => .answered ⟨rfl, trivial, trivial⟩
  have all : ∀ stage ∈ stages, stage.Respects fun _ => True := by
    intro stage member
    rcases List.mem_cons.mp member with rfl | member
    · exact respects
    · cases List.mem_singleton.mp member
      exact yes
  have hash := (asked a b _ rfl rfl).1 .hash (by simp)
  exact ⟨⟨rfl, rfl, hash⟩, ⟨equal, respects, recorded _ _ _ _ respects⟩, all, .get,
    (chained _ stages a b () equal all).2 .get .get⟩

end Perhaps
