import Perhaps.Program.Session
import Perhaps.Proofs.ProgramRegularity

/-! Sessions instruction by instruction. What one instruction keeps, the registers and every outcome of a
session keep. Storing numbers the objects of a value, which the properties in question do not see. -/
namespace Perhaps.Program

variable {σ : Type} {p : Value → Bool} {r : String → Bool}

def after : List Instruction → Registers → σ → Registers × σ
  | [], ρ, w => (ρ, w)
  | i :: is, ρ, w =>
    let o := i.run ρ w
    after is (ρ.store i.register o.result) o.world

theorem outcomeOrigin {is : List Instruction} {ρ : Registers} {w : σ} {o : Outcome σ Value}
    (member : o ∈ outcomes is ρ w) : ∃ before i rest, is = before ++ i :: rest ∧
      o = i.run (after before ρ w).1 (after before ρ w).2 := by
  induction is generalizing ρ w with
  | nil => cases member
  | cons i is ih =>
    rcases List.mem_cons.mp member with rfl | later
    · exact ⟨[], i, is, rfl, rfl⟩
    · obtain ⟨before, j, rest, split, origin⟩ := ih later
      exact ⟨i :: before, j, rest, congrArg (i :: ·) split, origin⟩

theorem instructionKeeps (closed : Value.Closed p) {ρ : Registers} (hold : ρ.Hold p r) {i : Instruction}
    (within : i.step.within p r = true) : Run.Answers p (i.run ρ : Run σ Value) := by
  rw [Step.within, Bool.and_eq_true] at within
  have subject := valueOrKeeps (σ := σ) closed hold (show Value.absent.everywhere p = true from closed.absent)
    i.step.on within.1
  have step : Run.Answers p (i.step.run ρ : Run σ Value) :=
    Run.keepsBind subject fun s hs => actionKeeps closed hold i.step.action within.2 s hs
  exact Run.keepsBind step fun v hv => Run.keepsWritable closed hv

theorem storeHolds (kept : ∀ n v, p (v.numbered n) = p v) {ρ : Registers} (hold : ρ.Hold p r)
    (register : Option String) {result : Except Fault Value}
    (all : ∀ v, result = .ok v → v.everywhere p = true) : (ρ.store register result).Hold p r := by
  intro name v used found
  cases register with
  | none => exact hold name v used found
  | some target =>
    cases result with
    | error f => exact hold name v used found
    | ok u =>
      rw [Registers.store, Registers.getSet] at found
      split at found
      · cases found
        rw [Value.everywhereNumbered kept]
        exact all u rfl
      · exact hold name v used found

theorem afterHolds (closed : Value.Closed p) (kept : ∀ n v, p (v.numbered n) = p v) (is : List Instruction)
    (within : ∀ i ∈ is, i.step.within p r = true) {ρ : Registers} (hold : ρ.Hold p r) (w : σ) :
    (after is ρ w).1.Hold p r := by
  induction is generalizing ρ w with
  | nil => exact hold
  | cons i is ih =>
    have regular := instructionKeeps closed hold (within i List.mem_cons_self) w
    refine ih (fun j hj => within j (List.mem_cons_of_mem i hj)) ?_ _
    exact storeHolds kept hold i.register fun v same => (regular.succeeded v same).2

theorem outcomesRegular (closed : Value.Closed p) (kept : ∀ n v, p (v.numbered n) = p v) (is : List Instruction)
    (within : ∀ i ∈ is, i.step.within p r = true) {ρ : Registers} (hold : ρ.Hold p r) (w : σ) :
    ∀ o ∈ outcomes is ρ w, Regular p (fun v => v.everywhere p = true) o := by
  intro o member
  obtain ⟨before, i, rest, rfl, rfl⟩ := outcomeOrigin member
  have earlier : ∀ j ∈ before, j.step.within p r = true :=
    fun j hj => within j (List.mem_append_left _ hj)
  have here : i.step.within p r = true := within i (List.mem_append_right _ List.mem_cons_self)
  exact instructionKeeps closed (afterHolds closed kept before earlier hold w) here _

end Perhaps.Program
