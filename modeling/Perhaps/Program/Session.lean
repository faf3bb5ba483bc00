import Perhaps.Program.Evaluation

/-! Sessions: instructions in turn, each a step and perhaps a register for its result. A register keeps
its value when the step that would set it ends in an error, and the session goes on. -/
namespace Perhaps.Program

variable {σ : Type}

structure Instruction where
  step : Step
  register : Option String

/- A session records what a step comes to, so a result that cannot be written is an error of the session's. -/
def Instruction.run (i : Instruction) (ρ : Registers) : Run σ Value := do
  let v ← i.step.run ρ
  Run.attempt v.writable

def outcomes : List Instruction → Registers → σ → List (Outcome σ Value)
  | [], _, _ => []
  | i :: is, ρ, w =>
    let o := i.run ρ w
    o :: outcomes is (ρ.store i.register o.result) o.world

/- An outcome whose error, if it is one, can be written. -/
def writableOutcome (o : Outcome σ Value) : Except Cause (Outcome σ Value) :=
  match o.result with
  | .ok _ => .ok o
  | .error f => f.value.writable.map fun _ => o

def session (is : List Instruction) : Except Cause (List (Outcome Unit Value)) :=
  (outcomes is .empty ()).mapM writableOutcome

end Perhaps.Program
