import Perhaps.Fields
import Perhaps.Run
import Perhaps.Value.Numbered

/-! Registers. A value that is stored has its objects numbered, so that two uses of a register are known to
speak of the same objects. No two objects get the same number in the life of a set of registers. -/
namespace Perhaps.Program

/- The values that registers hold, the latest first, and the first number that no object has. -/
structure Registers where
  held : Fields Value
  unused : Nat

namespace Registers

def empty : Registers := ⟨[], 0⟩

def get? (ρ : Registers) (name : String) : Option Value := Fields.get? name ρ.held

def set (ρ : Registers) (name : String) (v : Value) : Registers :=
  ⟨(name, v.numbered ρ.unused) :: ρ.held, ρ.unused + v.objects⟩

def store (ρ : Registers) (register : Option String) (result : Except Fault Value) : Registers :=
  match register, result with
  | some name, .ok v => ρ.set name v
  | _, _ => ρ

theorem getSet (ρ : Registers) (name other : String) (v : Value) :
    (ρ.set name v).get? other = if name = other then some (v.numbered ρ.unused) else ρ.get? other := by
  simp [get?, set, Fields.get?]

end Registers
end Perhaps.Program
