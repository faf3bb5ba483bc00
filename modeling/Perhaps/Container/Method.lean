import Perhaps.Container

/-! The methods of a container that take a callback. A method is looked up on a value before the callback
is considered, so a value that is no container fails first. -/
namespace Perhaps

inductive Method where
  | ifPresent | filter | map | flatMap | orElseGet | orElseThrow
  deriving DecidableEq, Repr

namespace Method

variable {σ : Type}

def name : Method → String
  | ifPresent => "if_present"
  | filter => "filter"
  | map => "map"
  | flatMap => "flat_map"
  | orElseGet => "or_else_get"
  | orElseThrow => "or_else_throw"

/- The answer of a container that holds `o`. A filter that keeps the payload answers with the container
itself, the other transformations with a new one. -/
def answer (m : Method) (container : Value) (o : Option Value) (c : Callback σ) : Run σ Value :=
  match m with
  | ifPresent => do
    Container.ifPresent o c
    pure .absent
  | filter => do
    let kept ← Container.filter o c
    pure (if kept.isSome then container else .empty)
  | map => Value.ofContainer <$> Container.map o c
  | flatMap => Container.flatMap o c
  | orElseGet => Container.orElseGet o c
  | orElseThrow => Container.orElseThrow o c

def perform (m : Method) (v : Value) (c : Callback σ) : Run σ Value := do
  let o ← Container.access v m.name
  m.answer v o c

end Method
end Perhaps
