import Perhaps.Container

/-! Assertions on containers for tests. They take any value: one that is no container fails first, then
one in the wrong state, then one with the wrong payload. None of them logs. -/
namespace Perhaps.Assertion

variable {σ : Type}

/- The caller's message behind a dash, or nothing for a message that counts as false. -/
def context (message : Value) : Except Cause (List Char) :=
  if message.truth then message.written fun m => word " — " ++ m.plain else .ok []

def failAbout {α : Type} (expectation : String) (v : Value) (context : List Char) : Run σ α := do
  let shown ← Run.attempt (v.written Value.literal)
  Run.fail (.assertion (expectation.toList ++ shown ++ context))

def container (v : Value) (context : List Char) : Run σ (Option Value) :=
  match v.container? with
  | some o => pure o
  | none => failAbout (String.join ["Expected an Optional but got ", v.typeName, ": "]) v context

def present (v : Value) (message : Value) : Run σ Value := do
  let context ← Run.attempt (context message)
  match ← container v context with
  | some payload => pure payload
  | none => failAbout "Expected a present Optional but got " v context

def empty (v : Value) (message : Value) : Run σ Unit := do
  let context ← Run.attempt (context message)
  match ← container v context with
  | some _ => failAbout "Expected an empty Optional but got " v context
  | none => pure ()

def presentValue (v : Value) (expected : Value) : Run σ Unit := do
  let payload ← present v (.str "")
  if payload.same expected then pure ()
  else do
    let wanted ← Run.attempt (expected.written Value.literal)
    let found ← Run.attempt (payload.written Value.literal)
    Run.fail (.assertion (word "Expected present value " ++ wanted ++ word " but got " ++ found))

end Perhaps.Assertion
