import Perhaps.Fault
import Perhaps.Logging.Level

/-! Computations that callers can observe: a result or an error, the callbacks that were called with
their arguments, the records that were logged, and whatever else the callbacks change, kept as an
arbitrary world. An error ends a computation and keeps what happened before it. -/
namespace Perhaps

structure Call where
  function : String
  args : List Value

/- What a computation leaves behind. -/
structure Outcome (σ α : Type) where
  result : Except Fault α
  calls : List Call
  log : List Logging.Record
  world : σ

def Run (σ α : Type) := σ → Outcome σ α

namespace Run

variable {σ α β γ : Type}

protected def pure (a : α) : Run σ α := fun w => ⟨.ok a, [], [], w⟩

protected def bind (x : Run σ α) (f : α → Run σ β) : Run σ β := fun w =>
  let first := x w
  match first.result with
  | .error e => ⟨.error e, first.calls, first.log, first.world⟩
  | .ok a =>
    let next := f a first.world
    ⟨next.result, first.calls ++ next.calls, first.log ++ next.log, next.world⟩

instance : Monad (Run σ) where
  pure := Run.pure
  bind := Run.bind

def raise (f : Fault) : Run σ α := fun w => ⟨.error f, [], [], w⟩

def fail (c : Cause) : Run σ α := raise c.fault

def ofExcept : Except Fault α → Run σ α
  | .ok a => pure a
  | .error f => raise f

def attempt : Except Cause α → Run σ α
  | .ok a => pure a
  | .error c => fail c

def enter (c : Call) : Run σ Unit := fun w => ⟨.ok (), [c], [], w⟩

def report (r : Logging.Record) : Run σ Unit := fun w => ⟨.ok (), [], [r], w⟩

theorem bindOk {x : Run σ α} {f : α → Run σ β} {w : σ} {a : α} (h : (x w).result = .ok a) :
    (x >>= f) w = ⟨(f a (x w).world).result, (x w).calls ++ (f a (x w).world).calls,
      (x w).log ++ (f a (x w).world).log, (f a (x w).world).world⟩ := by
  simp [bind, Run.bind, h]

theorem bindError {x : Run σ α} {f : α → Run σ β} {w : σ} {e : Fault} (h : (x w).result = .error e) :
    (x >>= f) w = ⟨.error e, (x w).calls, (x w).log, (x w).world⟩ := by
  simp [bind, Run.bind, h]

theorem okOfBind {x : Run σ α} {f : α → Run σ β} {w : σ} {b : β} (done : ((x >>= f) w).result = .ok b) :
    ∃ a, (x w).result = .ok a ∧ (f a (x w).world).result = .ok b := by
  cases h : (x w).result with
  | error e => rw [bindError h] at done; contradiction
  | ok a => rw [bindOk h] at done; exact ⟨a, rfl, done⟩

theorem bindCongr {x : Run σ α} {f g : α → Run σ β} (same : ∀ w a, (x w).result = .ok a → f a = g a) :
    x >>= f = x >>= g := by
  funext w
  cases h : (x w).result with
  | error e => rw [bindError h, bindError h]
  | ok a => rw [bindOk h, bindOk h, same w a h]

theorem raiseBind (e : Fault) (f : α → Run σ β) : (raise e : Run σ α) >>= f = raise e := rfl

theorem pureBind (a : α) (f : α → Run σ β) : (pure a : Run σ α) >>= f = f a := by
  funext w
  simp [bind, pure, Run.bind, Run.pure]

/- A continuation that only hands a result on leaves everything else as it was. -/
theorem bindSettles {x : Run σ α} {f : α → Run σ β} {w : σ} {a : α} {b : β} (h : (x w).result = .ok a)
    (settles : f a = pure b) : (x >>= f) w = ⟨.ok b, (x w).calls, (x w).log, (x w).world⟩ := by
  rw [bindOk h, settles]
  simp [pure, Run.pure]

theorem bindAssoc (x : Run σ α) (f : α → Run σ β) (g : β → Run σ γ) :
    x >>= f >>= g = x >>= fun a => f a >>= g := by
  funext w
  cases h : (x w).result with
  | error e => simp [bind, Run.bind, h]
  | ok a =>
    cases h' : (f a (x w).world).result with
    | error e => simp [bind, Run.bind, h, h']
    | ok b => simp [bind, Run.bind, h, h']

theorem idMap (x : Run σ α) : id <$> x = x := by
  funext w
  simp only [Functor.map, Run.bind]
  cases h : (x w).result <;> simp [Run.pure, ← h]

instance : LawfulMonad (Run σ) := LawfulMonad.mk' _ idMap pureBind bindAssoc

end Run
end Perhaps
