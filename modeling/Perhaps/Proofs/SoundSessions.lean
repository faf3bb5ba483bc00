import Perhaps.Proofs.SessionRegularity

/-! No container ever holds absence. A session whose written values are sound keeps every value sound that
registers, results, errors and traced calls can show, at any depth of nesting. What a successful action on a
sound value promises about its result follows. -/
namespace Perhaps

namespace Method

variable {σ : Type}

theorem raiseFails (v : Value) (w : σ) : ∀ b, (Container.raiseValue v w).result ≠ .ok b := by
  intro b done
  cases v with
  | errorClass kind =>
    obtain ⟨f, _, raised⟩ := Run.okOfBind done
    cases raised
  | _ => cases done

def Promises (m : Method) (v : Value) : Prop :=
  match m with
  | map | filter => v.container?.isSome = true
  | flatMap | orElseThrow => v ≠ .absent
  | ifPresent | orElseGet => True

theorem untouchedPromises (m : Method) {v : Value} {o : Option Value} (sound : v.sound = true)
    (h : v.container? = some o) (idle : m.triggered o = false) : m.Promises (m.untouched o) := by
  cases m with
  | ifPresent | orElseGet => trivial
  | filter | map => rfl
  | flatMap => exact Value.noConfusion
  | orElseThrow =>
    cases o with
    | none => contradiction
    | some payload => exact (Value.soundPayload sound h).1

theorem finishPromises (m : Method) {v r b : Value} {o : Option Value} (h : v.container? = some o) {w : σ}
    (done : (m.finish v r w).result = .ok b) : m.Promises b := by
  cases m with
  | ifPresent | orElseGet => trivial
  | filter =>
    cases done
    show (if r.truth then v else Value.empty).container?.isSome = true
    split
    · rw [h]; rfl
    · rfl
  | map =>
    cases done
    show (Value.ofContainer r.toOption).container?.isSome = true
    rw [Value.containerOfContainer]; rfl
  | flatMap =>
    rintro rfl
    cases r <;> cases done
  | orElseThrow => exact absurd done (raiseFails r w b)

theorem performPromises (m : Method) {v b : Value} (sound : v.sound = true) {c : Callback σ} {w : σ}
    (done : (m.perform v c w).result = .ok b) : m.Promises b := by
  rcases performCases m v c with ⟨_, same⟩ | ⟨o, h, ⟨_, _, same⟩ | ⟨_, _, same⟩ | ⟨_, idle, same⟩⟩ <;>
    rw [same] at done
  · cases done
  · cases done
  · obtain ⟨r, _, finished⟩ := Run.okOfBind done
    exact finishPromises m h finished
  · cases done
    exact untouchedPromises m sound h idle

end Method

namespace Program

variable {σ : Type}

def Action.Promises (a : Action) (v : Value) : Prop :=
  match a with
  | .get | .flatMap _ | .orElseThrow _ => v ≠ .absent
  | .of _ | .ofNullable _ | .map _ | .filter _ => v.container?.isSome = true
  | _ => True

theorem actionPromises (a : Action) {ρ : Registers} {s v : Value} {w : σ} (sound : s.sound = true)
    (done : (a.run ρ s w).result = .ok v) : a.Promises v := by
  cases a with
  | get =>
    cases s with
    | present payload o => cases done; exact (Value.soundPayload sound rfl).1
    | _ => cases done
  | of t =>
    rw [Action.run] at done
    obtain ⟨u, _, held⟩ := Run.okOfBind done
    cases u <;> cases held <;> rfl
  | ofNullable t =>
    rw [Action.run] at done
    obtain ⟨u, _, held⟩ := Run.okOfBind done
    cases held
    show (Value.ofContainer u.toOption).container?.isSome = true
    rw [Value.containerOfContainer]; rfl
  | map e | filter e | flatMap e | orElseThrow e =>
    rw [Action.run] at done
    obtain ⟨f, _, performed⟩ := Run.okOfBind done
    exact Method.performPromises _ sound performed
  | _ => trivial

structure SoundOutcome (o : Outcome σ Value) : Prop where
  result : ∀ v, o.result = .ok v → v.sound = true
  error : ∀ f, o.result = .error f → ∀ a ∈ f.args, a.sound = true
  calls : ∀ c ∈ o.calls, ∀ a ∈ c.args, a.sound = true

theorem endsSound {f : Fault} {log : List Logging.Record} (ends : Ends Value.solid f log) :
    ∀ a ∈ f.args, a.sound = true := by
  cases ends with
  | silent _ args made => exact Value.itemsEverywhereIff.mp args
  | refused kind own message =>
    intro a member
    cases List.mem_singleton.mp member
    rfl

theorem regularSound {o : Outcome σ Value}
    (regular : Regular Value.solid (fun v => v.sound = true) o) : SoundOutcome o where
  result v same := (regular.succeeded v same).2
  error f same := endsSound (regular.failed f same)
  calls c member := Value.itemsEverywhereIff.mp (regular.calls c member)

/- No container around absence is written down, at any depth of callbacks. Registers may be read freely. -/
def Expr.sound (e : Expr) : Bool := e.within Value.solid fun _ => true

def Action.sound (a : Action) : Bool := a.within Value.solid fun _ => true

def Instruction.sound (i : Instruction) : Bool := i.step.within Value.solid fun _ => true

def SoundRegisters (ρ : Registers) : Prop := ∀ name v, ρ.get? name = some v → v.sound = true

theorem soundHold {ρ : Registers} (sound : SoundRegisters ρ) : ρ.Hold Value.solid fun _ => true :=
  fun name v _ found => sound name v found

theorem emptyHolds {p : Value → Bool} {r : String → Bool} : Registers.empty.Hold p r := by
  intro name v used found
  contradiction

theorem writableSame {u v : Value} {w : σ} (shown : ((Run.attempt u.writable : Run σ Value) w).result = .ok v) :
    u = v := by
  unfold Value.writable at shown
  split at shown <;> cases shown
  rfl

theorem instructionPromises (i : Instruction) {ρ : Registers} (registers : SoundRegisters ρ)
    (written : i.sound = true) {w : σ} {v : Value} (done : (i.run ρ w).result = .ok v) :
    i.step.action.Promises v := by
  obtain ⟨u, stepped, shown⟩ := Run.okOfBind done
  cases writableSame shown
  obtain ⟨s, subject, acted⟩ := Run.okOfBind stepped
  rw [Instruction.sound, Step.within, Bool.and_eq_true] at written
  have kept : Run.Answers Value.solid (Term.valueOr ρ .absent i.step.on : Run σ Value) :=
    valueOrKeeps Value.solidClosed (soundHold registers) rfl i.step.on written.1
  exact actionPromises i.step.action ((kept w).succeeded s subject).2 acted

theorem reopened {v : Value} {o : Option Value} (sound : v.sound = true) (h : v.container? = some o) :
    (Container.ofNullable (Container.orElse o .absent) : Run σ (Option Value)) = pure o := by
  cases o with
  | none => rfl
  | some payload =>
    have filled := (Value.soundPayload sound h).1
    cases payload <;> first | contradiction | rfl

theorem closedAgain (x : Value) :
    (do let o ← Container.ofNullable x; pure (Container.orElse o .absent) : Run σ Value) = pure x := by
  cases x <;> rfl

theorem actionSound {ρ : Registers} (registers : SoundRegisters ρ) {a : Action} (written : a.sound = true)
    {s : Value} (sound : s.sound = true) (w : σ) : SoundOutcome (a.run ρ s w) :=
  regularSound (actionKeeps Value.solidClosed (soundHold registers) a written s sound w)

theorem callbackSound {ρ : Registers} (registers : SoundRegisters ρ) {e : Expr} (written : e.sound = true)
    {c : Callback σ} {u : σ} (made : (e.callback ρ u).result = .ok c) {args : List Value}
    (sound : ∀ a ∈ args, a.sound = true) (w : σ) : SoundOutcome (c.call args w) := by
  have kept := callbackKeeps Value.solidClosed (soundHold registers) e written u
  exact regularSound ((kept.succeeded c made).2 args (Value.itemsEverywhereIff.mpr sound) w)

/- Soundness of whole sessions, and what it gives. The first four parts are the invariant, for registers and
steps and for the callbacks and actions inside them at any depth. What actions promise follows, in a step and
inside callbacks, and last the passage to nullable values and back. -/
theorem sessionsStaySound (is : List Instruction) (written : ∀ i ∈ is, i.sound = true) (w : σ) :
    (∀ before rest, is = before ++ rest → SoundRegisters (after before .empty w).1) ∧
    (∀ o ∈ outcomes is .empty w, SoundOutcome o) ∧
    (∀ (e : Expr) ρ (u : σ) c args x, SoundRegisters ρ → e.sound = true → (e.callback ρ u).result = .ok c →
      (∀ a ∈ args, a.sound = true) → SoundOutcome (c.call args x)) ∧
    (∀ (a : Action) ρ s (u : σ), SoundRegisters ρ → a.sound = true → s.sound = true →
      SoundOutcome (a.run ρ s u)) ∧
    (∀ before i rest v, is = before ++ i :: rest →
      (i.run (after before .empty w).1 (after before .empty w).2).result = .ok v → i.step.action.Promises v) ∧
    (∀ (a : Action) ρ s (u : σ) v, s.sound = true → (a.run ρ s u).result = .ok v → a.Promises v) ∧
    (∀ (v : Value) o, v.sound = true → v.container? = some o →
      (Container.ofNullable (Container.orElse o .absent) : Run σ (Option Value)) = pure o) ∧
    (∀ x, (do let o ← Container.ofNullable x; pure (Container.orElse o .absent) : Run σ Value) = pure x) := by
  have sounds : ∀ before rest, is = before ++ rest → SoundRegisters (after before .empty w).1 := by
    rintro before rest rfl name v found
    have earlier : ∀ i ∈ before, i.sound = true := fun i member => written i (List.mem_append_left _ member)
    exact afterHolds Value.solidClosed Value.solidNumbered before earlier emptyHolds w name v rfl found
  refine ⟨sounds, ?outcomes, ?callbacks, ?inner, ?steps, ?actions, fun _ _ => reopened, closedAgain⟩
  case outcomes =>
    intro o member
    exact regularSound (outcomesRegular Value.solidClosed Value.solidNumbered is written emptyHolds w o member)
  case callbacks =>
    intro e ρ u c args x registers written made sound
    exact callbackSound registers written made sound x
  case inner =>
    intro a ρ s u registers written sound
    exact actionSound registers written sound u
  case steps =>
    intro before i rest v split done
    have here : i ∈ is := split ▸ List.mem_append_right _ List.mem_cons_self
    exact instructionPromises i (sounds before (i :: rest) split) (written i here) done
  case actions =>
    intro a ρ s u v sound done
    exact actionPromises a sound done

theorem absenceMappedInStaysOut :
    (∀ i ∈ [Instruction.mk ⟨none, .ofNullable (.list [.literal .absent])⟩ (some "x"),
      ⟨⟨some (.register "x"), .map (.perform none (.value (.literal .absent)))⟩, some "y"⟩], i.sound = true) ∧
    ∀ o ∈ outcomes [Instruction.mk ⟨none, .ofNullable (.list [.literal .absent])⟩ (some "x"),
      ⟨⟨some (.register "x"), .map (.perform none (.value (.literal .absent)))⟩, some "y"⟩] .empty (),
      SoundOutcome o := by
  have written : ∀ i ∈ [Instruction.mk ⟨none, .ofNullable (.list [.literal .absent])⟩ (some "x"),
      ⟨⟨some (.register "x"), .map (.perform none (.value (.literal .absent)))⟩, some "y"⟩],
      i.sound = true := by
    intro i member
    rcases List.mem_cons.mp member with rfl | member
    · rfl
    · cases List.mem_singleton.mp member
      rfl
  exact ⟨written, (sessionsStaySound _ written ()).2.1⟩

end Program
end Perhaps
