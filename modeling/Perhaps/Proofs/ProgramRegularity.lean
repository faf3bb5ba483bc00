import Perhaps.Proofs.OperandRegularity

/-! Programs keep what their callbacks are asked to keep. The induction is on expressions and actions together,
since an action inside a callback is performed like one of a step. -/
namespace Perhaps.Program

variable {σ : Type} {p : Value → Bool} {r : String → Bool} {ρ : Registers}

theorem restKeeps {fs : List (Callback σ)} (keeps : ∀ f ∈ fs, f.Keeps p) {v : Value} (hv : v.everywhere p = true) :
    Run.Answers p (fs.foldlM (fun v g => g.call [v]) v) := by
  induction fs generalizing v with
  | nil => exact Run.keepsPure hv
  | cons f fs ih =>
    rw [List.foldlM_cons]
    have args : Value.itemsEverywhere p [v] = true := by simp [Value.itemsEverywhere, hv]
    refine Run.keepsBind (keeps f List.mem_cons_self [v] args) fun u hu => ?_
    exact ih (fun g hg => keeps g (List.mem_cons_of_mem f hg)) hu

theorem constantKeeps {x : Run σ Value} (keeps : Run.Answers p x) :
    (Callback.function fun _ => x).Keeps p := fun _ _ => keeps

theorem tracedKeeps (closed : Value.Closed p) (name : String) {c : Callback σ} (keeps : c.Keeps p) :
    (c.traced name).Keeps p := by
  cases c with
  | value v => exact keeps
  | function body =>
    intro args given
    refine Run.keepsBind (Run.keepsWritable closed (v := .list args) (q := fun _ => True) trivial) fun _ _ => ?_
    exact Callback.recordedKeeps name keeps args given

theorem methodKeeps (closed : Value.Closed p) (m : Method) {e : Expr}
    (callback : Run.Keeps p (e.callback ρ : Run σ (Callback σ)) (Callback.Keeps p)) {s : Value}
    (hs : s.everywhere p = true) :
    Run.Answers p (e.callback ρ >>= fun f => m.perform s (f.traced e.name) : Run σ Value) :=
  Run.keepsBind callback fun _ keeps => Method.performKeeps closed m hs (tracedKeeps closed e.name keeps)

mutual

theorem callbackKeeps (closed : Value.Closed p) (hold : ρ.Hold p r) : (e : Expr) → e.within p r = true →
    Run.Keeps p (e.callback ρ : Run σ (Callback σ)) (Callback.Keeps p)
  | .value t, within => by
    rw [Expr.callback]
    exact Run.keepsMap (termKeeps closed hold t within) fun v hv => Callback.valueKeeps closed hv
  | .const t, within => by
    rw [Expr.callback]
    exact Run.keepsBind (termKeeps closed hold t within) fun v hv =>
      Run.keepsPure (constantKeeps (Run.keepsPure hv))
  | .empty, _ => by
    rw [Expr.callback]
    exact Run.keepsPure (constantKeeps (Run.keepsPure closed.empty))
  | .raise kind message, within => by
    rw [Expr.callback]
    refine Run.keepsPure (constantKeeps (Run.keepsBind (keepsError closed kind message) ?_))
    rintro f ⟨same, args⟩
    exact Run.keepsRaise args fun _ _ => by rw [same]; exact within
  | .error kind message, within => by
    rw [Expr.callback]
    refine Run.keepsPure (constantKeeps (Run.keepsMap (keepsError closed kind message) ?_))
    rintro f ⟨same, args⟩
    exact Run.faultValueEverywhere closed (by rw [same]; exact within) args
  | .chain first rest, within => by
    rw [Expr.callback]
    rw [Expr.within, Bool.and_eq_true] at within
    refine Run.keepsBind (callbackKeeps closed hold first within.1) fun f hf => ?_
    refine Run.keepsBind (callbacksKeep closed hold rest within.2) fun fs hfs => ?_
    exact Run.keepsPure fun args given => Run.keepsBind (hf args given) fun v hv => restKeeps hfs hv
  | .cond predicate consequence alternative, within => by
    rw [Expr.callback]
    rw [Expr.within, Bool.and_eq_true, Bool.and_eq_true] at within
    refine Run.keepsBind (callbackKeeps closed hold predicate within.1.1) fun f hf => ?_
    refine Run.keepsBind (callbackKeeps closed hold consequence within.1.2) fun g hg => ?_
    refine Run.keepsBind (callbackKeeps closed hold alternative within.2) fun h hh => ?_
    refine Run.keepsPure fun args given => Run.keepsBind (hf args given) fun v _ => ?_
    split
    · exact hg args given
    · exact hh args given
  | .identity, _ => by
    rw [Expr.callback]
    exact Run.keepsPure (Callback.unaryKeeps closed "id" fun x hx => Run.keepsPure hx)
  | .truthy, _ => by
    rw [Expr.callback]
    exact Run.keepsPure (Callback.unaryKeeps closed "truthy" fun x _ => Run.keepsPure (closed.bool _))
  | .plain, _ => by
    rw [Expr.callback]
    exact Run.keepsPure (Callback.unaryKeeps closed "str" fun x _ =>
      Run.keepsMap (Run.keepsWritten closed _ x) fun s _ => closed.str s)
  | .literal, _ => by
    rw [Expr.callback]
    exact Run.keepsPure (Callback.unaryKeeps closed "repr" fun x _ =>
      Run.keepsMap (Run.keepsWritten closed _ x) fun s _ => closed.str s)
  | .singleton, _ => by
    rw [Expr.callback]
    refine Run.keepsPure (Callback.unaryKeeps closed "list1" fun x hx => Run.keepsPure ?_)
    simp only [Value.everywhere, Value.itemsEverywhere, closed.list, hx, Bool.and_self]
  | .equals t, within => by
    rw [Expr.callback]
    exact Run.keepsBind (termKeeps closed hold t within) fun v _ =>
      Run.keepsPure (Callback.unaryKeeps closed "eq" fun x _ => Run.keepsPure (closed.bool _))
  | .of, _ => by
    rw [Expr.callback]
    exact Run.keepsPure (Callback.unaryKeeps closed "of" fun x hx => containerOfKeeps closed hx)
  | .ofNullable, _ => by
    rw [Expr.callback]
    exact Run.keepsPure (Callback.unaryKeeps closed "of_nullable" fun x hx => ofNullableKeeps closed hx)
  | .present, _ => by
    rw [Expr.callback]
    exact Run.keepsPure (Callback.unaryKeeps closed "present" fun x hx => containerOfKeeps closed hx)
  | .arithmetic f n, _ => by
    rw [Expr.callback]
    exact Run.keepsPure (Callback.unaryKeeps closed f.name fun x _ => arithmeticKeeps closed f n x)
  | .length, _ => by
    rw [Expr.callback]
    exact Run.keepsPure (Callback.unaryKeeps closed "len" fun x _ => lengthKeeps closed x)
  | .readInt, _ => by
    rw [Expr.callback]
    exact Run.keepsPure (Callback.unaryKeeps closed "int" fun x _ => readIntKeeps closed x)
  | .concat s, _ => by
    rw [Expr.callback]
    exact Run.keepsPure (Callback.unaryKeeps closed "concat" fun x _ => concatKeeps closed s x)
  | .count s, _ => by
    rw [Expr.callback]
    exact Run.keepsPure (Callback.unaryKeeps closed "count" fun x _ => countKeeps closed s x)
  | .entry t, within => by
    rw [Expr.callback]
    exact Run.keepsBind (termKeeps closed hold t within) fun key _ =>
      Run.keepsPure (Callback.unaryKeeps closed "get" fun x hx => entryKeeps closed key hx)
  | .item t, within => by
    rw [Expr.callback]
    exact Run.keepsBind (termKeeps closed hold t within) fun key hk =>
      Run.keepsPure (Callback.unaryKeeps closed "item" fun x hx => itemKeeps closed hk hx)
  | .perform on action, within => by
    rw [Expr.callback]
    rw [Expr.within, Bool.and_eq_true] at within
    exact Run.keepsPure (Callback.unaryKeeps closed "do" fun x hx =>
      Run.keepsBind (valueOrKeeps closed hold hx on within.1) fun s hs =>
        actionKeeps closed hold action within.2 s hs)

theorem callbacksKeep (closed : Value.Closed p) (hold : ρ.Hold p r) :
    (es : List Expr) → exprsWithin p r es = true →
      Run.Keeps p (callbacks ρ es : Run σ (List (Callback σ))) fun fs => ∀ f ∈ fs, f.Keeps p
  | [], _ => by
    rw [callbacks]
    exact Run.keepsPure (by simp)
  | e :: es, within => by
    rw [callbacks]
    rw [exprsWithin, Bool.and_eq_true] at within
    refine Run.keepsBind (callbackKeeps closed hold e within.1) fun f hf => ?_
    refine Run.keepsBind (callbacksKeep closed hold es within.2) fun fs hfs => Run.keepsPure ?_
    exact List.forall_mem_cons.mpr ⟨hf, hfs⟩

theorem actionKeeps (closed : Value.Closed p) (hold : ρ.Hold p r) : (a : Action) → a.within p r = true →
    (s : Value) → s.everywhere p = true → Run.Answers p (a.run ρ s : Run σ Value)
  | .value t, within, _, _ => by
    rw [Action.run]
    exact termKeeps closed hold t within
  | .empty, _, _, _ => by
    rw [Action.run]
    exact Run.keepsPure closed.empty
  | .of t, within, _, _ => by
    rw [Action.run]
    exact Run.keepsBind (termKeeps closed hold t within) fun v hv => containerOfKeeps closed hv
  | .ofNullable t, within, _, _ => by
    rw [Action.run]
    exact Run.keepsBind (termKeeps closed hold t within) fun v hv => ofNullableKeeps closed hv
  | .isPresent, _, s, hs => by
    rw [Action.run]
    exact Run.keepsBind (accessKeeps closed hs _) fun o _ => Run.keepsPure (closed.bool _)
  | .isEmpty, _, s, hs => by
    rw [Action.run]
    exact Run.keepsBind (accessKeeps closed hs _) fun o _ => Run.keepsPure (closed.bool _)
  | .get, _, s, hs => getKeeps closed hs
  | .truth, _, s, _ => by
    rw [Action.run]
    exact Run.keepsPure (closed.bool _)
  | .literal, _, s, _ => by
    rw [Action.run]
    exact Run.keepsMap (Run.keepsWritten closed _ s) fun t _ => closed.str t
  | .plain, _, s, _ => by
    rw [Action.run]
    exact Run.keepsMap (Run.keepsWritten closed _ s) fun t _ => closed.str t
  | .ifPresent e, within, s, hs => by
    rw [Action.run]
    exact methodKeeps closed .ifPresent (callbackKeeps closed hold e within) hs
  | .filter e, within, s, hs => by
    rw [Action.run]
    exact methodKeeps closed .filter (callbackKeeps closed hold e within) hs
  | .map e, within, s, hs => by
    rw [Action.run]
    exact methodKeeps closed .map (callbackKeeps closed hold e within) hs
  | .flatMap e, within, s, hs => by
    rw [Action.run]
    exact methodKeeps closed .flatMap (callbackKeeps closed hold e within) hs
  | .orElse t, within, s, hs => by
    rw [Action.run]
    refine Run.keepsBind (termKeeps closed hold t within) fun d hd => ?_
    refine Run.keepsBind (accessKeeps closed hs _) fun o inner => Run.keepsPure ?_
    cases o with
    | none => exact hd
    | some payload => exact inner payload rfl
  | .orElseGet e, within, s, hs => by
    rw [Action.run]
    exact methodKeeps closed .orElseGet (callbackKeeps closed hold e within) hs
  | .orElseThrow e, within, s, hs => by
    rw [Action.run]
    exact methodKeeps closed .orElseThrow (callbackKeeps closed hold e within) hs
  | .hash, _, s, _ => by
    rw [Action.run]
    exact hashValueKeeps closed s
  | .equals t, within, s, _ => by
    rw [Action.run]
    exact Run.keepsBind (termKeeps closed hold t within) fun v _ => Run.keepsPure (closed.bool _)
  | .differs t, within, s, _ => by
    rw [Action.run]
    exact Run.keepsBind (termKeeps closed hold t within) fun v _ => Run.keepsPure (closed.bool _)
  | .equalsMethod t, within, s, _ => by
    rw [Action.run]
    exact Run.keepsBind (termKeeps closed hold t within) fun v _ => comparisonKeeps closed s v
  | .compare rel t, within, s, _ => by
    rw [Action.run]
    exact Run.keepsBind (termKeeps closed hold t within) fun v _ => orderedKeeps closed rel s v
  | .classify, _, s, hs => by
    rw [Action.run]
    exact Run.keepsPure (classifyEverywhere closed hs)
  | .setField field t, within, s, _ => by
    rw [Action.run]
    exact Run.keepsBind (termKeeps closed hold t within) fun _ _ => changeFieldKeeps closed s _ field
  | .deleteField field, _, s, _ => by
    rw [Action.run]
    exact changeFieldKeeps closed s _ field
  | .distinct ts, within, _, _ => by
    rw [Action.run]
    exact Run.keepsBind (termsKeep closed hold ts within) fun vs hvs => distinctKeeps closed hvs
  | .assertPresent t, within, s, hs => by
    rw [Action.run]
    have noMessage : (Value.str "").everywhere p = true := closed.str ""
    exact Run.keepsBind (valueOrKeeps closed hold noMessage t within) fun m _ => assertPresentKeeps closed hs m
  | .assertEmpty t, within, s, hs => by
    rw [Action.run]
    have noMessage : (Value.str "").everywhere p = true := closed.str ""
    refine Run.keepsBind (valueOrKeeps closed hold noMessage t within) fun m _ => ?_
    exact Run.keepsBind (assertEmptyKeeps closed hs m) fun _ _ => Run.keepsPure closed.absent
  | .assertPresentValue t, within, s, hs => by
    rw [Action.run]
    refine Run.keepsBind (termKeeps closed hold t within) fun expected _ => ?_
    exact Run.keepsBind (assertPresentValueKeeps closed hs expected) fun _ _ => Run.keepsPure closed.absent

end

end Perhaps.Program
