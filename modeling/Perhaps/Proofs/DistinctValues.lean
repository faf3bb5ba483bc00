import Perhaps.Proofs.HashContract

/-! Distinct values. Filing values under their hashes keeps the same ones as a search by equality alone, since equal
values hash alike and unequal ones are told apart within a hash. Of equal values the first stays, so as many stay
whatever the order. The first value without a hash is the error. -/
namespace Perhaps.Value

structure Fileable (v : Value) : Prop where
  definite : v.everywhere definite = true
  hashable : ∃ h, v.hashCode = .ok h

mutual

theorem hashedKeyed {h : HashCode} :
    (v : Value) → v.everywhere definite = true → v.hashCode = .ok h → v.everywhere keyedOnce = true
  | list _, _, hashed | dict _, _, hashed => by simp [hashCode] at hashed
  | error .., definite, _ => absurd (everywhereSelf definite) Bool.false_ne_true
  | tuple items, definite, hashed => by
    rw [everywhere, Bool.and_eq_true] at definite
    rw [hashCode] at hashed
    rw [everywhere, hashedItemsKeyed items definite.2 hashed]
    rfl
  | present payload _, definite, hashed => by
    rw [everywhere, Bool.and_eq_true] at definite
    rw [hashCode] at hashed
    rw [everywhere, hashedKeyed payload definite.2 hashed]
    rfl
  | absent, _, _ | bool _, _, _ | int _, _, _ | float _, _, _ | str _, _, _ | bytes _, _, _ | empty, _, _
  | errorClass _, _, _ | notImplemented, _, _ => rfl

theorem hashedItemsKeyed {h : HashCode} : (vs : List Value) → itemsEverywhere definite vs = true →
    hashItems vs = .ok h → itemsEverywhere keyedOnce vs = true
  | [], _, _ => rfl
  | v :: vs, definite, hashed => by
    rw [itemsEverywhere, Bool.and_eq_true] at definite
    rw [hashItems] at hashed
    split at hashed
    · contradiction
    · next first =>
      rw [itemsEverywhere, hashedKeyed v definite.1 first, hashedItemsKeyed vs definite.2 hashed]
      rfl

end

theorem Fileable.settled {v : Value} (fileable : v.Fileable) : v.Settled := by
  obtain ⟨definite, h, hashed⟩ := fileable
  exact ⟨definite, hashedKeyed v definite hashed⟩

def keepNew (kept : List Value) (v : Value) : List Value :=
  if kept.any fun u => u.same v then kept else kept ++ [v]

def firsts (vs : List Value) : List Value := vs.foldl keepNew []

/- The first representatives in a list that comes after the values `seen`. A value is one if nothing that was seen,
kept or not, equals it. -/
inductive Firsts : List Value → List Value → List Value → Prop where
  | done (seen : List Value) : Firsts seen [] []
  | kept {seen : List Value} {v : Value} {vs us : List Value} (new : ∀ u ∈ seen, u.same v = false)
      (rest : Firsts (seen ++ [v]) vs us) : Firsts seen (v :: vs) (v :: us)
  | dropped {seen : List Value} {v : Value} {vs us : List Value} {u : Value} (member : u ∈ seen)
      (same : u.same v = true) (rest : Firsts (seen ++ [v]) vs us) : Firsts seen (v :: vs) us

structure Represents (kept seen : List Value) : Prop where
  settled : ∀ u ∈ seen, u.Settled
  taken : ∀ u ∈ kept, u ∈ seen
  found : ∀ u ∈ seen, ∃ k ∈ kept, Same k u

namespace Represents

variable {kept seen : List Value} {v : Value}

theorem anyIff (represents : Represents kept seen) (settled : v.Settled) :
    (kept.any fun u => u.same v) = true ↔ ∃ u ∈ seen, Same u v := by
  rw [List.any_eq_true]
  constructor
  · rintro ⟨k, member, same⟩
    exact ⟨k, represents.taken k member, same⟩
  · rintro ⟨u, member, same⟩
    obtain ⟨k, there, alike⟩ := represents.found u member
    have hk := represents.settled k (represents.taken k there)
    exact ⟨k, there, settledTrans hk (represents.settled u member) settled alike same⟩

theorem extended (represents : Represents kept seen) (settled : v.Settled) :
    Represents (keepNew kept v) (seen ++ [v]) := by
  have all : ∀ u ∈ seen ++ [v], u.Settled :=
    List.forall_mem_append.mpr ⟨represents.settled, List.forall_mem_singleton.mpr settled⟩
  unfold keepNew
  split
  · rename_i repeated
    obtain ⟨k, there, same⟩ := List.any_eq_true.mp repeated
    refine ⟨all, fun u member => List.mem_append_left _ (represents.taken u member), ?_⟩
    intro u member
    rcases List.mem_append.mp member with old | new
    · exact represents.found u old
    · exact ⟨k, there, List.mem_singleton.mp new ▸ same⟩
  · refine ⟨all, ?_, ?_⟩
    · intro u member
      rcases List.mem_append.mp member with old | new
      · exact List.mem_append_left _ (represents.taken u old)
      · exact List.mem_append_right _ new
    · intro u member
      rcases List.mem_append.mp member with old | new
      · obtain ⟨k, there, same⟩ := represents.found u old
        exact ⟨k, List.mem_append_left _ there, same⟩
      · exact ⟨u, List.mem_append_right _ new, settledRefl (List.mem_singleton.mp new ▸ settled)⟩

theorem keepsFirsts (represents : Represents kept seen) {vs : List Value} (settled : ∀ v ∈ vs, v.Settled) :
    ∃ us, vs.foldl keepNew kept = kept ++ us ∧ Firsts seen vs us := by
  induction vs generalizing kept seen with
  | nil => exact ⟨[], (List.append_nil kept).symm, .done seen⟩
  | cons v vs ih =>
    rw [List.forall_mem_cons] at settled
    obtain ⟨us, result, rest⟩ := ih (represents.extended settled.1) settled.2
    rw [List.foldl_cons, result]
    by_cases repeated : (kept.any fun u => u.same v) = true
    · obtain ⟨u, member, same⟩ := (represents.anyIff settled.1).mp repeated
      exact ⟨us, by rw [keepNew, if_pos repeated], .dropped member same rest⟩
    · have new : ∀ u ∈ seen, u.same v = false := by
        intro u member
        rw [← Bool.not_eq_true]
        exact fun same => repeated ((represents.anyIff settled.1).mpr ⟨u, member, same⟩)
      exact ⟨v :: us, by rw [keepNew, if_neg repeated, List.append_assoc, List.singleton_append], .kept new rest⟩

end Represents

theorem firstsAreFirst {vs : List Value} (settled : ∀ v ∈ vs, v.Settled) : Firsts [] vs (firsts vs) := by
  have nothing : Represents [] [] := ⟨by simp, by simp, by simp⟩
  obtain ⟨us, result, first⟩ := nothing.keepsFirsts settled
  rwa [firsts, result]

namespace Firsts

variable {seen vs us : List Value}

theorem sublist (first : Firsts seen vs us) : us.Sublist vs := by
  induction first with
  | done seen => exact .slnil
  | kept new rest ih => exact ih.cons_cons _
  | dropped member same rest ih => exact ih.cons _

theorem afresh (first : Firsts seen vs us) : ∀ u ∈ us, ∀ s ∈ seen, s.same u = false := by
  induction first with
  | done seen => simp
  | kept new rest ih =>
    intro u member s there
    rcases List.mem_cons.mp member with rfl | later
    · exact new s there
    · exact ih u later s (List.mem_append_left _ there)
  | dropped member same rest ih =>
    intro u later s there
    exact ih u later s (List.mem_append_left _ there)

theorem apart (first : Firsts seen vs us) : us.Pairwise fun a b => a.same b = false := by
  induction first with
  | done seen => exact .nil
  | @kept seen v vs us new rest ih =>
    exact .cons (fun u member => rest.afresh u member v (List.mem_append_right _ List.mem_cons_self)) ih
  | dropped member same rest ih => exact ih

theorem found (first : Firsts seen vs us) (early : ∀ s ∈ seen, s.Settled) (settled : ∀ v ∈ vs, v.Settled) :
    ∀ v ∈ vs, ∃ u ∈ seen ++ us, Same u v := by
  induction first with
  | done seen => simp
  | @kept seen v vs us new rest ih =>
    rw [List.forall_mem_cons] at settled
    have next : ∀ s ∈ seen ++ [v], s.Settled :=
      List.forall_mem_append.mpr ⟨early, List.forall_mem_singleton.mpr settled.1⟩
    intro w member
    rcases List.mem_cons.mp member with rfl | later
    · exact ⟨w, List.mem_append_right _ List.mem_cons_self, settledRefl settled.1⟩
    · simpa using ih next settled.2 w later
  | @dropped seen v vs us s there same rest ih =>
    rw [List.forall_mem_cons] at settled
    have next : ∀ s ∈ seen ++ [v], s.Settled :=
      List.forall_mem_append.mpr ⟨early, List.forall_mem_singleton.mpr settled.1⟩
    intro w member
    rcases List.mem_cons.mp member with rfl | later
    · exact ⟨s, List.mem_append_left _ there, same⟩
    · obtain ⟨u, found, alike⟩ := ih next settled.2 w later
      simp only [List.mem_append, List.mem_singleton] at found
      rcases found with (old | rfl) | kept
      · exact ⟨u, List.mem_append_left _ old, alike⟩
      · -- What was dropped stands for nothing any more, but what it equals does.
        exact ⟨s, List.mem_append_left _ there,
          settledTrans (early s there) settled.1 (settled.2 w later) same alike⟩
      · exact ⟨u, List.mem_append_right _ kept, alike⟩

end Firsts

/- Unequal values equal different ones, so there are no more of them. -/
theorem lengthOfPartners {us ws : List Value} (left : ∀ u ∈ us, u.Settled) (right : ∀ w ∈ ws, w.Settled)
    (apart : us.Pairwise fun a b => a.same b = false) (partners : ∀ u ∈ us, ∃ w ∈ ws, Same w u) :
    us.length ≤ ws.length := by
  have found : ∀ i, ∃ j, Same (ws.get j) (us.get i) := by
    intro i
    obtain ⟨w, member, same⟩ := partners (us.get i) (List.get_mem us i)
    obtain ⟨j, rfl⟩ := List.mem_iff_get.mp member
    exact ⟨j, same⟩
  choose partner same using found
  have here := fun i => left (us.get i) (List.get_mem us i)
  have there := fun j => right (ws.get j) (List.get_mem ws j)
  have meet : ∀ i j, partner i = partner j → Same (us.get i) (us.get j) := by
    intro i j one
    have back := settledSymm (there (partner i)) (here i) (same i)
    exact settledTrans (here i) (there (partner i)) (here j) back (one ▸ same j)
  have injective : Function.Injective partner := by
    intro i j one
    rcases lt_trichotomy i j with before | rfl | after
    · exact absurd (meet i j one) (Bool.eq_false_iff.mp (List.pairwise_iff_get.mp apart i j before))
    · rfl
    · exact absurd (meet j i one.symm) (Bool.eq_false_iff.mp (List.pairwise_iff_get.mp apart j i after))
  simpa using Fintype.card_le_of_injective partner injective

theorem equalOnce {us : List Value} {v : Value} (settled : ∀ u ∈ us, u.Settled) (other : v.Settled)
    (apart : us.Pairwise fun a b => a.same b = false) (found : ∃ u ∈ us, Same u v) :
    us.countP (fun u => u.same v) = 1 := by
  induction us with
  | nil => simp at found
  | cons u us ih =>
    rw [List.forall_mem_cons] at settled
    obtain ⟨first, rest⟩ := List.pairwise_cons.mp apart
    by_cases here : Same u v
    · have others : us.countP (fun w => w.same v) = 0 := by
        rw [List.countP_eq_zero]
        intro w member same
        have both := settledTrans settled.1 other (settled.2 w member) here
          (settledSymm (settled.2 w member) other same)
        exact Bool.eq_false_iff.mp (first w member) both
      rw [List.countP_cons, others, if_pos here]
    · have later : ∃ w ∈ us, Same w v := by
        obtain ⟨w, member, same⟩ := found
        rcases List.mem_cons.mp member with rfl | later
        · exact absurd same here
        · exact ⟨w, later, same⟩
      rw [List.countP_cons, if_neg here, Nat.add_zero]
      exact ih settled.2 rest later

structure HashTable.Filed (t : HashTable) : Prop where
  definite : ∀ f ∈ t.filed, f.2.everywhere definite = true
  hashes : ∀ f ∈ t.filed, f.2.hashCode = .ok f.1

namespace HashTable

variable {t : HashTable} {h : HashCode} {v : Value} {vs : List Value}

/- A value that equals one in the table has its hash, so the hash hides nothing. -/
theorem holdsEqual (filed : t.Filed) (hashed : v.hashCode = .ok h) :
    t.holds h v = t.values.any fun u => u.same v := by
  rw [Bool.eq_iff_iff, holds, values, List.any_map, List.any_eq_true, List.any_eq_true]
  constructor
  · rintro ⟨f, member, found⟩
    rw [Bool.and_eq_true, alikeDefinite (filed.definite f member)] at found
    exact ⟨f, member, found.2⟩
  · rintro ⟨f, member, same⟩
    have hash := sameHash f.2 v (filed.definite f member) same
    rw [filed.hashes f member, hashed] at hash
    refine ⟨f, member, ?_⟩
    rw [Bool.and_eq_true, alikeDefinite (filed.definite f member)]
    exact ⟨beq_iff_eq.mpr (Except.ok.inj hash), same⟩

theorem insertKeeps (filed : t.Filed) (definite : v.everywhere definite = true) (hashed : v.hashCode = .ok h) :
    (t.insert h v).values = keepNew t.values v ∧ (t.insert h v).Filed := by
  rw [insert, keepNew, ← holdsEqual filed hashed]
  split
  · exact ⟨rfl, filed⟩
  · refine ⟨by simp [values], ?_, ?_⟩
    · exact List.forall_mem_append.mpr ⟨filed.definite, List.forall_mem_singleton.mpr definite⟩
    · exact List.forall_mem_append.mpr ⟨filed.hashes, List.forall_mem_singleton.mpr hashed⟩

theorem insertAllKeeps (filed : t.Filed) (fileable : ∀ v ∈ vs, v.Fileable) :
    ∃ u, t.insertAll vs = .ok u ∧ u.values = vs.foldl keepNew t.values := by
  induction vs generalizing t with
  | nil => exact ⟨t, rfl, rfl⟩
  | cons v vs ih =>
    rw [List.forall_mem_cons] at fileable
    obtain ⟨⟨definite, h, hashed⟩, rest⟩ := fileable
    obtain ⟨kept, filed'⟩ := insertKeeps filed definite hashed
    obtain ⟨u, inserted, same⟩ := ih filed' rest
    refine ⟨u, ?_, ?_⟩
    · rw [insertAll, hashCode?, hashed]
      exact inserted
    · rw [same, kept, List.foldl_cons]

theorem insertAllBlames {s : String} (rest : List Value) (before : ∀ u ∈ vs, ∃ h, u.hashCode = .ok h)
    (unhashed : v.hashCode = .error s) : t.insertAll (vs ++ v :: rest) = .error (Cause.unhashable s).fault := by
  induction vs generalizing t with
  | nil =>
    rw [List.nil_append, insertAll, hashCode?, unhashed]
    rfl
  | cons u vs ih =>
    rw [List.forall_mem_cons] at before
    obtain ⟨⟨h, hashed⟩, later⟩ := before
    rw [List.cons_append, insertAll, hashCode?, hashed]
    exact ih later

end HashTable

theorem distinctFirsts {vs : List Value} (fileable : ∀ v ∈ vs, v.Fileable) : distinct vs = .ok (firsts vs) := by
  obtain ⟨u, inserted, kept⟩ := HashTable.insertAllKeeps (t := ⟨[]⟩) ⟨by simp, by simp⟩ fileable
  rw [distinct, inserted, firsts]
  exact congrArg Except.ok kept

theorem distinctBlames {before : List Value} {v : Value} {s : String} (rest : List Value)
    (hashed : ∀ u ∈ before, ∃ h, u.hashCode = .ok h) (unhashed : v.hashCode = .error s) :
    distinct (before ++ v :: rest) = .error (Cause.unhashable s).fault := by
  rw [distinct, HashTable.insertAllBlames rest hashed unhashed]
  rfl

section

variable {vs ws : List Value}

theorem firstsFound (settled : ∀ v ∈ vs, v.Settled) : ∀ v ∈ vs, ∃ u ∈ firsts vs, Same u v := by
  intro v member
  obtain ⟨u, found, same⟩ := (firstsAreFirst settled).found (by simp) settled v member
  exact ⟨u, found, same⟩

theorem firstsOfApart (settled : ∀ v ∈ vs, v.Settled) (apart : vs.Pairwise fun a b => a.same b = false) :
    firsts vs = vs := by
  have shorter := (firstsAreFirst settled).sublist
  have kept : ∀ u ∈ firsts vs, u.Settled := fun u member => settled u (shorter.subset member)
  exact shorter.eq_of_length_le (lengthOfPartners settled kept apart (firstsFound settled))

theorem firstsOfPermuted (settled : ∀ v ∈ vs, v.Settled) (permuted : vs.Perm ws) :
    (firsts vs).length ≤ (firsts ws).length := by
  have settledToo : ∀ w ∈ ws, w.Settled := fun w member => settled w (permuted.mem_iff.mpr member)
  have first := firstsAreFirst settled
  have left : ∀ u ∈ firsts vs, u.Settled := fun u member => settled u (first.sublist.subset member)
  have right : ∀ w ∈ firsts ws, w.Settled :=
    fun w member => settledToo w ((firstsAreFirst settledToo).sublist.subset member)
  refine lengthOfPartners left right first.apart fun u member => ?_
  exact firstsFound settledToo u (permuted.mem_iff.mp (first.sublist.subset member))

theorem firstsPermutedLength (settled : ∀ v ∈ vs, v.Settled) (permuted : vs.Perm ws) :
    (firsts ws).length = (firsts vs).length := by
  have settledToo : ∀ w ∈ ws, w.Settled := fun w member => settled w (permuted.mem_iff.mpr member)
  exact Nat.le_antisymm (firstsOfPermuted settledToo permuted.symm) (firstsOfPermuted settled permuted)

end

open Program in
theorem distinctRuns {σ : Type} {ts : List Term} {ρ : Registers} {w : σ} {vs : List Value}
    (read : (Term.values ρ ts w : Outcome σ (List Value)).result = .ok vs) (subject : Value) :
    ((Action.distinct ts).run ρ subject w : Outcome σ Value).result = (distinct vs).map list := by
  rw [Action.run, Run.bindOk read]
  cases distinct vs <;> rfl

theorem distinctByEquality :
    (∀ vs : List Value, (∀ v ∈ vs, v.Fileable) → distinct vs = .ok (firsts vs) ∧ Firsts [] vs (firsts vs) ∧
      (firsts vs).Sublist vs ∧
      ((firsts vs).Pairwise fun a b => a.same b = false ∧ b.same a = false) ∧
      ∀ v ∈ vs, (firsts vs).countP (fun u => u.same v) = 1) ∧
    (∀ vs : List Value, (∀ v ∈ vs, v.Fileable) → (distinct vs >>= distinct) = distinct vs) ∧
    (∀ vs ws : List Value, (∀ v ∈ vs, v.Fileable) → vs.Perm ws →
      ∃ us us', distinct vs = .ok us ∧ distinct ws = .ok us' ∧ us'.length = us.length) ∧
    (∀ before v rest s, (∀ u ∈ before, ∃ h, u.hashCode = .ok h) → v.hashCode = .error s →
      (s = "list" ∨ s = "dict") ∧ distinct (before ++ v :: rest) =
        .error ⟨.standard .typeError, [.str (String.join ["unhashable type: '", s, "'"])]⟩) ∧
    (∀ {σ : Type} ts ρ (w : σ) vs subject,
      (Program.Term.values ρ ts w : Outcome σ (List Value)).result = .ok vs →
      ((Program.Action.distinct ts).run ρ subject w : Outcome σ Value).result = (distinct vs).map list) := by
  have settledAll {vs : List Value} (fileable : ∀ v ∈ vs, v.Fileable) : ∀ v ∈ vs, v.Settled :=
    fun v member => (fileable v member).settled
  refine ⟨?firsts, ?again, ?permuted, ?unhashed, fun _ _ _ _ subject read => distinctRuns read subject⟩
  case firsts =>
    intro vs fileable
    have settled := settledAll fileable
    have first := firstsAreFirst settled
    have kept : ∀ u ∈ firsts vs, u.Settled := fun u member => settled u (first.sublist.subset member)
    refine ⟨distinctFirsts fileable, first, first.sublist, ?_, ?_⟩
    · refine first.apart.imp_of_mem fun {a b} left right differ => ⟨differ, ?_⟩
      rw [← Bool.not_eq_true]
      intro back
      exact Bool.eq_false_iff.mp differ (settledSymm (kept b right) (kept a left) back)
    · intro v member
      exact equalOnce kept (settled v member) first.apart (firstsFound settled v member)
  case again =>
    intro vs fileable
    have first := firstsAreFirst (settledAll fileable)
    have kept : ∀ u ∈ firsts vs, u.Fileable := fun u member => fileable u (first.sublist.subset member)
    rw [distinctFirsts fileable]
    show distinct (firsts vs) = .ok (firsts vs)
    rw [distinctFirsts kept, firstsOfApart (settledAll kept) first.apart]
  case permuted =>
    intro vs ws fileable permuted
    have fileableToo : ∀ w ∈ ws, w.Fileable := fun w member => fileable w (permuted.mem_iff.mpr member)
    exact ⟨firsts vs, firsts ws, distinctFirsts fileable, distinctFirsts fileableToo,
      firstsPermutedLength (settledAll fileable) permuted⟩
  case unhashed =>
    intro before v rest s hashed unhashed
    exact ⟨unhashableKind v unhashed, distinctBlames rest hashed unhashed⟩

theorem collidingValuesKept :
    let vs : List Value := [present (int 0) none, int 0, present (bool false) (some 3), empty,
      present (float (.zero true)) none, present empty none, int (-1), int (-2)]
    let us : List Value := [present (int 0) none, int 0, empty, present empty none, int (-1), int (-2)]
    ((∀ v ∈ vs, v.Fileable) ∧ distinct vs = .ok us) ∧
    (vs.Perm vs.reverse ∧ ∃ us', distinct vs.reverse = .ok us' ∧ us'.length = us.length) ∧
    ((tuple [int 1, present (list []) none]).hashCode = .error "list" ∧
      distinct [float (.nan none), tuple [int 1, present (list []) none], dict []] =
        .error ⟨.standard .typeError, [.str "unhashable type: 'list'"]⟩) := by
  intro vs us
  obtain ⟨kept, _, permuted, unhashed, _⟩ := distinctByEquality
  have fileable : ∀ v ∈ vs, v.Fileable := by
    simp only [vs, List.forall_mem_cons]
    exact ⟨⟨rfl, _, rfl⟩, ⟨rfl, _, rfl⟩, ⟨rfl, _, rfl⟩, ⟨rfl, _, rfl⟩, ⟨rfl, _, rfl⟩, ⟨rfl, _, rfl⟩, ⟨rfl, _, rfl⟩,
      ⟨rfl, _, rfl⟩, by simp⟩
  have filed : distinct vs = .ok us := by
    rw [(kept vs fileable).1]
    rfl
  have reversed : vs.Perm vs.reverse := (List.reverse_perm vs).symm
  refine ⟨⟨fileable, filed⟩, ⟨reversed, ?_⟩, rfl, ?_⟩
  · obtain ⟨us', other, done, doneToo, length⟩ := permuted vs vs.reverse fileable reversed
    rw [filed] at done
    cases done
    exact ⟨other, doneToo, length⟩
  · have undefined : ∀ u ∈ [float (.nan none)], ∃ h, u.hashCode = .ok h := by
      intro u member
      cases List.mem_singleton.mp member
      exact ⟨_, rfl⟩
    exact (unhashed _ (tuple [int 1, present (list []) none]) [dict []] "list" undefined rfl).2

end Perhaps.Value
