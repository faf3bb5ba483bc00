import Perhaps.Settings.EnvFile

/-! What the variables of a file depend on. A value depends on the variables it refers to and on no others, so
a set of names that holds all the names its bindings refer to gets the same values from any two files that bind
them alike, whatever else these files and the environments around them hold. -/
namespace Perhaps

namespace Fields

variable {β γ : Type}

def keep (p : String → Bool) (fs : Fields β) : Fields β := fs.filter fun f => p f.1

theorem keepPut (p : String → Bool) (name : String) (value : β) (fs : Fields β) :
    keep p (fs.put name value) = if p name then (keep p fs).put name value else keep p fs := by
  induction fs with
  | nil => cases kept : p name <;> simp [put, keep, kept]
  | cons f fs ih =>
    obtain ⟨n, v⟩ := f
    simp only [keep] at ih ⊢
    by_cases same : n = name
    · subst same
      cases kept : p n <;> simp [put, kept]
    · cases kept : p n <;> cases other : p name <;> simp_all [put]

theorem keepOfAssignments (p : String → Bool) (as : List (String × β)) :
    keep p (ofAssignments as) = ofAssignments (keep p as) := by
  have run : ∀ fs : Fields β, keep p (as.foldl (fun fs a => fs.put a.1 a.2) fs) =
      (keep p as).foldl (fun fs a => fs.put a.1 a.2) (keep p fs) := by
    induction as with
    | nil => exact fun _ => rfl
    | cons a as ih =>
      intro fs
      rw [List.foldl_cons, ih, keepPut]
      cases kept : p a.1 <;> simp [keep, kept]
  exact run []

theorem keepMap (p : String → Bool) (g : β → γ) (fs : Fields β) :
    keep p (fs.map fun f => (f.1, g f.2)) = (keep p fs).map fun f => (f.1, g f.2) := by
  rw [keep, List.filter_map]
  rfl

theorem getKeep {p : String → Bool} {name : String} (kept : p name = true) (fs : Fields β) :
    (keep p fs).get? name = fs.get? name := by
  induction fs with
  | nil => rfl
  | cons f fs ih =>
    obtain ⟨n, v⟩ := f
    simp only [keep] at ih ⊢
    by_cases same : n = name
    · subst same
      simp [get?, kept]
    · cases other : p n <;> simp [get?, same, other, ih]

theorem getAppend (name : String) (fs gs : Fields β) :
    get? name (fs ++ gs) = (fs.get? name).or (gs.get? name) := by
  induction fs with
  | nil => rfl
  | cons f fs ih =>
    obtain ⟨n, v⟩ := f
    by_cases same : n = name <;> simp [get?, same, ih]

theorem getMap (name : String) (g : β → γ) (fs : Fields β) :
    get? name (fs.map fun f => (f.1, g f.2)) = (fs.get? name).map g := by
  induction fs with
  | nil => rfl
  | cons f fs ih =>
    obtain ⟨n, v⟩ := f
    by_cases same : n = name <;> simp [get?, same, ih]

end Fields

namespace Settings

def referredFrom : Nat → List Char → List String
  | _, [] => []
  | skip + 1, _ :: s => referredFrom skip s
  | 0, c :: s =>
    match if c = '$' then readReference s else none with
    | some (r, length) => r.name :: referredFrom length s
    | none => referredFrom 0 s

theorem expandAgrees {known known' : Fields (Option (List Char))} (skip : Nat) (s : List Char)
    (agree : ∀ name ∈ referredFrom skip s, known.get? name = known'.get? name) :
    expandFrom known skip s = expandFrom known' skip s := by
  induction s generalizing skip with
  | nil => simp [expandFrom]
  | cons c s ih =>
    cases skip with
    | succ skip => exact ih skip agree
    | zero =>
      rw [referredFrom] at agree
      rw [expandFrom, expandFrom]
      cases read : if c = '$' then readReference s else none with
      | none =>
        rw [read] at agree
        simp only [ih 0 agree]
      | some found =>
        obtain ⟨r, length⟩ := found
        rw [read] at agree
        have here := agree r.name List.mem_cons_self
        have rest := ih length fun name member => agree name (List.mem_cons_of_mem r.name member)
        simp only [Reference.value, here, rest]

namespace EnvFile

variable {p : String → Bool} {environment environment' : Fields String}

def kept (p : String → Bool) (bs : List Binding) : List Binding := bs.filter fun b => p b.name

def Confined (p : String → Bool) (bs : List Binding) : Prop :=
  ∀ b ∈ bs, ∀ value, b.value = some value → ∀ name ∈ referredFrom 0 value, p name = true

theorem Confined.tail {b : Binding} {bs : List Binding} (confined : Confined p (b :: bs)) : Confined p bs :=
  fun other member => confined other (List.mem_cons_of_mem b member)

theorem expandedAlike (alike : ∀ name, p name = true → environment.get? name = environment'.get? name)
    (known : Fields (Option (List Char))) {value : List Char}
    (confined : ∀ name ∈ referredFrom 0 value, p name = true) :
    expandReferences (known ++ environment.map fun v => (v.1, some v.2.toList)) value =
      expandReferences (known.keep p ++ environment'.map fun v => (v.1, some v.2.toList)) value := by
  refine expandAgrees 0 value fun name member => ?_
  have inside := confined name member
  rw [Fields.getAppend, Fields.getAppend, Fields.getKeep inside, Fields.getMap name fun t : String => some t.toList,
    Fields.getMap name fun t : String => some t.toList, alike name inside]

/- A binding of a name outside the set leaves no trace among the names of the set, so it can be left out. -/
theorem assignKept (alike : ∀ name, p name = true → environment.get? name = environment'.get? name)
    (bs : List Binding) (confined : Confined p (kept p bs)) (known : Fields (Option (List Char))) :
    (assign environment bs known).keep p = assign environment' (kept p bs) (known.keep p) := by
  induction bs generalizing known with
  | nil => rfl
  | cons b bs ih =>
    cases inside : p b.name with
    | false =>
      have skipped : kept p (b :: bs) = kept p bs := by simp [kept, inside]
      rw [skipped] at confined ⊢
      rw [assign, ih confined, Fields.keepPut, inside]
      rfl
    | true =>
      have first : kept p (b :: bs) = b :: kept p bs := by simp [kept, inside]
      rw [first] at confined ⊢
      have value : b.value.map (expandReferences (known ++ environment.map fun v => (v.1, some v.2.toList))) =
          b.value.map
            (expandReferences (known.keep p ++ environment'.map fun v => (v.1, some v.2.toList))) := by
        cases bound : b.value with
        | none => rfl
        | some value =>
          exact congrArg some (expandedAlike alike known (confined b List.mem_cons_self value bound))
      rw [assign, ih confined.tail, Fields.keepPut, inside, if_pos rfl, value, assign]

theorem assignConfined {bs bs' : List Binding}
    (alike : ∀ name, p name = true → environment.get? name = environment'.get? name)
    (same : kept p bs = kept p bs') (confined : Confined p (kept p bs)) :
    (assign environment bs []).keep p = (assign environment' bs' []).keep p := by
  rw [assignKept alike bs confined [], same, assignKept (fun _ _ => rfl) bs' (same ▸ confined) []]

end EnvFile
end Settings
end Perhaps
