import Perhaps.Proofs.EqualityLaws

/-! The hash contract. Equal values hash alike: numbers by their residues whatever their types, sequences to one
class, and what cannot be hashed fails for the same cause. A container hashes to what it holds, at any depth. -/
namespace Perhaps.Value

theorem hashNumber {a : Value} {p : Quantity} {r : Int} (number : a.quantity? = some p)
    (residue : p.residue? = some r) : a.hashCode = .ok (.number r) := by
  cases a with
  | bool b =>
    cases number
    cases residue
    rw [hashCode, Binary.residueOfInt]
  | int n =>
    cases number
    cases residue
    rw [hashCode, Binary.residueOfInt]
  | float x =>
    cases number
    rw [hashCode, residue]
  | _ => contradiction

theorem itemsHash {xs ys : List Value} (each : ∀ x ∈ xs, ∀ y, Same x y → x.hashCode = y.hashCode)
    (items : List.Forall₂ Same xs ys) : hashItems xs = hashItems ys := by
  induction items with
  | nil => rfl
  | @cons x y xs ys head tail ih =>
    rw [List.forall_mem_cons] at each
    rw [hashItems, hashItems, each.1 y head, ih each.2]

theorem sameHash (a b : Value) (definite : a.everywhere definite = true) (same : Same a b) :
    a.hashCode = b.hashCode := by
  have inner : ∀ x ∈ a.parts, ∀ y, Same x y → x.hashCode = y.hashCode :=
    fun x part y => sameHash x y (partEverywhere definite part)
  cases (sameLayer definite b).mp same with
  | number left right equal =>
    obtain ⟨r, residue, residue'⟩ := Quantity.sameResidue equal
    rw [hashNumber left residue, hashNumber right residue']
  | atom plain => rfl
  | list items => simp only [hashCode]
  | tuple items =>
    rw [hashCode, hashCode]
    exact itemsHash inner items
  | dict length covered => simp only [hashCode]
  | @present x y o p payloads =>
    rw [hashCode, hashCode]
    exact inner x List.mem_cons_self y payloads
termination_by sizeOf a
decreasing_by exact partSmaller part

theorem wrappedHash (os : List Occurrence) (v : Value) : (wrapped os v).hashCode = v.hashCode := by
  induction os with
  | nil => rfl
  | cons o os ih => rw [wrapped, hashCode, ih]

theorem itemsHashOther {vs : List Value} {h : HashCode} (done : hashItems vs = .ok h) : h = .other := by
  induction vs with
  | nil =>
    rw [hashItems] at done
    cases done
    rfl
  | cons v vs ih =>
    rw [hashItems] at done
    split at done
    · contradiction
    · exact ih done

mutual

/- Only lists and dictionaries are to blame for a missing hash. -/
theorem unhashableKind {t : String} : (v : Value) → v.hashCode = .error t → t = "list" ∨ t = "dict"
  | list _, failed => by
    rw [hashCode] at failed
    exact .inl (Except.error.inj failed).symm
  | dict _, failed => by
    rw [hashCode] at failed
    exact .inr (Except.error.inj failed).symm
  | tuple items, failed => by
    rw [hashCode] at failed
    exact unhashableItem items failed
  | present payload _, failed => by
    rw [hashCode] at failed
    exact unhashableKind payload failed
  | absent, failed | bool _, failed | int _, failed | float _, failed | str _, failed | bytes _, failed
  | empty, failed | error .., failed | errorClass _, failed | notImplemented, failed => by
    simp [hashCode] at failed

theorem unhashableItem {t : String} : (vs : List Value) → hashItems vs = .error t → t = "list" ∨ t = "dict"
  | [], failed => by simp [hashItems] at failed
  | v :: vs, failed => by
    rw [hashItems] at failed
    split at failed
    · rename_i u first
      cases failed
      exact unhashableKind v first
    · exact unhashableItem vs failed

end

theorem floatDefined {v : Value} {p : Quantity} (definite : v.definite = true) (number : v.quantity? = some p) :
    p ≠ .undefined := by
  rintro rfl
  cases v with
  | float x =>
    obtain ⟨o, rfl⟩ := Double.quantityUndefined (Option.some.inj number)
    contradiction
  | _ => cases number

theorem numberHash {v : Value} (definite : v.definite = true) (numeric : v.quantity?.isSome = true ∨ v = empty) :
    ∃ h, HashRange h ∧ v.hashCode = .ok (.number h) := by
  obtain number | rfl := numeric
  · obtain ⟨p, number⟩ := Option.isSome_iff_exists.mp number
    obtain ⟨r, residue⟩ := Quantity.residueDefined (floatDefined definite number)
    exact ⟨r, Quantity.residueRange residue, hashNumber number residue⟩
  · refine ⟨0, ?_, by rw [hashCode]⟩
    constructor <;> decide

theorem otherHash {v : Value} {h : HashCode} (other : v.container? = none) (number : v.quantity? = none)
    (done : v.hashCode = .ok h) : h = .other := by
  cases v with
  | tuple items =>
    rw [hashCode] at done
    exact itemsHashOther done
  | bool _ | int _ | float _ => cases number
  | empty | present _ _ => contradiction
  | list _ | dict _ => simp [hashCode] at done
  | absent | str _ | bytes _ | error _ _ _ | errorClass _ | notImplemented =>
    simpa [hashCode, eq_comm] using done

theorem hashValueCases {σ : Type} (v : Value) :
    (∀ h, v.hashCode = .ok (.number h) → (Program.hashValue v : Run σ Value) = pure (.int h)) ∧
    (v.hashCode = .ok .other → (Program.hashValue v : Run σ Value) = pure (.str "payload")) ∧
    ∀ t, v.hashCode = .error t → (Program.hashValue v : Run σ Value) = Run.fail (.unhashable t) := by
  refine ⟨?_, ?_, ?_⟩
  · intro h hash
    rw [Program.hashValue, hashCode?, hash]
    rfl
  · intro hash
    rw [Program.hashValue, hashCode?, hash]
    rfl
  · intro t hash
    rw [Program.hashValue, hashCode?, hash]
    rfl

theorem equalValuesHashAlike {σ : Type} :
    (∀ a b : Value, a.everywhere definite = true → a.same b = true → a.hashCode = b.hashCode ∧
      (Program.hashValue a : Run σ Value) = Program.hashValue b) ∧
    (∀ os (v : Value), (wrapped os v).hashCode = v.hashCode ∧
      (Program.hashValue (wrapped os v) : Run σ Value) = Program.hashValue v) ∧
    (∀ os (v : Value), v.definite = true → (v.quantity?.isSome = true ∨ v = empty) →
      ∃ h : Int, -(2 ^ 61 - 1) < h ∧ h < 2 ^ 61 - 1 ∧ h ≠ -1 ∧ v.hashCode = .ok (.number h) ∧
        (Program.hashValue (wrapped os v) : Run σ Value) = pure (.int h)) ∧
    (∀ os (v : Value), v.container? = none → v.quantity? = none →
      (v.hashCode = .ok .other ∧ (Program.hashValue (wrapped os v) : Run σ Value) = pure (.str "payload")) ∨
      ∃ t, (t = "list" ∨ t = "dict") ∧ v.hashCode = .error t ∧
        (Program.hashValue (wrapped os v) : Run σ Value) = Run.fail (.unhashable t)) := by
  have throughHash : ∀ {a b : Value}, a.hashCode = b.hashCode →
      (Program.hashValue a : Run σ Value) = Program.hashValue b := by
    intro a b hash
    rw [Program.hashValue, Program.hashValue, hashCode?, hashCode?, hash]
  refine ⟨?equal, ?wrapped, ?numbers, ?others⟩
  case equal =>
    intro a b definite same
    have hash := sameHash a b definite same
    exact ⟨hash, throughHash hash⟩
  case wrapped =>
    intro os v
    exact ⟨wrappedHash os v, throughHash (wrappedHash os v)⟩
  case numbers =>
    intro os v definite numeric
    obtain ⟨h, range, hash⟩ := numberHash definite numeric
    exact ⟨h, range.low, range.high, range.free, hash,
      (hashValueCases (wrapped os v)).1 h ((wrappedHash os v).trans hash)⟩
  case others =>
    intro os v other number
    cases hash : v.hashCode with
    | ok h =>
      cases otherHash other number hash
      exact .inl ⟨rfl, (hashValueCases (wrapped os v)).2.1 ((wrappedHash os v).trans hash)⟩
    | error t =>
      exact .inr ⟨t, unhashableKind v hash, rfl,
        (hashValueCases (wrapped os v)).2.2 t ((wrappedHash os v).trans hash)⟩

theorem nestedHashesAgree :
    let minusOne : Value := float (.finite true ⟨⟨1, by decide⟩, 0, by decide +kernel⟩)
    ((wrapped [none] minusOne).everywhere definite = true ∧
      (wrapped [none] minusOne).same (wrapped [some 7] (int (-1))) = true ∧
      (wrapped [none] minusOne).hashCode = (wrapped [some 7] (int (-1))).hashCode) ∧
    ((int (-1)).definite = true ∧ (int (-1)).quantity?.isSome = true ∧
      ∃ h : Int, h ≠ -1 ∧ (Program.hashValue (wrapped [none, none] (int (-1))) : Run Unit Value) = pure (.int h)) ∧
    ((tuple [int 1, present (dict []) none]).container? = none ∧
      (tuple [int 1, present (dict []) none]).quantity? = none ∧
      (Program.hashValue (wrapped [none] (tuple [int 1, present (dict []) none])) : Run Unit Value) =
        Run.fail (.unhashable "dict")) := by
  intro minusOne
  obtain ⟨equal, _, numbers, others⟩ := equalValuesHashAlike (σ := Unit)
  have same : (wrapped [none] minusOne).same (wrapped [some 7] (int (-1))) = true := by decide +kernel
  obtain ⟨h, _, _, free, _, hash⟩ := numbers [none, none] (int (-1)) rfl (.inl rfl)
  refine ⟨⟨rfl, same, (equal _ _ rfl same).1⟩, ⟨rfl, rfl, h, free, hash⟩, rfl, rfl, ?_⟩
  obtain ⟨hashed, _⟩ | ⟨t, _, blamed, failed⟩ := others [none] (tuple [int 1, present (dict []) none]) rfl rfl
  · simp [hashCode, hashItems] at hashed
  · simp only [hashCode, hashItems] at blamed
    cases blamed
    exact failed

end Perhaps.Value
