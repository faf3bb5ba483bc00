import Perhaps.Value.Hash
import Perhaps.Value.Numbered

/-! Properties of a value and of every value in it. A property that everything built by programs has is
closed; such a property survives storing, look-ups, and the removal of duplicates. -/
namespace Perhaps.Value

mutual

def everywhere (p : Value → Bool) : Value → Bool
  | list items => p (list items) && itemsEverywhere p items
  | tuple items => p (tuple items) && itemsEverywhere p items
  | dict entries => p (dict entries) && entriesEverywhere p entries
  | present payload o => p (present payload o) && payload.everywhere p
  | error kind args o => p (error kind args o) && itemsEverywhere p args
  | v => p v

def itemsEverywhere (p : Value → Bool) : List Value → Bool
  | [] => true
  | v :: vs => v.everywhere p && itemsEverywhere p vs

def entriesEverywhere (p : Value → Bool) : List (Value × Value) → Bool
  | [] => true
  | (k, v) :: es => k.everywhere p && v.everywhere p && entriesEverywhere p es

end

variable {p : Value → Bool}

theorem everywhereSelf {v : Value} (all : v.everywhere p = true) : p v = true := by
  cases v <;> simp_all [everywhere]

theorem itemsEverywhereIff {vs : List Value} :
    itemsEverywhere p vs = true ↔ ∀ v ∈ vs, v.everywhere p = true := by
  induction vs with
  | nil => simp [itemsEverywhere]
  | cons v vs ih => simp [itemsEverywhere, ih]

theorem entriesEverywhereIff {es : List (Value × Value)} :
    entriesEverywhere p es = true ↔ ∀ e ∈ es, e.1.everywhere p = true ∧ e.2.everywhere p = true := by
  induction es with
  | nil => simp [entriesEverywhere]
  | cons e es ih => simp [entriesEverywhere, ih]

mutual

theorem everywhereAll (all : ∀ v, p v = true) : (v : Value) → v.everywhere p = true
  | list items => by rw [everywhere, all, itemsEverywhereAll all items, Bool.and_self]
  | tuple items => by rw [everywhere, all, itemsEverywhereAll all items, Bool.and_self]
  | dict entries => by rw [everywhere, all, entriesEverywhereAll all entries, Bool.and_self]
  | present payload o => by rw [everywhere, all, everywhereAll all payload, Bool.and_self]
  | error kind args o => by rw [everywhere, all, itemsEverywhereAll all args, Bool.and_self]
  | absent | bool _ | int _ | float _ | str _ | bytes _ | empty | errorClass _ | notImplemented => by
    simp only [everywhere, all]

theorem itemsEverywhereAll (all : ∀ v, p v = true) : (vs : List Value) → itemsEverywhere p vs = true
  | [] => by rw [itemsEverywhere]
  | v :: vs => by rw [itemsEverywhere, everywhereAll all v, itemsEverywhereAll all vs, Bool.and_self]

theorem entriesEverywhereAll (all : ∀ v, p v = true) :
    (es : List (Value × Value)) → entriesEverywhere p es = true
  | [] => by rw [entriesEverywhere]
  | (k, v) :: es => by
    rw [entriesEverywhere, everywhereAll all k, everywhereAll all v, entriesEverywhereAll all es]
    rfl

end

mutual

theorem everywhereNumbered (kept : ∀ n v, p (v.numbered n) = p v) (n : Nat) :
    (v : Value) → (v.numbered n).everywhere p = v.everywhere p
  | list items => by
    have same := kept n (list items)
    rw [numbered] at same ⊢
    rw [everywhere, everywhere, same, itemsEverywhereNumbered kept n items]
  | tuple items => by
    have same := kept n (tuple items)
    rw [numbered] at same ⊢
    rw [everywhere, everywhere, same, itemsEverywhereNumbered kept n items]
  | dict entries => by
    have same := kept n (dict entries)
    rw [numbered] at same ⊢
    rw [everywhere, everywhere, same, entriesEverywhereNumbered kept n entries]
  | present payload o => by
    have same := kept n (present payload o)
    rw [numbered] at same ⊢
    rw [everywhere, everywhere, same, everywhereNumbered kept (n + 1) payload]
  | error kind args o => by
    have same := kept n (error kind args o)
    rw [numbered] at same ⊢
    rw [everywhere, everywhere, same, itemsEverywhereNumbered kept (n + 1) args]
  | float x => by
    have same := kept n (float x)
    rw [numbered] at same ⊢
    rw [everywhere, everywhere, same] <;> simp
  | absent | bool _ | int _ | str _ | bytes _ | empty | errorClass _ | notImplemented => by
    simp only [numbered]

theorem itemsEverywhereNumbered (kept : ∀ n v, p (v.numbered n) = p v) (n : Nat) :
    (vs : List Value) → itemsEverywhere p (numberedItems n vs) = itemsEverywhere p vs
  | [] => by rw [numberedItems]
  | v :: vs => by
    rw [numberedItems, itemsEverywhere, itemsEverywhere, everywhereNumbered kept n v,
      itemsEverywhereNumbered kept (n + v.objects) vs]

theorem entriesEverywhereNumbered (kept : ∀ n v, p (v.numbered n) = p v) (n : Nat) :
    (es : List (Value × Value)) → entriesEverywhere p (numberedEntries n es) = entriesEverywhere p es
  | [] => by rw [numberedEntries]
  | (k, v) :: es => by
    rw [numberedEntries, entriesEverywhere, entriesEverywhere, everywhereNumbered kept n k,
      everywhereNumbered kept (n + k.objects) v,
      entriesEverywhereNumbered kept (n + k.objects + v.objects) es]

end

/- What programs build has the property: every value of their own making, containers around what is
there, and errors of a kind whose class has it. -/
structure Closed (p : Value → Bool) : Prop where
  absent : p absent = true
  bool : ∀ b, p (bool b) = true
  int : ∀ n, p (int n) = true
  str : ∀ s, p (str s) = true
  list : ∀ items, p (list items) = true
  tuple : ∀ items, p (tuple items) = true
  dict : ∀ entries, p (dict entries) = true
  empty : p empty = true
  present : ∀ payload o, payload ≠ .absent → p (present payload o) = true
  error : ∀ kind args o, p (error kind args o) = p (errorClass kind)
  notImplemented : p notImplemented = true

theorem payloadEverywhere {v payload : Value} (all : v.everywhere p = true)
    (h : v.container? = some (some payload)) : payload.everywhere p = true := by
  obtain ⟨o, rfl⟩ := containerSomeIff.mp h
  rw [everywhere, Bool.and_eq_true] at all
  exact all.2

theorem ofContainerEverywhere (closed : Closed p) {o : Option Value}
    (there : ∀ payload, o = some payload → payload ≠ absent ∧ payload.everywhere p = true) :
    (ofContainer o).everywhere p = true := by
  cases o with
  | none => exact closed.empty
  | some payload =>
    obtain ⟨filled, all⟩ := there payload rfl
    simp only [ofContainer, everywhere, closed.present payload none filled, all, Bool.and_self]

theorem toOptionThere {v payload : Value} (h : v.toOption = some payload) : payload ≠ absent ∧ payload = v := by
  cases v <;> simp_all [toOption] <;> subst h <;> simp

theorem entryEverywhere {es : List (Value × Value)} {key v : Value}
    (all : entriesEverywhere p es = true) (found : entry? es key = some v) : v.everywhere p = true := by
  obtain ⟨e, he, rfl⟩ := Option.map_eq_some_iff.mp found
  exact (entriesEverywhereIff.mp all e (List.mem_of_find?_eq_some he)).2

theorem insertEntryEverywhere {es : List (Value × Value)} {key v : Value}
    (all : entriesEverywhere p es = true) (hk : key.everywhere p = true) (hv : v.everywhere p = true) :
    entriesEverywhere p (insertEntry key v es) = true := by
  induction es with
  | nil => simp [insertEntry, entriesEverywhere, hk, hv]
  | cons e es ih =>
    simp only [entriesEverywhere, Bool.and_eq_true] at all
    simp only [insertEntry]
    split
    · simp only [entriesEverywhere, all.1.1, hv, all.2, Bool.and_self]
    · simp only [entriesEverywhere, all.1.1, all.1.2, ih all.2, Bool.and_self]

theorem insertAllEverywhere {t u : HashTable} {vs : List Value}
    (filed : itemsEverywhere p t.values = true) (all : itemsEverywhere p vs = true)
    (done : t.insertAll vs = .ok u) : itemsEverywhere p u.values = true := by
  induction vs generalizing t with
  | nil => cases done; exact filed
  | cons v vs ih =>
    simp only [itemsEverywhere, Bool.and_eq_true] at all
    simp only [HashTable.insertAll] at done
    split at done
    · contradiction
    · refine ih ?_ all.2 done
      simp only [HashTable.insert]
      split
      · exact filed
      · rw [itemsEverywhereIff] at filed ⊢
        intro x member
        simp only [HashTable.values, List.map_append, List.map_cons, List.map_nil, List.mem_append,
          List.mem_singleton] at member
        rcases member with old | rfl
        · exact filed x old
        · exact all.1

theorem distinctEverywhere {vs us : List Value} (all : itemsEverywhere p vs = true)
    (done : distinct vs = .ok us) : itemsEverywhere p us = true := by
  unfold distinct at done
  cases inserted : HashTable.insertAll ⟨[]⟩ vs with
  | error f => rw [inserted] at done; contradiction
  | ok t =>
    rw [inserted] at done
    cases done
    exact insertAllEverywhere rfl all inserted

/- Anything but a present container around absence, which no operation builds. -/
def solid : Value → Bool
  | present .absent _ => false
  | _ => true

def sound (v : Value) : Bool := v.everywhere solid

theorem solidClosed : Closed solid where
  absent := rfl
  bool _ := rfl
  int _ := rfl
  str _ := rfl
  list _ := rfl
  tuple _ := rfl
  dict _ := rfl
  empty := rfl
  present payload _ filled := by cases payload <;> first | rfl | contradiction
  error _ _ _ := rfl
  notImplemented := rfl

theorem solidNumbered (n : Nat) (v : Value) : (v.numbered n).solid = v.solid := by
  cases v with
  | present payload o => cases payload <;> simp [numbered, solid]
  | _ => simp [numbered, solid]

theorem payloadThere {v payload : Value} (solid : v.solid = true) (h : v.container? = some (some payload)) :
    payload ≠ absent := by
  obtain ⟨o, rfl⟩ := containerSomeIff.mp h
  rintro rfl
  contradiction

theorem soundPayload {v payload : Value} (sound : v.sound = true) (h : v.container? = some (some payload)) :
    payload ≠ absent ∧ payload.sound = true :=
  ⟨payloadThere (everywhereSelf sound) h, payloadEverywhere sound h⟩

end Perhaps.Value
