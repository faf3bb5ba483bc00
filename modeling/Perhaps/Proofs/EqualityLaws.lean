import Mathlib.Data.Fintype.Card
import Perhaps.Proofs.Everywhere
import Perhaps.Program.Evaluation
import Perhaps.Proofs.Amounts

/-! Equality as an equivalence. One layer of it compares the parts of two values by whatever compares the parts,
and a layer over an equivalence is one again, for dictionaries as long as their keys differ. So equality is an
equivalence on values without undefined numbers and errors, and wrapping values in containers keeps apart what was
apart. -/
namespace Perhaps.Value

/- Anything but an undefined number or an error, the two that are equal to nothing but the same object. -/
def definite : Value → Bool
  | float (.nan _) => false
  | error .. => false
  | _ => true

def keyedOnce : Value → Bool
  | dict entries => decide (entries.Pairwise fun e f => e.1.same f.1 = false)
  | _ => true

def Settled (v : Value) : Prop := v.everywhere definite = true ∧ v.everywhere keyedOnce = true

def parts : Value → List Value
  | list items | tuple items => items
  | dict entries => entries.map Prod.fst ++ entries.map Prod.snd
  | present payload _ => [payload]
  | error _ args _ => args
  | _ => []

theorem entryOfPart {es : List (Value × Value)} {x : Value} (part : x ∈ (dict es).parts) :
    ∃ e ∈ es, x = e.1 ∨ x = e.2 := by
  simp only [parts, List.mem_append, List.mem_map] at part
  obtain ⟨e, member, rfl⟩ | ⟨e, member, rfl⟩ := part
  · exact ⟨e, member, .inl rfl⟩
  · exact ⟨e, member, .inr rfl⟩

theorem partSmaller {v x : Value} (part : x ∈ v.parts) : sizeOf x < sizeOf v := by
  cases v with
  | list items | tuple items =>
    have inside : sizeOf x < sizeOf items := List.sizeOf_lt_of_mem part
    simp only [list.sizeOf_spec, tuple.sizeOf_spec]
    omega
  | error kind args o =>
    have inside : sizeOf x < sizeOf args := List.sizeOf_lt_of_mem part
    simp only [error.sizeOf_spec]
    omega
  | present payload o =>
    cases List.mem_singleton.mp part
    simp only [present.sizeOf_spec]
    omega
  | dict entries =>
    obtain ⟨⟨k, u⟩, member, whose⟩ := entryOfPart part
    have inside := List.sizeOf_lt_of_mem member
    simp only [Prod.mk.sizeOf_spec] at inside
    simp only [dict.sizeOf_spec]
    rcases whose with rfl | rfl <;> omega
  | _ => cases part

theorem partEverywhere {p : Value → Bool} {v x : Value} (all : v.everywhere p = true) (part : x ∈ v.parts) :
    x.everywhere p = true := by
  cases v with
  | list items | tuple items | error kind items o =>
    simp only [everywhere, Bool.and_eq_true] at all
    exact itemsEverywhereIff.mp all.2 x part
  | present payload o =>
    cases List.mem_singleton.mp part
    simp only [everywhere, Bool.and_eq_true] at all
    exact all.2
  | dict entries =>
    simp only [everywhere, Bool.and_eq_true] at all
    obtain ⟨e, member, rfl | rfl⟩ := entryOfPart part
    · exact (entriesEverywhereIff.mp all.2 e member).1
    · exact (entriesEverywhereIff.mp all.2 e member).2
  | _ => cases part

theorem partSettled {v x : Value} (settled : v.Settled) (part : x ∈ v.parts) : x.Settled :=
  ⟨partEverywhere settled.1 part, partEverywhere settled.2 part⟩

theorem identicalDefinite {a : Value} (definite : a.everywhere definite = true) (b : Value) :
    a.identical b = false := by
  fun_induction a.identical b with
  | case1 o p => contradiction
  | case2 => contradiction
  | case3 a o b p ih =>
    rw [ih (partEverywhere definite List.mem_cons_self), Bool.and_false]
  | case4 => rfl

theorem alikeDefinite {a : Value} (definite : a.everywhere definite = true) (b : Value) :
    a.alike b = a.same b := by
  rw [alike, identicalDefinite definite, Bool.false_or]

def Covered (r : Value → Value → Prop) (es fs : List (Value × Value)) : Prop :=
  ∀ e ∈ es, ∃ f ∈ fs, r e.1 f.1 ∧ r e.2 f.2

def isAtom : Value → Bool
  | absent | str _ | bytes _ | empty | errorClass _ | notImplemented => true
  | _ => false

/- One layer of equality: values of one shape whose parts are compared by `r`. -/
inductive Layer (r : Value → Value → Prop) : Value → Value → Prop where
  | number {a b : Value} {p q : Quantity} (left : a.quantity? = some p) (right : b.quantity? = some q)
      (same : p.same q = true) : Layer r a b
  | atom {a : Value} (plain : a.isAtom = true) : Layer r a a
  | list {xs ys : List Value} (items : List.Forall₂ r xs ys) : Layer r (list xs) (list ys)
  | tuple {xs ys : List Value} (items : List.Forall₂ r xs ys) : Layer r (tuple xs) (tuple ys)
  | dict {es fs : List (Value × Value)} (length : es.length = fs.length) (covered : Covered r es fs) :
      Layer r (dict es) (dict fs)
  | present {a b : Value} {o p : Occurrence} (payloads : r a b) : Layer r (present a o) (present b p)

abbrev Same (a b : Value) : Prop := a.same b = true

theorem entryParts {es : List (Value × Value)} {e : Value × Value} (member : e ∈ es) :
    e.1 ∈ (dict es).parts ∧ e.2 ∈ (dict es).parts :=
  ⟨List.mem_append_left _ (List.mem_map_of_mem member), List.mem_append_right _ (List.mem_map_of_mem member)⟩

theorem partEntries {p : Value → Prop} {es : List (Value × Value)} (all : ∀ x ∈ (dict es).parts, p x) :
    ∀ e ∈ es, p e.1 ∧ p e.2 :=
  fun _ member => ⟨all _ (entryParts member).1, all _ (entryParts member).2⟩

theorem sameItemsLayer (xs ys : List Value) (definite : ∀ x ∈ xs, x.everywhere definite = true) :
    sameItems xs ys = true ↔ List.Forall₂ Same xs ys := by
  induction xs generalizing ys with
  | nil => cases ys <;> simp [sameItems]
  | cons x xs ih =>
    cases ys with
    | nil => simp [sameItems]
    | cons y ys =>
      have rest := ih ys fun z member => definite z (List.mem_cons_of_mem x member)
      rw [sameItemsCons, alikeDefinite (definite x List.mem_cons_self), Bool.and_eq_true, rest,
        List.forall₂_cons]

theorem entriesInLayer (es fs : List (Value × Value))
    (definite : ∀ e ∈ es, e.1.everywhere definite = true ∧ e.2.everywhere definite = true) :
    entriesIn es fs = true ↔ Covered Same es fs := by
  induction es with
  | nil => simp [entriesIn, Covered]
  | cons e es ih =>
    obtain ⟨k, v⟩ := e
    have rest := ih fun f member => definite f (List.mem_cons_of_mem _ member)
    have here := definite (k, v) List.mem_cons_self
    simp only [entriesInCons, Bool.and_eq_true, rest, List.any_eq_true, alikeDefinite here.1,
      alikeDefinite here.2, Covered, List.forall_mem_cons]

theorem sameNumbers {a b : Value} {p q : Quantity} (left : a.quantity? = some p) (right : b.quantity? = some q) :
    a.same b = p.same q := by
  fun_cases a.same b with
  | case12 => simp_all [sameQuantity]
  | _ => cases left

theorem sharedQuantity {a b : Value} (same : sameQuantity a b = true) :
    ∃ p q, a.quantity? = some p ∧ b.quantity? = some q ∧ p.same q = true := by
  unfold sameQuantity at same
  split at same
  · rename_i p q left right
    exact ⟨p, q, left, right, same⟩
  · contradiction

theorem sameLayer {a : Value} (definite : a.everywhere definite = true) (b : Value) :
    Same a b ↔ Layer Same a b := by
  have within : ∀ x ∈ a.parts, x.everywhere Value.definite = true := fun x => partEverywhere definite
  constructor
  · intro same
    fun_cases a.same b with
    | case1 | case7 | case11 => exact .atom rfl
    | case2 s t =>
      obtain rfl : s = t := by simpa [Same, Value.same] using same
      exact .atom rfl
    | case3 bs cs =>
      obtain rfl : bs = cs := by simpa [Same, Value.same] using same
      exact .atom rfl
    | case10 k l =>
      obtain rfl : k = l := by simpa [Same, Value.same] using same
      exact .atom rfl
    | case4 xs ys => exact .list ((sameItemsLayer xs ys within).mp (by simpa [Same, Value.same] using same))
    | case5 xs ys => exact .tuple ((sameItemsLayer xs ys within).mp (by simpa [Same, Value.same] using same))
    | case6 es fs =>
      obtain ⟨length, covered⟩ : es.length = fs.length ∧ entriesIn es fs = true := by
        simpa [Same, Value.same] using same
      exact .dict length ((entriesInLayer es fs (partEntries within)).mp covered)
    | case8 a o b p => exact .present (by simpa [Same, Value.same] using same)
    | case9 => contradiction
    | case12 =>
      have equation : a.same b = sameQuantity a b := by rw [Value.same] <;> assumption
      obtain ⟨p, q, left, right, equal⟩ := sharedQuantity (equation.symm.trans same)
      exact .number left right equal
  · intro layer
    cases layer with
    | number left right same => exact (sameNumbers left right).trans same
    | atom plain => cases a <;> first | contradiction | simp [Same, Value.same]
    | @list xs ys items | @tuple xs ys items =>
      simpa [Same, Value.same] using (sameItemsLayer xs ys within).mpr items
    | dict length covered =>
      simpa [Same, Value.same, length] using (entriesInLayer _ _ (partEntries within)).mpr covered
    | present payloads => simpa [Same, Value.same] using payloads

structure EquivalenceOn (r : Value → Value → Prop) (s : Value → Prop) : Prop where
  refl : ∀ a, s a → r a a
  symm : ∀ a b, s a → s b → r a b → r b a
  trans : ∀ a b c, s a → s b → s c → r a b → r b c → r a c

section

variable {r : Value → Value → Prop} {s : Value → Prop}

theorem itemsSymm (equivalence : EquivalenceOn r s) {xs ys : List Value} (left : ∀ x ∈ xs, s x)
    (right : ∀ y ∈ ys, s y) (items : List.Forall₂ r xs ys) : List.Forall₂ r ys xs := by
  induction items with
  | nil => exact .nil
  | @cons x y xs ys head tail ih =>
    rw [List.forall_mem_cons] at left right
    exact .cons (equivalence.symm x y left.1 right.1 head) (ih left.2 right.2)

theorem itemsTrans (equivalence : EquivalenceOn r s) {xs ys zs : List Value} (left : ∀ x ∈ xs, s x)
    (middle : ∀ y ∈ ys, s y) (right : ∀ z ∈ zs, s z) (first : List.Forall₂ r xs ys)
    (second : List.Forall₂ r ys zs) : List.Forall₂ r xs zs := by
  induction first generalizing zs with
  | nil => exact second
  | @cons x y xs ys head tail ih =>
    cases second with
    | @cons _ z _ zs head' tail' =>
      rw [List.forall_mem_cons] at left middle right
      exact .cons (equivalence.trans x y z left.1 middle.1 right.1 head head')
        (ih left.2 middle.2 right.2 tail')

theorem coveredTrans (equivalence : EquivalenceOn r s) {es fs gs : List (Value × Value)}
    (left : ∀ e ∈ es, s e.1 ∧ s e.2) (middle : ∀ f ∈ fs, s f.1 ∧ s f.2) (right : ∀ g ∈ gs, s g.1 ∧ s g.2)
    (first : Covered r es fs) (second : Covered r fs gs) : Covered r es gs := by
  intro e he
  obtain ⟨f, hf, key, value⟩ := first e he
  obtain ⟨g, hg, key', value'⟩ := second f hf
  exact ⟨g, hg, equivalence.trans _ _ _ (left e he).1 (middle f hf).1 (right g hg).1 key key',
    equivalence.trans _ _ _ (left e he).2 (middle f hf).2 (right g hg).2 value value'⟩

/- The entries of a dictionary find different entries of the other one, since their keys differ. So of as many
entries the other has, none is left out. -/
theorem coveredBack (equivalence : EquivalenceOn r s) {es fs : List (Value × Value)}
    (left : ∀ e ∈ es, s e.1 ∧ s e.2) (right : ∀ f ∈ fs, s f.1 ∧ s f.2)
    (once : es.Pairwise fun e f => ¬ r e.1 f.1) (length : es.length = fs.length)
    (covered : Covered r es fs) : Covered r fs es := by
  have found : ∀ i, ∃ j, r (es.get i).1 (fs.get j).1 ∧ r (es.get i).2 (fs.get j).2 := by
    intro i
    obtain ⟨f, member, both⟩ := covered (es.get i) (List.get_mem es i)
    obtain ⟨j, rfl⟩ := List.mem_iff_get.mp member
    exact ⟨j, both⟩
  choose partner partners using found
  have here := fun i => left (es.get i) (List.get_mem es i)
  have there := fun j => right (fs.get j) (List.get_mem fs j)
  have meet : ∀ i j, partner i = partner j → r (es.get i).1 (es.get j).1 := by
    intro i j same
    have back : r (fs.get (partner i)).1 (es.get j).1 := by
      rw [same]
      exact equivalence.symm _ _ (here j).1 (there (partner j)).1 (partners j).1
    exact equivalence.trans _ _ _ (here i).1 (there (partner i)).1 (here j).1 (partners i).1 back
  have injective : Function.Injective partner := by
    intro i j same
    rcases lt_trichotomy i j with before | rfl | after
    · exact absurd (meet i j same) (List.pairwise_iff_get.mp once i j before)
    · rfl
    · exact absurd (meet j i same.symm) (List.pairwise_iff_get.mp once j i after)
  have onto : Function.Surjective partner :=
    ((Fintype.bijective_iff_injective_and_card partner).mpr ⟨injective, by simp [length]⟩).2
  intro f member
  obtain ⟨j, rfl⟩ := List.mem_iff_get.mp member
  obtain ⟨i, rfl⟩ := onto j
  exact ⟨es.get i, List.get_mem es i, equivalence.symm _ _ (here i).1 (there (partner i)).1 (partners i).1,
    equivalence.symm _ _ (here i).2 (there (partner i)).2 (partners i).2⟩

theorem layerRefl (equivalence : EquivalenceOn r s) {a : Value} (definite : a.definite = true)
    (within : ∀ x ∈ a.parts, s x) : Layer r a a := by
  cases a with
  | absent | str _ | bytes _ | empty | errorClass _ | notImplemented => exact .atom rfl
  | bool _ | int _ => exact .number rfl rfl (Quantity.sameRefl Quantity.noConfusion)
  | float x =>
    refine .number rfl rfl (Quantity.sameRefl ?_)
    intro undefined
    obtain ⟨o, rfl⟩ := Double.quantityUndefined undefined
    contradiction
  | list items => exact .list (List.forall₂_same.mpr fun x member => equivalence.refl x (within x member))
  | tuple items => exact .tuple (List.forall₂_same.mpr fun x member => equivalence.refl x (within x member))
  | dict entries =>
    refine .dict rfl fun e member => ⟨e, member, ?_⟩
    have both := partEntries within e member
    exact ⟨equivalence.refl e.1 both.1, equivalence.refl e.2 both.2⟩
  | present payload o => exact .present (equivalence.refl payload (within payload List.mem_cons_self))
  | error => contradiction

theorem layerSymm (equivalence : EquivalenceOn r s) {a b : Value} (left : ∀ x ∈ a.parts, s x)
    (right : ∀ y ∈ b.parts, s y) (once : ∀ es, a = .dict es → es.Pairwise fun e f => ¬ r e.1 f.1)
    (layer : Layer r a b) : Layer r b a := by
  cases layer with
  | number here there same => exact .number there here (Quantity.sameSymm same)
  | atom plain => exact .atom plain
  | list items => exact .list (itemsSymm equivalence left right items)
  | tuple items => exact .tuple (itemsSymm equivalence left right items)
  | @dict es fs length covered =>
    exact .dict length.symm
      (coveredBack equivalence (partEntries left) (partEntries right) (once es rfl) length covered)
  | @present a b o p payloads =>
    exact .present (equivalence.symm a b (left a List.mem_cons_self) (right b List.mem_cons_self) payloads)

theorem layerTrans (equivalence : EquivalenceOn r s) {a b c : Value} (left : ∀ x ∈ a.parts, s x)
    (middle : ∀ y ∈ b.parts, s y) (right : ∀ z ∈ c.parts, s z) (first : Layer r a b) (second : Layer r b c) :
    Layer r a c := by
  cases first with
  | atom plain => exact second
  | number here there same =>
    cases second with
    | number there' beyond same' =>
      cases there.symm.trans there'
      exact .number here beyond (Quantity.sameTrans same same')
    | atom plain => exact .number here there same
    | _ => cases there
  | list items =>
    cases second with
    | list items' => exact .list (itemsTrans equivalence left middle right items items')
    | atom plain => contradiction
    | number there => cases there
  | tuple items =>
    cases second with
    | tuple items' => exact .tuple (itemsTrans equivalence left middle right items items')
    | atom plain => contradiction
    | number there => cases there
  | dict length covered =>
    cases second with
    | dict length' covered' =>
      exact .dict (length.trans length') (coveredTrans equivalence (partEntries left) (partEntries middle)
        (partEntries right) covered covered')
    | atom plain => contradiction
    | number there => cases there
  | @present a b o p payloads =>
    cases second with
    | @present _ c _ q payloads' =>
      exact .present (equivalence.trans a b c (left a List.mem_cons_self) (middle b List.mem_cons_self)
        (right c List.mem_cons_self) payloads payloads')
    | atom plain => contradiction
    | number there => cases there

end

theorem keysDiffer {es : List (Value × Value)} (once : (dict es).keyedOnce = true) :
    es.Pairwise fun e f => ¬ Same e.1 f.1 := by
  have differ := of_decide_eq_true once
  exact differ.imp fun apart same => by rw [Same, apart] at same; contradiction

theorem equivalenceBelow (n : Nat) : EquivalenceOn Same fun v => v.Settled ∧ sizeOf v < n := by
  induction n with
  | zero => constructor <;> (intros; omega)
  | succ n ih =>
    have within : ∀ a : Value, a.Settled ∧ sizeOf a < n + 1 → ∀ x ∈ a.parts, x.Settled ∧ sizeOf x < n := by
      intro a ha x part
      have smaller := partSmaller part
      exact ⟨partSettled ha.1 part, by omega⟩
    refine ⟨?refl, ?symm, ?trans⟩
    case refl =>
      intro a ha
      exact (sameLayer ha.1.1 a).mpr (layerRefl ih (everywhereSelf ha.1.1) (within a ha))
    case symm =>
      intro a b ha hb same
      have layer := (sameLayer ha.1.1 b).mp same
      have once : ∀ es, a = .dict es → es.Pairwise fun e f => ¬ Same e.1 f.1 := by
        rintro es rfl
        exact keysDiffer (everywhereSelf ha.1.2)
      exact (sameLayer hb.1.1 a).mpr (layerSymm ih (within a ha) (within b hb) once layer)
    case trans =>
      intro a b c ha hb hc left right
      have first := (sameLayer ha.1.1 b).mp left
      have second := (sameLayer hb.1.1 c).mp right
      exact (sameLayer ha.1.1 c).mpr (layerTrans ih (within a ha) (within b hb) (within c hc) first second)

theorem settledEquivalence : Equivalence fun a b : {v : Value // v.Settled} => Same a.val b.val := by
  refine ⟨?refl, ?symm, ?trans⟩
  case refl =>
    rintro ⟨a, ha⟩
    exact (equivalenceBelow (sizeOf a + 1)).refl a ⟨ha, by omega⟩
  case symm =>
    rintro ⟨a, ha⟩ ⟨b, hb⟩ same
    exact (equivalenceBelow (sizeOf a + sizeOf b + 1)).symm a b ⟨ha, by omega⟩ ⟨hb, by omega⟩ same
  case trans =>
    rintro ⟨a, ha⟩ ⟨b, hb⟩ ⟨c, hc⟩ left right
    exact (equivalenceBelow (sizeOf a + sizeOf b + sizeOf c + 1)).trans a b c ⟨ha, by omega⟩ ⟨hb, by omega⟩
      ⟨hc, by omega⟩ left right

section

variable {a b c : Value}

theorem settledRefl (ha : a.Settled) : Same a a := settledEquivalence.refl ⟨a, ha⟩

theorem settledSymm (ha : a.Settled) (hb : b.Settled) (same : Same a b) : Same b a :=
  settledEquivalence.symm (x := ⟨a, ha⟩) (y := ⟨b, hb⟩) same

theorem settledTrans (ha : a.Settled) (hb : b.Settled) (hc : c.Settled) (left : Same a b) (right : Same b c) :
    Same a c :=
  settledEquivalence.trans (x := ⟨a, ha⟩) (y := ⟨b, hb⟩) (z := ⟨c, hc⟩) left right

end

def wrapped : List Occurrence → Value → Value
  | [], v => v
  | o :: os, v => present (wrapped os v) o

def Bare (v : Value) : Prop := ∀ payload o, v ≠ present payload o

theorem bareOfNoContainer {v : Value} (h : v.container? = none) : v.Bare := by
  rintro payload o rfl
  contradiction

theorem containerCases {v : Value} {o : Option Value} (h : v.container? = some o) :
    v = empty ∨ ∃ payload p, v = present payload p := by
  cases o with
  | none => exact .inl (containerNoneIff.mp h)
  | some payload => exact .inr ⟨payload, containerSomeIff.mp h⟩

theorem sameAbsent {a b : Value} (same : Same a b) : a = absent ↔ b = absent := by
  constructor
  · rintro rfl
    cases b <;> simp_all [Same, Value.same, sameQuantity, quantity?]
  · rintro rfl
    cases a <;> simp_all [Same, Value.same, sameQuantity, quantity?]

theorem presentApart {a : Value} (bare : a.Bare) (b : Value) (o : Occurrence) :
    a.same (present b o) = false ∧ (present b o).same a = false := by
  cases a with
  | present payload p => exact absurd rfl (bare payload p)
  | _ => simp [same, sameQuantity, quantity?]

theorem containerApart {c v : Value} {o : Option Value} (container : c.container? = some o)
    (other : v.container? = none) : c.same v = false ∧ v.same c = false := by
  obtain rfl | ⟨payload, p, rfl⟩ := containerCases container
  · cases v with
    | empty => contradiction
    | _ => simp [same, sameQuantity, quantity?]
  · exact (presentApart (bareOfNoContainer other) payload p).symm

theorem sameWrapped (os ps : List Occurrence) {a b : Value} (left : a.Bare) (right : b.Bare) :
    (wrapped os a).same (wrapped ps b) = true ↔ os.length = ps.length ∧ a.same b = true := by
  induction os generalizing ps with
  | nil =>
    cases ps with
    | nil => simp [wrapped]
    | cons p ps => simp [wrapped, presentApart left]
  | cons o os ih =>
    cases ps with
    | nil => simp [wrapped, presentApart right]
    | cons p ps =>
      have inner := ih ps
      simpa [wrapped, same] using inner

theorem unwrap (v : Value) : ∃ os u, v = wrapped os u ∧ (u = empty ∨ u.container? = none) :=
  match v with
  | present payload o => by
    obtain ⟨os, u, rfl, bottom⟩ := unwrap payload
    exact ⟨o :: os, u, rfl, bottom⟩
  | empty => ⟨[], empty, rfl, .inl rfl⟩
  | absent | bool _ | int _ | float _ | str _ | bytes _ | list _ | tuple _ | dict _ | error .. | errorClass _
  | notImplemented => ⟨[], _, rfl, .inr rfl⟩

theorem ownEqualsContainer {c : Value} {o : Option Value} (container : c.container? = some o) (x : Value) :
    c.ownEquals x = if x.container?.isSome then some (c.same x) else none := by
  rw [ownEquals, container]
  cases other : x.container? with
  | none => simp [containerEquals, other]
  | some inner =>
    obtain rfl | ⟨payload, p, rfl⟩ := containerCases container <;>
      obtain rfl | ⟨payload', p', rfl⟩ := containerCases other <;>
      cases container <;> simp [containerEquals, container?, same, sameQuantity, quantity?]

open Program in
theorem comparisonRuns {σ : Type} {c : Value} {o : Option Value} (container : c.container? = some o) (t : Term)
    (ρ : Registers) :
    ((Action.equals t).run ρ c : Run σ Value) = (t.value ρ >>= fun x => pure (.bool (c.same x))) ∧
    ((Action.differs t).run ρ c : Run σ Value) = (t.value ρ >>= fun x => pure (.bool (!c.same x))) ∧
    ((Action.equalsMethod t).run ρ c : Run σ Value) = (t.value ρ >>= fun x =>
      pure (if x.container?.isSome then .bool (c.same x) else .notImplemented)) := by
  refine ⟨by rw [Action.run], by rw [Action.run], ?_⟩
  rw [Action.run]
  refine Run.bindCongr fun w x _ => ?_
  have answer : comparisonValue c x =
      .ok (if x.container?.isSome then .bool (c.same x) else .notImplemented) := by
    have own := ownEqualsContainer container x
    obtain rfl | ⟨payload, p, rfl⟩ := containerCases container <;>
      simp only [comparisonValue, own] <;> cases x.container?.isSome <;> rfl
  rw [answer]
  rfl

theorem equalityIsEquivalence :
    (Equivalence fun a b : {v : Value // v.Settled} => a.val.same b.val = true) ∧
    (∀ v : Value, ∃ os u, v = wrapped os u ∧ (u = empty ∨ u.container? = none)) ∧
    (∀ os ps (a b : Value), a.container? = none → b.container? = none →
      ((wrapped os a).same (wrapped ps b) = true ↔ os.length = ps.length ∧ a.same b = true)) ∧
    (∀ os ps, (wrapped os empty).same (wrapped ps empty) = true ↔ os.length = ps.length) ∧
    (∀ os ps (b : Value), b.container? = none →
      (wrapped os empty).same (wrapped ps b) = false ∧ (wrapped ps b).same (wrapped os empty) = false) ∧
    (∀ c o (v : Value), c.container? = some o → v.container? = none → c.same v = false ∧ v.same c = false) ∧
    (∀ {σ : Type} c o (t : Program.Term) ρ, c.container? = some o →
      ((Program.Action.equals t).run ρ c : Run σ Value) = (t.value ρ >>= fun x => pure (.bool (c.same x))) ∧
      ((Program.Action.differs t).run ρ c : Run σ Value) = (t.value ρ >>= fun x => pure (.bool (!c.same x))) ∧
      ((Program.Action.equalsMethod t).run ρ c : Run σ Value) = (t.value ρ >>= fun x =>
        pure (if x.container?.isSome then .bool (c.same x) else .notImplemented))) := by
  have emptyBare : empty.Bare := fun _ _ => Value.noConfusion
  refine ⟨settledEquivalence, unwrap, ?payloads, ?empties, ?apart, ?others, ?runs⟩
  case payloads =>
    intro os ps a b left right
    exact sameWrapped os ps (bareOfNoContainer left) (bareOfNoContainer right)
  case empties =>
    intro os ps
    have same : empty.same empty = true := by simp [same]
    rw [sameWrapped os ps emptyBare emptyBare, and_iff_left same]
  case apart =>
    intro os ps b other
    have bare := bareOfNoContainer other
    have differ := containerApart (c := empty) rfl other
    constructor
    · rw [← Bool.not_eq_true, sameWrapped os ps emptyBare bare, differ.1]
      simp
    · rw [← Bool.not_eq_true, sameWrapped ps os bare emptyBare, differ.2]
      simp
  case others =>
    intro c o v container other
    exact containerApart container other
  case runs =>
    intro σ c o t ρ container
    exact comparisonRuns container t ρ

theorem wrappedNumbersEqual :
    ((int 1).container? = none ∧ (bool true).container? = none ∧
      (wrapped [none, some 3] (int 1)).same (wrapped [some 4, none] (bool true)) = true) ∧
    ((wrapped [none] (float (.nan none))).container? = some (some (float (.nan none))) ∧
      ((Program.Action.equalsMethod (.literal (int 1))).run .empty (wrapped [none] (float (.nan none))) () =
        (⟨.ok .notImplemented, [], [], ()⟩ : Outcome Unit Value))) := by
  obtain ⟨_, _, payloads, _, _, _, runs⟩ := equalityIsEquivalence
  have compared := (runs (σ := Unit) (wrapped [none] (float (.nan none))) _ (.literal (int 1)) .empty rfl).2.2
  exact ⟨⟨rfl, rfl, (payloads _ _ (int 1) (bool true) rfl rfl).mpr ⟨rfl, rfl⟩⟩, rfl,
    (congrFun compared ()).trans rfl⟩

end Perhaps.Value
