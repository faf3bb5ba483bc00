import Perhaps.Logging.Event

/-! Which events can be written. JSON takes the fields that have a form in it, the console those that hold no number
beyond the limit of digits and, below the columns, text alone. The event of a record adds only text to what is
bound. -/
namespace Perhaps

namespace Fields

variable {β : Type}

theorem memberOfPut {name : String} {value : β} {fs : Fields β} {f : String × β} (member : f ∈ fs.put name value) :
    f ∈ fs ∨ f = (name, value) := by
  induction fs with
  | nil => exact .inr (List.mem_singleton.mp member)
  | cons g fs ih =>
    obtain ⟨n, v⟩ := g
    rw [put] at member
    split at member
    · next same =>
      subst same
      exact (List.mem_cons.mp member).elim .inr fun later => .inl (List.mem_cons_of_mem _ later)
    · rcases List.mem_cons.mp member with rfl | later
      · exact .inl List.mem_cons_self
      · exact (ih later).imp_left (List.mem_cons_of_mem _)

theorem memberOfPutIfAbsent {name : String} {value : β} {fs : Fields β} {f : String × β}
    (member : f ∈ fs.putIfAbsent name value) : f ∈ fs ∨ f = (name, value) := by
  rw [putIfAbsent] at member
  split at member
  · exact .inl member
  · exact memberOfPut member

theorem memberOfGet {name : String} {fs : Fields β} {value : β} (found : fs.get? name = some value) :
    (name, value) ∈ fs := by
  induction fs with
  | nil => contradiction
  | cons f fs ih =>
    rw [get?] at found
    split at found
    · next same =>
      cases found
      subst same
      exact List.mem_cons_self
    · exact List.mem_cons_of_mem f (ih found)

end Fields

namespace Value

theorem shortOfWritten {α : Type} {form : Value → α} {v : Value} {a : α} (written : v.written form = .ok a) :
    v.isTooLong = false := by
  rw [writtenIf] at written
  split at written
  · cases written
  · next short => exact Bool.eq_false_iff.mpr short

theorem shortOfName {v : Value} {name : List Char} (written : v.jsonName = .ok name) : v.isTooLong = false := by
  cases v with
  | int n => exact shortOfWritten written
  | list | tuple | dict | present | error => cases written
  | _ => rfl

theorem textOfBind {α β : Type} {x : Except Cause α} {f : α → Except Cause β} {b : β} (done : (x >>= f) = .ok b) :
    ∃ a, x = .ok a ∧ f a = .ok b := by
  cases x with
  | error cause => cases done
  | ok a => exact ⟨a, rfl, done⟩

mutual

theorem shortOfJson {text : List Char} : (v : Value) → v.json = .ok text → v.isTooLong = false
  | int _, written | present _ _, written | error _ _ _, written => by
    simp only [json] at written
    exact shortOfWritten written
  | list items, written | tuple items, written => by
    rw [json] at written
    obtain ⟨_, inner, -⟩ := textOfBind written
    rw [isTooLong, shortOfItems items inner]
  | dict entries, written => by
    rw [json] at written
    obtain ⟨_, inner, -⟩ := textOfBind written
    rw [isTooLong, shortOfMembers entries inner]
  | absent, _ | bool _, _ | float _, _ | str _, _ | bytes _, _ | empty, _ | errorClass _, _ | notImplemented, _ => rfl

theorem shortOfItems {texts : List (List Char)} : (vs : List Value) → jsonItems vs = .ok texts →
    anyTooLong vs = false
  | [], _ => rfl
  | v :: vs, written => by
    rw [jsonItems] at written
    obtain ⟨_, first, later⟩ := textOfBind written
    obtain ⟨_, rest, -⟩ := textOfBind later
    rw [anyTooLong, shortOfJson v first, shortOfItems vs rest, Bool.or_false]

theorem shortOfMembers {texts : List (List Char)} : (es : List (Value × Value)) → jsonMembers es = .ok texts →
    anyEntryTooLong es = false
  | [], _ => rfl
  | (k, v) :: es, written => by
    rw [jsonMembers] at written
    obtain ⟨_, name, later⟩ := textOfBind written
    obtain ⟨_, payload, last⟩ := textOfBind later
    obtain ⟨_, rest, -⟩ := textOfBind last
    rw [anyEntryTooLong, shortOfName name, shortOfJson v payload, shortOfMembers es rest, Bool.or_false, Bool.or_false]

end

end Value

namespace Logging

def Renderer.Writes : Renderer → String × Value → Prop
  | .json, f => ∃ text, f.2.json = .ok text
  | .console _, f => f.2.isTooLong = false ∧
    (f.1 = "stack" ∨ f.1 = "exception" → ∃ text, Event.below (some f.2) = .ok text)

namespace Event

theorem textWritten (renderer : Renderer) (name text : String) : renderer.Writes (name, .str text) := by
  cases renderer with
  | json => exact ⟨_, rfl⟩
  | console coloured => exact ⟨rfl, fun _ => ⟨_, rfl⟩⟩

theorem mergedMember {free start : Fields Value} {f : String × Value}
    (member : f ∈ free.foldl (fun e b => Fields.putIfAbsent b.1 b.2 e) start) : f ∈ start ∨ f ∈ free := by
  induction free generalizing start with
  | nil => exact .inl member
  | cons b free ih =>
    rcases ih member with early | later
    · rcases Fields.memberOfPutIfAbsent early with old | new
      · exact .inl old
      · exact .inr (new ▸ List.mem_cons_self)
    · exact .inr (List.mem_cons_of_mem b later)

theorem ofRecordMember {bound : Fields Value} {now : String} {r : Record} {f : String × Value}
    (member : f ∈ ofRecord bound now r) : f ∈ bound ∨ ∃ name text, f = (name, .str text) := by
  rw [ofRecord] at member
  rcases Fields.memberOfPut member with member | own
  · rcases Fields.memberOfPut member with member | own
    · rcases Fields.memberOfPut member with member | own
      · rcases mergedMember member with own | free
        · exact .inr ⟨_, _, List.mem_singleton.mp own⟩
        · exact .inl (List.mem_filter.mp free).1
      · exact .inr ⟨_, _, own⟩
    · exact .inr ⟨_, _, own⟩
  · exact .inr ⟨_, _, own⟩

theorem membersWritten (e : Event) :
    (∃ texts, Value.jsonMembers (e.map fun f => (.str f.1, f.2)) = .ok texts) ↔ ∀ f ∈ e, Renderer.json.Writes f := by
  induction e with
  | nil => exact ⟨fun _ _ none => (nomatch none), fun _ => ⟨_, rfl⟩⟩
  | cons f e ih =>
    rw [List.forall_mem_cons, ← ih]
    simp only [List.map_cons, Value.jsonMembers, Value.jsonName, Renderer.Writes]
    cases f.2.json with
    | error c => simp [bind, Except.bind]
    | ok text =>
      cases Value.jsonMembers (e.map fun f => (.str f.1, f.2)) <;> simp [bind, Except.bind, pure, Except.pure]

theorem jsonWritten (e : Event) : (∃ line, e.json = .ok line) ↔ ∀ f ∈ e, Renderer.json.Writes f := by
  rw [← membersWritten, json, Value.json]
  cases Value.jsonMembers (e.map fun f => (.str f.1, f.2)) <;> simp [bind, Except.bind, pure, Except.pure]

theorem mapMWritten {α β : Type} {f : α → Except Cause β} {xs : List α} (each : ∀ x ∈ xs, ∃ y, f x = .ok y) :
    ∃ ys, xs.mapM f = .ok ys := by
  induction xs with
  | nil => exact ⟨_, rfl⟩
  | cons x xs ih =>
    obtain ⟨y, first⟩ := each x List.mem_cons_self
    obtain ⟨ys, rest⟩ := ih fun other member => each other (List.mem_cons_of_mem x member)
    exact ⟨_, by rw [List.mapM_cons, first, rest]; rfl⟩

section Console

variable {v : Value} {e : Event} {coloured : Bool}

theorem pairWritten (name : String) (short : v.isTooLong = false) : ∃ text, pairColumn coloured name v = .ok text := by
  have value : ∃ text, consoleValue v = .ok text := by
    unfold consoleValue
    split
    · exact ⟨_, rfl⟩
    · exact ⟨_, Value.writtenShort _ short⟩
  obtain ⟨text, written⟩ := value
  exact ⟨_, by rw [pairColumn, written]; rfl⟩

theorem columnWritten (short : v.isTooLong = false) : ∀ c ∈ columns coloured, ∃ text, c.2 v = .ok text := by
  have plain : ∀ form, ∃ text, plainColumn form v = .ok text := fun form => ⟨_, Value.writtenShort _ short⟩
  simp only [columns, List.forall_mem_cons]
  exact ⟨pairWritten "" short, plain _, plain _, plain _, plain _, plain _, fun _ none => nomatch none⟩

theorem sortedMember {f g : String × Value} (member : f ∈ insertSorted g e) : f = g ∨ f ∈ e := by
  induction e with
  | nil => exact .inl (List.mem_singleton.mp member)
  | cons h e ih =>
    rw [insertSorted] at member
    split at member
    · exact List.mem_cons.mp member
    · rcases List.mem_cons.mp member with rfl | later
      · exact .inr List.mem_cons_self
      · exact (ih later).imp_right (List.mem_cons_of_mem h)

theorem sortedMembers {fs : Event} {f : String × Value} (member : f ∈ fs.foldl (fun e g => insertSorted g e) e) :
    f ∈ e ∨ f ∈ fs := by
  induction fs generalizing e with
  | nil => exact .inl member
  | cons g fs ih =>
    rcases ih member with early | later
    · rcases sortedMember early with rfl | before
      · exact .inr List.mem_cons_self
      · exact .inl before
    · exact .inr (List.mem_cons_of_mem g later)

theorem upperWritten (short : ∀ f ∈ e, f.2.isTooLong = false) : ∃ text, upperPart coloured e = .ok text := by
  have placed : ∃ texts, ((columns coloured).filterMap fun c => (e.get? c.1).map c.2).mapM id = .ok texts := by
    refine mapMWritten fun column member => ?_
    obtain ⟨c, place, found⟩ := List.mem_filterMap.mp member
    obtain ⟨v, held, rfl⟩ := Option.map_eq_some_iff.mp found
    exact columnWritten (short (c.1, v) (Fields.memberOfGet held)) c place
  have pairs : ∀ p : String × Value → Bool, ∃ texts,
      ((e.filter p).foldl (fun fs f => insertSorted f fs) []).mapM (fun f => pairColumn coloured f.1 f.2) =
        .ok texts := by
    refine fun p => mapMWritten fun f member => ?_
    rcases sortedMembers member with none | other
    · exact nomatch none
    · exact pairWritten f.1 (short f (List.mem_filter.mp other).1)
  obtain ⟨texts, placed⟩ := placed
  obtain ⟨others, pairs⟩ := pairs fun f => !apart.contains f.1 && !((columns coloured).map Prod.fst).contains f.1
  exact ⟨_, by simp only [upperPart, placed, pairs]; rfl⟩

theorem reportWritten {f : Fault} (told : reported? v = some f) (short : v.isTooLong = false) :
    ∃ text, report f = .ok text := by
  have inside : f.value.isTooLong = false := by
    unfold reported? at told
    split at told
    · cases told; exact short
    · cases told; simpa [Fault.value, Value.isTooLong, Value.anyTooLong] using short
    · contradiction
  have known : ∃ text, detail f = .ok text := by
    unfold detail
    split
    · split
      · exact ⟨_, Value.writtenShort _ inside⟩
      · exact ⟨_, rfl⟩
    · exact ⟨_, rfl⟩
  obtain ⟨text, written⟩ := known
  exact ⟨_, by rw [report, written]; rfl⟩

theorem consoleWritten (writes : ∀ f ∈ e, (Renderer.console coloured).Writes f) :
    ∃ line, e.console coloured = .ok line := by
  have text : ∀ name, name = "stack" ∨ name = "exception" → ∃ t, below (e.get? name) = .ok t := by
    intro name low
    cases found : e.get? name with
    | none => exact ⟨_, rfl⟩
    | some v => exact (writes (name, v) (Fields.memberOfGet found)).2 low
  obtain ⟨stack, above⟩ := text "stack" (.inl rfl)
  obtain ⟨error, under⟩ := text "exception" (.inr rfl)
  have lower : ∃ t, lowerPart e = .ok t := by
    simp only [lowerPart, above, under]
    cases told : e.get? "exc_info" with
    | none => exact ⟨_, rfl⟩
    | some v =>
      cases reported : reported? v with
      | none => exact ⟨_, by simp only [Option.getD_some, reported]; rfl⟩
      | some f =>
        obtain ⟨t, written⟩ := reportWritten reported (writes _ (Fields.memberOfGet told)).1
        exact ⟨_, by simp only [Option.getD_some, reported, written]; rfl⟩
  obtain ⟨t, part⟩ := lower
  have upper : ∃ t, upperPart coloured e = .ok t := upperWritten fun f member => (writes f member).1
  obtain ⟨u, whole⟩ := upper
  exact ⟨_, by rw [console, whole, part]; rfl⟩

end Console

theorem recordWritten {bound : Fields Value} {renderer : Renderer} (writes : ∀ f ∈ bound, renderer.Writes f)
    (now : String) (r : Record) : ∃ line, (ofRecord bound now r).render renderer = .ok line := by
  have all : ∀ f ∈ ofRecord bound now r, renderer.Writes f := by
    intro f member
    rcases ofRecordMember member with outer | ⟨name, text, rfl⟩
    · exact writes f outer
    · exact textWritten renderer name text
  cases renderer with
  | json => exact (jsonWritten _).mpr all
  | console coloured => exact consoleWritten all

end Event
end Logging
end Perhaps
