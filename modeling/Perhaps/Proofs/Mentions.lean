import Perhaps.Program.Evaluation
import Perhaps.Proofs.Everywhere

/-! What a program mentions: the values and classes that it writes down and the registers that it reads, at any
depth of its callbacks. -/
namespace Perhaps.Program

mutual

def Term.within (p : Value → Bool) (r : String → Bool) : Term → Bool
  | .literal v => v.everywhere p
  | .numeral _ => true
  | .error kind _ => p (.errorClass kind)
  | .register name => r name
  | .list items => termsWithin p r items
  | .tuple items => termsWithin p r items
  | .dict entries => entriesWithin p r entries
  | .present payload => payload.within p r

def termsWithin (p : Value → Bool) (r : String → Bool) : List Term → Bool
  | [] => true
  | t :: ts => t.within p r && termsWithin p r ts

def entriesWithin (p : Value → Bool) (r : String → Bool) : List (Term × Term) → Bool
  | [] => true
  | (k, t) :: ts => k.within p r && t.within p r && entriesWithin p r ts

end

def optionWithin (p : Value → Bool) (r : String → Bool) (t : Option Term) : Bool := t.all (Term.within p r)

mutual

def Expr.within (p : Value → Bool) (r : String → Bool) : Expr → Bool
  | .value t | .const t | .equals t | .entry t | .item t => t.within p r
  | .raise kind _ | .error kind _ => p (.errorClass kind)
  | .chain first rest => first.within p r && exprsWithin p r rest
  | .cond predicate consequence alternative =>
    predicate.within p r && consequence.within p r && alternative.within p r
  | .perform on action => optionWithin p r on && action.within p r
  | _ => true

def exprsWithin (p : Value → Bool) (r : String → Bool) : List Expr → Bool
  | [] => true
  | e :: es => e.within p r && exprsWithin p r es

def Action.within (p : Value → Bool) (r : String → Bool) : Action → Bool
  | .value t | .of t | .ofNullable t | .orElse t | .equals t | .differs t | .equalsMethod t | .compare _ t
  | .setField _ t | .assertPresentValue t => t.within p r
  | .ifPresent e | .filter e | .map e | .flatMap e | .orElseGet e | .orElseThrow e => e.within p r
  | .distinct ts => termsWithin p r ts
  | .assertPresent t | .assertEmpty t => optionWithin p r t
  | _ => true

end

def Step.within (p : Value → Bool) (r : String → Bool) (s : Step) : Bool :=
  optionWithin p r s.on && s.action.within p r

section
variable {p : Value → Bool} {r : String → Bool}

mutual

theorem termWithin (all : ∀ v, p v = true) (reads : ∀ name, r name = true) : (t : Term) → t.within p r = true
  | .literal v => by rw [Term.within]; exact Value.everywhereAll all v
  | .numeral _ => by rw [Term.within]
  | .error kind _ => by rw [Term.within]; exact all _
  | .register name => by rw [Term.within]; exact reads name
  | .list items => by rw [Term.within]; exact allTermsWithin all reads items
  | .tuple items => by rw [Term.within]; exact allTermsWithin all reads items
  | .dict entries => by rw [Term.within]; exact allEntriesWithin all reads entries
  | .present payload => by rw [Term.within]; exact termWithin all reads payload

theorem allTermsWithin (all : ∀ v, p v = true) (reads : ∀ name, r name = true) :
    (ts : List Term) → termsWithin p r ts = true
  | [] => by rw [termsWithin]
  | t :: ts => by rw [termsWithin, termWithin all reads t, allTermsWithin all reads ts, Bool.and_self]

theorem allEntriesWithin (all : ∀ v, p v = true) (reads : ∀ name, r name = true) :
    (ts : List (Term × Term)) → entriesWithin p r ts = true
  | [] => by rw [entriesWithin]
  | (k, t) :: ts => by
    rw [entriesWithin, termWithin all reads k, termWithin all reads t, allEntriesWithin all reads ts]
    rfl

end

theorem optionalWithin (all : ∀ v, p v = true) (reads : ∀ name, r name = true) (t : Option Term) :
    optionWithin p r t = true := by
  cases t with
  | none => rfl
  | some t => exact termWithin all reads t

mutual

theorem exprWithin (all : ∀ v, p v = true) (reads : ∀ name, r name = true) : (e : Expr) → e.within p r = true
  | .value t | .const t | .equals t | .entry t | .item t => by rw [Expr.within]; exact termWithin all reads t
  | .raise kind _ | .error kind _ => by rw [Expr.within]; exact all _
  | .chain first rest => by
    rw [Expr.within, exprWithin all reads first, allExprsWithin all reads rest, Bool.and_self]
  | .cond predicate consequence alternative => by
    rw [Expr.within, exprWithin all reads predicate, exprWithin all reads consequence,
      exprWithin all reads alternative]
    rfl
  | .perform on action => by
    rw [Expr.within, optionalWithin all reads on, actionWithin all reads action, Bool.and_self]
  | .empty | .identity | .truthy | .plain | .literal | .singleton | .of | .ofNullable | .present
  | .arithmetic _ _ | .length | .readInt | .concat _ | .count _ => by simp only [Expr.within]

theorem allExprsWithin (all : ∀ v, p v = true) (reads : ∀ name, r name = true) :
    (es : List Expr) → exprsWithin p r es = true
  | [] => by rw [exprsWithin]
  | e :: es => by rw [exprsWithin, exprWithin all reads e, allExprsWithin all reads es, Bool.and_self]

theorem actionWithin (all : ∀ v, p v = true) (reads : ∀ name, r name = true) :
    (a : Action) → a.within p r = true
  | .value t | .of t | .ofNullable t | .orElse t | .equals t | .differs t | .equalsMethod t | .compare _ t
  | .setField _ t | .assertPresentValue t => by rw [Action.within]; exact termWithin all reads t
  | .ifPresent e | .filter e | .map e | .flatMap e | .orElseGet e | .orElseThrow e => by
    rw [Action.within]
    exact exprWithin all reads e
  | .distinct ts => by rw [Action.within]; exact allTermsWithin all reads ts
  | .assertPresent t | .assertEmpty t => by rw [Action.within]; exact optionalWithin all reads t
  | .empty | .isPresent | .isEmpty | .get | .truth | .literal | .plain | .hash | .classify
  | .deleteField _ => by simp only [Action.within]

end

theorem stepWithin (all : ∀ v, p v = true) (reads : ∀ name, r name = true) (s : Step) :
    s.within p r = true := by
  rw [Step.within, optionalWithin all reads s.on, actionWithin all reads s.action, Bool.and_self]

end
end Perhaps.Program
