import Perhaps.Cause

/-! Building errors from their kinds. The container's kinds put their default message in place of a
missing one; a few standard kinds cannot be built from few arguments. -/
namespace Perhaps

def ContainerError.fault (kind : ContainerError) (message : Value) : Fault :=
  ⟨.container kind, [match message with
    | .absent => .str kind.defaultMessage
    | m => m]⟩

def ContainerError.forArgument (argument : String) : Fault :=
  ContainerError.nullValue.fault (.str (argument ++ " must not be None"))

def ErrorKind.build (kind : ErrorKind) (args : List Value) : Except Fault Fault :=
  match kind with
  | .container k => .ok (k.fault (args.headD .absent))
  | .standard k =>
    match k.requiredArguments with
    | some n => if args.length = n then .ok ⟨kind, args⟩ else .error (Cause.tooFewArguments k n args.length).fault
    | none => .ok ⟨kind, args⟩
  | .frozenInstance => .ok ⟨kind, args⟩

theorem ErrorKind.buildKind {kind : ErrorKind} {args : List Value} {f : Fault}
    (built : kind.build args = .ok f) : f.kind = kind := by
  cases kind with
  | container k => cases built; rfl
  | frozenInstance => cases built; rfl
  | standard k =>
    simp only [build] at built
    split at built
    · split at built
      · cases built; rfl
      · contradiction
    · cases built; rfl

theorem ErrorKind.buildRefused {kind : ErrorKind} {args : List Value} {f : Fault}
    (refused : kind.build args = .error f) :
    ∃ k required, f = (Cause.tooFewArguments k required args.length).fault := by
  cases kind with
  | container k => contradiction
  | frozenInstance => contradiction
  | standard k =>
    simp only [build] at refused
    split at refused
    · split at refused
      · contradiction
      · cases refused; exact ⟨k, _, rfl⟩
    · contradiction

/- An error with at most one argument, as programs write it: without a message there is no argument. -/
def ErrorKind.buildWithMessage (kind : ErrorKind) (message : Option String) : Except Fault Fault :=
  kind.build (message.map Value.str).toList

end Perhaps
