import Perhaps.Logging.Configuration
import Perhaps.Program.Session

/-! Sessions that configure the log output while programs run. Each step answers with its result and
with the lines that it wrote; the records of the container and of the application go to standard
error, structured events to standard output. The configuration after each step is kept beside it. -/
namespace Perhaps.Logging

open Program (Instruction Registers Term)

inductive Command where
  | configure (level : Option Term) (json : Option Term)
  | applySettings (arguments : Option (List (String × Term))) (environment : List (String × String))
    (file : Option String)
  | perform (instruction : Instruction)
  | record (level : Term) (logger : Term) (message : Term)
  | call (method : Method) (text : Term) (fields : List (String × Term))
  | bind (fields : List (String × Term))
  | clear

inductive Reply where
  | done
  | settings (s : Settings) (own : Bool)
  | rejected (issues : List Settings.Issue)
  | failed (fault : Fault)
  | performed (o : Outcome Unit Value)

structure Turn where
  reply : Reply
  output : List (List Char)
  errors : List (List Char)
  configuration : Configuration
  registers : Registers

namespace Turn

def quiet (reply : Reply) (c : Configuration) (ρ : Registers) : Turn := ⟨reply, [], [], c, ρ⟩

def configured (reply : Reply) (c : Configuration) (ρ : Registers) : Except Cause Configuration → Turn
  | .ok c' => quiet reply c' ρ
  | .error e => quiet (.failed e.fault) c ρ

def withOperands {α : Type} (now : String) (c : Configuration) (ρ : Registers) (operands : Run Unit α)
    (next : α → Turn) : Turn :=
  let o := operands ()
  match o.result with
  | .ok a => next a
  | .error f => ⟨.failed f, [], o.log.flatMap (c.handle now), c, ρ⟩

end Turn

namespace Command

def loaded (now : String) (c : Configuration) (ρ : Registers) (own : Bool) (sources : Settings.Sources) :
    Turn :=
  let turn := match Settings.load sources with
    | .error issues => Turn.quiet (.rejected issues) c ρ
    | .ok s => Turn.configured (.settings s own) c ρ (c.apply s)
  { turn with errors := sources.warnings.flatMap (c.handle now) }

/- The turn of logging a record. The logger is known from then on, even if the level is refused. -/
def recorded (now : String) (c : Configuration) (ρ : Registers) (level logger message : Value) : Turn :=
  match Configuration.loggerName logger with
  | .error e => Turn.quiet (.failed e.fault) c ρ
  | .ok name =>
    let known := c.know name
    match Configuration.recordLevel level with
    | .error e => Turn.quiet (.failed e.fault) known ρ
    | .ok l => ⟨.done, [], known.handle now ⟨l, name, message.plainString⟩, known, ρ⟩

def run (now : String) (c : Configuration) (ρ : Registers) : Command → Turn
  | configure level json =>
    let operands : Run Unit (Value × Value) := do
      let l ← Term.valueOr ρ (.str LevelName.info.name) level
      let j ← Term.valueOr ρ (.bool false) json
      pure (l, j)
    Turn.withOperands now c ρ operands fun v => Turn.configured .done c ρ (c.configure v.1 v.2.truth)
  | applySettings arguments environment file =>
    Turn.withOperands now c ρ (Term.fieldValues ρ (arguments.getD [])) fun vs =>
      loaded now c ρ arguments.isSome ⟨vs, environment, file⟩
  | perform i =>
    let o := i.run ρ ()
    ⟨.performed o, [], o.log.flatMap (c.handle now), c, ρ.store i.register o.result⟩
  | record level logger message =>
    let operands : Run Unit (Value × Value × Value) := do
      let l ← level.value ρ
      let n ← logger.value ρ
      let m ← message.value ρ
      pure (l, n, m)
    Turn.withOperands now c ρ operands fun v => recorded now c ρ v.1 v.2.1 v.2.2
  | call m text fields =>
    let operands : Run Unit (Value × List (String × Value)) := do
      let t ← text.value ρ
      let vs ← Term.fieldValues ρ fields
      pure (t, vs)
    Turn.withOperands now c ρ operands fun v =>
      match c.log now m v.1 v.2 with
      | .ok lines => ⟨.done, lines, [], c, ρ⟩
      | .error e => Turn.quiet (.failed e.fault) c ρ
  | bind fields =>
    Turn.withOperands now c ρ (Term.fieldValues ρ fields) fun vs => Turn.quiet .done (c.bind vs) ρ
  | clear => Turn.quiet .done c.clear ρ

end Command

def turns (now : String) : List Command → Configuration → Registers → List Turn
  | [], _, _ => []
  | command :: rest, c, ρ =>
    let turn := command.run now c ρ
    turn :: turns now rest turn.configuration turn.registers

def Turn.writable (t : Turn) : Except Cause Turn :=
  match t.reply with
  | .performed o => (Program.writableOutcome o).map fun _ => t
  | _ => .ok t

def session (now : String) (commands : List Command) : Except Cause (List Turn) :=
  (turns now commands Configuration.initial .empty).mapM Turn.writable

end Perhaps.Logging
