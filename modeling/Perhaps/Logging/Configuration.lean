import Perhaps.Container
import Perhaps.Logging.Event
import Perhaps.Settings

/-! The configuration of the package's log output. It starts silent: the package's logger has one
handler that discards. Configuring replaces every handler of the configuration's own name by one new
handler, sets the level and stops propagation; a call that fails changes nothing. -/
namespace Perhaps.Logging

inductive Sink where
  | discard
  | write (renderer : Renderer)
  deriving DecidableEq, Repr

structure Handler where
  name : Option String
  sink : Sink
  deriving DecidableEq, Repr

namespace Handler

def ownName : String := "presence.structlog"

def isOwn (h : Handler) : Bool := h.name == some ownName

def own (r : Renderer) : Handler := ⟨some ownName, .write r⟩

/- Takes the configuration's own handlers out one at a time, in the order of a list. -/
def removedInTurn : List Handler → List Handler → List Handler
  | [], kept => kept
  | h :: hs, kept => removedInTurn hs (if h.isOwn then kept.erase h else kept)

def label (h : Handler) : String :=
  h.name.getD <| match h.sink with
    | .discard => "NullHandler"
    | .write _ => "StreamHandler"

end Handler

/- The loggers above a logger, the nearest first, all names written backwards. A logger stands below
the longest known name that ends before one of its dots; of two dots in a row only the second counts
while none is found. -/
def above (known : List (List Char)) : List Char → List (List Char)
  | '.' :: c :: rest =>
    if known.contains (c :: rest) then (c :: rest) :: above known (c :: rest) else above known rest
  | _ :: rest => above known rest
  | [] => []

/- The levels of loggers, the loggers that are known, the handlers of the package's logger, the
variables that are bound, and how structured events are written. A logger without a level of its own
has level zero. -/
structure Configuration where
  levels : Fields Int
  loggers : List String
  rootLevel : Int
  propagate : Bool
  handlers : List Handler
  bound : Fields Value
  threshold : Int
  renderer : Renderer

namespace Configuration

def packageLogger : String := "presence"

def initial : Configuration where
  levels := []
  loggers := [packageLogger, Container.logger]
  rootLevel := LevelName.warning.number
  propagate := true
  handlers := [⟨none, .discard⟩]
  bound := []
  threshold := LevelName.notset.number
  renderer := .console false

def ownLevel (c : Configuration) (logger : String) : Int := (c.levels.get? logger).getD 0

def lineage (c : Configuration) (logger : String) : List String :=
  logger :: (above (c.loggers.map fun l => l.toList.reverse) logger.toList.reverse).map fun name =>
    String.ofList name.reverse

def know (c : Configuration) (logger : String) : Configuration :=
  { c with loggers := if c.loggers.contains logger then c.loggers else logger :: c.loggers }

def loggerName : Value → Except Cause String
  | .str s => .ok s
  | v => if v.truth then .error .loggerNotText else .ok ""

def recordLevel : Value → Except Cause Int
  | .int n => .ok n
  | .bool b => .ok b.toNat
  | _ => .error .levelNotWhole

def effectiveLevel (c : Configuration) (logger : String) : Int :=
  (((c.lineage logger).map c.ownLevel).find? (· != 0)).getD c.rootLevel

/- The number of the level of a name. Besides the eight levels two other names lead somewhere, to
things that are no levels; any other name stands for `INFO`. -/
def namedLevel (s : String) : Except Cause Int :=
  let name := Text.upper s.toList
  if name = "BASIC_FORMAT".toList then .error (.missingKey (.str "%(levelname)s:%(name)s:%(message)s"))
  else if name = "_STYLES".toList then .error (.unhashable "dict")
  else .ok ((LevelName.ofName? name).getD .info).number

def levelNumber : Value → Except Cause Int
  | .str s => namedLevel s
  | .bytes bs => .error (.notAName (Value.bytes bs).typeName)
  | v => .error (Cause.noMemberOf v "upper")

def withOwnHandler (c : Configuration) (level : Int) (r : Renderer) : Configuration :=
  { c with
    levels := c.levels.put packageLogger level
    propagate := false
    handlers := Handler.removedInTurn c.handlers c.handlers ++ [Handler.own r]
    threshold := level
    renderer := r }

def configure (c : Configuration) (level : Value) (json : Bool) : Except Cause Configuration :=
  (levelNumber level).map fun n => c.withOwnHandler n (if json then .json else .console true)

def apply (c : Configuration) (s : Settings) : Except Cause Configuration :=
  c.configure (.str s.logLevel.name) s.jsonLogs

def isPackageLogger (c : Configuration) (logger : String) : Bool := (c.lineage logger).contains packageLogger

def shows (threshold level : Int) : Bool := threshold ≤ level && 0 < level

/- The line of a handler. One that cannot write an event gives no line; how it reports that is left out. -/
def written (e : Event) (h : Handler) : Option (List Char) :=
  match h.sink with
  | .discard => none
  | .write r => (e.render r).toOption

/- What is written of a record. Records of other loggers than the package's find no handler and are
written bare from the level of warnings on. -/
def handle (c : Configuration) (now : String) (r : Record) : List (List Char) :=
  if shows (c.effectiveLevel r.logger) r.level then
    if c.isPackageLogger r.logger then
      c.handlers.filterMap (written (Event.ofRecord c.bound now r))
    else if shows LevelName.warning.number r.level then [r.text.toList]
    else []
  else []

def log (c : Configuration) (now : String) (m : Method) (text : Value) (fields : List (String × Value)) :
    Except Cause (List (List Char)) :=
  let shown : Bool := c.threshold ≤ m.level.number
  match m.repeatedArgument? shown (fields.map Prod.fst) with
  | some cause => .error cause
  | none =>
    if shown then ((Event.ofCall c.bound now m text fields).render c.renderer).map fun line => [line]
    else .ok []

def bind (c : Configuration) (vs : List (String × Value)) : Configuration :=
  { c with bound := vs.foldl (fun b v => Fields.put v.1 v.2 b) c.bound }

def clear (c : Configuration) : Configuration := { c with bound := [] }

end Configuration
end Perhaps.Logging
