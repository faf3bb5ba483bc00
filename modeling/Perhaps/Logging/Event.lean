import Perhaps.Fields
import Perhaps.Logging.Level
import Perhaps.Text.Json

/-! Events as lines: fields in order, written as one JSON object or for a console. Bound variables are
added where their names are free; the fields that tell what happened, where, how grave and when are
the event's own. An event with a field that cannot be written is not written at all. -/
namespace Perhaps.Logging

abbrev Event := Fields Value

inductive Renderer where
  | json
  | console (coloured : Bool)
  deriving DecidableEq, Repr

def levelWord (level : Int) : String := (levelLabel level).map Char.toLower

namespace Event

/- Names that a record's event keeps for itself, so that no bound variable can take them. -/
def keptNames : List String := ["event", "_record", "_from_structlog"]

def ofRecord (bound : Fields Value) (now : String) (r : Record) : Event :=
  let free := bound.filter fun b => !keptNames.contains b.1
  ((Fields.put "timestamp" (.str now) <| Fields.put "level" (.str (levelWord r.level)) <|
    Fields.put "logger" (.str r.logger) <|
    free.foldl (fun e b => Fields.putIfAbsent b.1 b.2 e) [("event", .str r.text)]))

def escape (coloured : Bool) (code : String) : List Char :=
  if coloured then '\x1b' :: '[' :: code.toList ++ ['m'] else []

def reset (coloured : Bool) : List Char := escape coloured "0"
def bright (coloured : Bool) : List Char := escape coloured "1"

def pad (width : Nat) (s : List Char) : List Char := s ++ List.replicate (width - s.length) ' '

def levelColour? (level : List Char) : Option String :=
  if level = "debug".toList ∨ level = "info".toList then some "32"
  else if level = "warning".toList then some "33"
  else if level = "error".toList ∨ level = "critical".toList then some "31"
  else none

def levelStyle (coloured : Bool) (level : List Char) : List Char :=
  match levelColour? level with
  | some code => escape coloured code ++ bright coloured
  | none => []

/- A value on the console: text stands bare unless it has blanks, quotes or an equals sign in it. -/
def consoleValue : Value → Except Cause (List Char)
  | .str s =>
    .ok <| if s.toList.any fun c => [' ', '\t', '=', '\r', '\n', '"', '\''].contains c
      then Text.quoted s.toList else s.toList
  | v => v.written Value.literal

def plainColumn (form : List Char → List Char) (v : Value) : Except Cause (List Char) :=
  v.written fun v => form v.plain

def loggerColumn (coloured : Bool) : Value → Except Cause (List Char) :=
  plainColumn fun text => '[' :: reset coloured ++ bright coloured ++ escape coloured "34" ++ text ++
    reset coloured ++ ']' :: reset coloured

def pairColumn (coloured : Bool) (name : String) (v : Value) : Except Cause (List Char) :=
  (consoleValue v).map fun text => escape coloured "36" ++ name.toList ++ reset coloured ++
    '=' :: escape coloured "35" ++ text ++ reset coloured

/- The columns with a place of their own, in the order of their places. A field without a name comes first. -/
def columns (coloured : Bool) : List (String × (Value → Except Cause (List Char))) :=
  [ ("", pairColumn coloured ""),
    ("timestamp", plainColumn fun text => escape coloured "2" ++ text ++ reset coloured),
    ("level", plainColumn fun text => '[' :: levelStyle coloured text ++ pad 9 text ++ reset coloured ++ [']']),
    ("event", plainColumn fun text => bright coloured ++ pad 30 text ++ reset coloured),
    ("logger", loggerColumn coloured),
    ("logger_name", loggerColumn coloured) ]

def insertSorted (f : String × Value) : Event → Event
  | [] => [f]
  | g :: gs => if f.1 < g.1 then f :: g :: gs else g :: insertSorted f gs

def dropSpaces (s : List Char) : List Char := (s.reverse.dropWhile (· == ' ')).reverse

def apart : List String := ["exc_info", "stack", "exception"]

/- The error that a field tells of: the error itself, or a triple of a class, an error and no trace. -/
def reported? : Value → Option Fault
  | .error kind args _ | .tuple [.errorClass _, .error kind args _, .absent] => some ⟨kind, args⟩
  | _ => none

def detail (f : Fault) : Except Cause (List Char) :=
  if f.kind.isSyntax then
    if (f.args.headD .absent).truth then f.value.written Value.plain else .ok (word "<no detail available>")
  else .ok (if f.value.isTooLong then word "<exception str() failed>" else f.value.plain)

def report (f : Fault) : Except Cause (List Char) :=
  (detail f).map fun text => f.kind.qualifier.toList ++ f.kind.name.toList ++
    match text with
    | [] => []
    | text => ':' :: ' ' :: text

def below : Option Value → Except Cause (List Char)
  | none | some .absent => .ok []
  | some (.str s) => .ok ('\n' :: s.toList)
  | some v => .error (.notConcatenable v.typeName)

def divider : List Char := '\n' :: '\n' :: List.replicate 79 '=' ++ ['\n']

def isGiven (e : Event) (name : String) : Bool := ((e.get? name).bind Value.toOption).isSome

/- What is written below the columns: the text of a stack, divided from any error, then the report of
the error, or the text that stands in for it. -/
def lowerPart (e : Event) : Except Cause (List Char) := do
  let stack ← below (e.get? "stack")
  let told := (e.get? "exc_info").getD .absent
  let divided := isGiven e "stack" && (told.truth || isGiven e "exception")
  let error ← match reported? told with
    | some f => (report f).map fun text => '\n' :: text
    | none => below (e.get? "exception")
  return stack ++ (if divided then divider else []) ++ error

def upperPart (coloured : Bool) (e : Event) : Except Cause (List Char) := do
  let columns := columns coloured
  let placed ← (columns.filterMap fun c => (e.get? c.1).map c.2).mapM id
  let others := e.filter fun f => !apart.contains f.1 && !(columns.map Prod.fst).contains f.1
  let pairs ← (others.foldl (fun fs f => insertSorted f fs) []).mapM fun f => pairColumn coloured f.1 f.2
  return dropSpaces (List.intercalate [' '] (placed ++ pairs))

def console (coloured : Bool) (e : Event) : Except Cause (List Char) := do
  let upper ← upperPart coloured e
  let lower ← lowerPart e
  return upper ++ lower

def json (e : Event) : Except Cause (List Char) :=
  (Value.dict (e.map fun f => (.str f.1, f.2))).json

def render (e : Event) : Renderer → Except Cause (List Char)
  | .json => e.json
  | .console coloured => e.console coloured

end Event

inductive Method where
  | debug | info | msg | warning | warn | error | exception | critical | fatal
  deriving DecidableEq, Repr

namespace Method

def level : Method → LevelName
  | .debug => .debug
  | .info | .msg => .info
  | .warning | .warn => .warning
  | .error | .exception => .error
  | .critical | .fatal => .critical

/- The name that a method shows where its arguments are refused; what is not shown is not looked at. -/
def refusingName (m : Method) (shown : Bool) : String :=
  if m = .exception then "exception"
  else if shown then "_make_filtering_bound_logger.<locals>.make_method.<locals>.meth"
  else "_nop"

def repeatedArgument? (m : Method) (shown : Bool) (names : List String) : Option Cause :=
  match names.find? fun name => name = "self" || name = "event" with
  | some name => some (.repeatedArgument (m.refusingName shown) name)
  | none =>
    if shown && names.contains "method_name" then
      some (.repeatedArgument "BoundLoggerBase._proxy_to_logger" "method_name")
    else none

end Method

/- The event of a structured call: its own fields, what it says if anything, the bound variables whose
names are free, the level and the time. -/
def Event.ofCall (bound : Fields Value) (now : String) (m : Method) (text : Value)
    (fields : List (String × Value)) : Event :=
  let own := Fields.ofAssignments fields
  let own := if m = .exception then own.putIfAbsent "exc_info" (.bool true) else own
  let said := match text with
    | .absent => own
    | text => own.put "event" text
  let merged := bound.foldl (fun e b => Fields.putIfAbsent b.1 b.2 e) said
  ((merged.put "level" (.str (levelWord m.level.number))).erase "stack_info").put "timestamp" (.str now)

end Perhaps.Logging
