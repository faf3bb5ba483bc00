import Perhaps.Settings.EnvFile
import Perhaps.Settings.Validation

/-! Settings of the log output. Each field is taken from the first source that supplies it: arguments,
environment, file, default. Only that value is validated, and every field whose value is refused is
reported. Of names that differ in case alone the first argument and the last variable count. -/
namespace Perhaps

structure Settings where
  logLevel : Logging.LevelName
  jsonLogs : Bool
  deriving DecidableEq, Repr

namespace Settings

def literal (s : Settings) : String :=
  String.join ["PresenceSettings(log_level='", s.logLevel.name, "', json_logs=",
    if s.jsonLogs then "True" else "False", ")"]

structure Sources where
  arguments : Fields Value
  environment : List (String × String)
  file : Option String

def firstNamed {β : Type} (fields : Fields β) (name : String) : Option β :=
  (fields.find? fun f => f.1.map Char.toLower = name).map Prod.snd

def lastNamed {β : Type} (fields : Fields β) (name : String) : Option β := firstNamed fields.reverse name

namespace Sources

/- The environment with each variable set once, to the last value it was given. -/
def visible (s : Sources) : Fields String := Fields.ofAssignments s.environment

def fromEnvironment? (s : Sources) (f : Field) : Option Value :=
  (lastNamed s.visible f.variableName).map Value.str

def fromFile? (s : Sources) (f : Field) : Option Value := do
  let text ← s.file
  let value ← lastNamed (EnvFile.assigned s.visible text) f.variableName
  value.map Value.str

def value (s : Sources) (f : Field) : Value :=
  match firstNamed s.arguments f.name with
  | some v => v
  | none =>
    match s.fromEnvironment? f with
    | some v => v
    | none => (s.fromFile? f).getD f.default

def warnings (s : Sources) : List Logging.Record :=
  (s.file.map EnvFile.malformedLines).getD [] |>.map fun line =>
    ⟨Logging.LevelName.warning.number, "dotenv.main",
      String.join ["python-dotenv could not parse statement starting at line ", toString line]⟩

end Sources

/- Validates the two raw values and reports every problem, that of the level first. -/
def validate (logLevel jsonLogs : Value) : Except (List Issue) Settings :=
  match validateLogLevel logLevel, validateJsonLogs jsonLogs with
  | .ok l, .ok j => .ok ⟨l, j⟩
  | .error p, .ok _ => .error [⟨.logLevel, p, logLevel⟩]
  | .ok _, .error q => .error [⟨.jsonLogs, q, jsonLogs⟩]
  | .error p, .error q => .error [⟨.logLevel, p, logLevel⟩, ⟨.jsonLogs, q, jsonLogs⟩]

def load (s : Sources) : Except (List Issue) Settings := validate (s.value .logLevel) (s.value .jsonLogs)

def report (issues : List Issue) : String := "\n".intercalate (issues.map Issue.line)

end Settings
end Perhaps
