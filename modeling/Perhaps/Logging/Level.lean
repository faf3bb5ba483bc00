import Perhaps.Text.Blank
import Perhaps.Text.UpperCase

/-! Log levels. Eight names stand for six numbers. A setting may name a level in any case and with white
space around it; a caller who configures logging directly gets `INFO` for a name that is none. -/
namespace Perhaps.Logging

inductive LevelName where
  | critical | fatal | error | warn | warning | info | debug | notset
  deriving DecidableEq, Repr

namespace LevelName

def all : List LevelName := [.critical, .fatal, .error, .warn, .warning, .info, .debug, .notset]

def name : LevelName → String
  | .critical => "CRITICAL"
  | .fatal => "FATAL"
  | .error => "ERROR"
  | .warn => "WARN"
  | .warning => "WARNING"
  | .info => "INFO"
  | .debug => "DEBUG"
  | .notset => "NOTSET"

def number : LevelName → Int
  | .critical | .fatal => 50
  | .error => 40
  | .warn | .warning => 30
  | .info => 20
  | .debug => 10
  | .notset => 0

def ofName? (s : List Char) : Option LevelName := all.find? fun l => l.name.toList == s

theorem nameRead (l : LevelName) : ofName? l.name.toList = some l := by cases l <;> rfl

def ofSetting? (s : List Char) : Option LevelName := ofName? (Text.upper (Text.strip s))

end LevelName

def levelLabel (level : Int) : String :=
  if level = 50 then "CRITICAL"
  else if level = 40 then "ERROR"
  else if level = 30 then "WARNING"
  else if level = 20 then "INFO"
  else if level = 10 then "DEBUG"
  else if level = 0 then "NOTSET"
  else String.join ["Level ", toString level]

structure Record where
  level : Int
  logger : String
  text : String
  deriving DecidableEq, Repr

def Record.line (r : Record) : String := levelLabel r.level ++ " " ++ r.logger ++ " " ++ r.text

end Perhaps.Logging
