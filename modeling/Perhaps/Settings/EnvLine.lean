import Perhaps.Text.Blank

/-! One line of a file of variable assignments, `NAME=value`. It may begin with `export`; a value may
stand in quotes, which may hold escapes and line ends, and is otherwise the rest of the line up to a
comment. A name without `=` has no value. -/
namespace Perhaps.Settings.EnvFile

open Text (isBlank stripEnd)

structure Binding where
  name : String
  value : Option (List Char)
  deriving DecidableEq, Repr

inductive Statement where
  | binding (b : Binding)
  | comment
  | malformed
  deriving DecidableEq, Repr

def isInlineBlank (c : Char) : Bool := isBlank c && c != '\n' && c != '\r'

def afterLine (s : List Char) : List Char := (s.dropWhile (· != '\n')).drop 1

def skipExport (s : List Char) : List Char :=
  let word := "export".toList
  let rest := s.drop word.length
  if word.isPrefixOf s && (rest.head?.map isInlineBlank).getD false then rest.dropWhile isInlineBlank else s

/- The text up to a closing quote, escapes left as they are, and what follows the quote. The character
after a backslash closes nothing. -/
def upToQuote (quote : Char) : List Char → Option (List Char × List Char)
  | [] => none
  | '\\' :: c :: s => (upToQuote quote s).map fun (body, rest) => ('\\' :: c :: body, rest)
  | c :: s =>
    if c = quote then some ([], s)
    else (upToQuote quote s).map fun (body, rest) => (c :: body, rest)

def doubleQuoteEscapes : List (Char × Char) :=
  [('\\', '\\'), ('\'', '\''), ('"', '"'), ('a', '\x07'), ('b', '\x08'), ('f', '\x0c'), ('n', '\n'),
    ('r', '\r'), ('t', '\t'), ('v', '\x0b')]

def singleQuoteEscapes : List (Char × Char) := [('\\', '\\'), ('\'', '\'')]

def unescape (escapes : List (Char × Char)) : List Char → List Char
  | '\\' :: c :: s =>
    match escapes.lookup c with
    | some d => d :: unescape escapes s
    | none => '\\' :: unescape escapes (c :: s)
  | c :: s => c :: unescape escapes s
  | [] => []

/- An unquoted value without the comment at its end, which is set off by white space. -/
def cutComment : List Char → List Char
  | [] => []
  | c :: s => if isBlank c && (s.dropWhile isBlank).head? == some '#' then [] else c :: cutComment s

def readValue : List Char → Option (List Char × List Char)
  | '\'' :: s => (upToQuote '\'' s).map fun (body, rest) => (unescape singleQuoteEscapes body, rest)
  | '"' :: s => (upToQuote '"' s).map fun (body, rest) => (unescape doubleQuoteEscapes body, rest)
  | s =>
    let line := s.takeWhile (· != '\n')
    some (stripEnd (cutComment line), s.dropWhile (· != '\n'))

def isNameChar (c : Char) : Bool := c != '=' && c != '#' && !isBlank c

def readName : List Char → Option (List Char × List Char)
  | '\'' :: s =>
    match s.takeWhile (· != '\''), s.dropWhile (· != '\'') with
    | c :: name, _ :: rest => some (c :: name, rest)
    | _, _ => none
  | s =>
    match s.takeWhile isNameChar with
    | [] => none
    | c :: name => some (c :: name, s.dropWhile isNameChar)

def skipComment (s : List Char) : List Char :=
  match s.dropWhile isInlineBlank with
  | '#' :: rest => rest.dropWhile (· != '\n')
  | _ => s

def endLine (said : Statement) (s : List Char) : Statement × List Char :=
  let s := skipComment s
  match s.dropWhile isInlineBlank with
  | [] => (said, [])
  | '\n' :: rest => (said, rest)
  | _ => (.malformed, afterLine s)

def readAssigned (name : String) (s : List Char) : Statement × List Char :=
  match readValue s with
  | none => (.malformed, afterLine s)
  | some (value, rest) => endLine (.binding ⟨name, some value⟩) rest

def startsComment (s : List Char) : Bool :=
  (s.head?.map isInlineBlank).getD false && (s.dropWhile isInlineBlank).head? == some '#'

/- Reads what follows a name: an equals sign and a value, which is empty before a comment, or neither. -/
def readRest (name : String) (s : List Char) : Statement × List Char :=
  match s.dropWhile isInlineBlank with
  | '=' :: t =>
    if startsComment t then endLine (.binding ⟨name, some []⟩) t
    else readAssigned name (t.dropWhile isInlineBlank)
  | t => endLine (.binding ⟨name, none⟩) t

def readNamed (s : List Char) : Statement × List Char :=
  if s.head? = some '#' then endLine .comment s
  else
    match readName s with
    | none => (.malformed, afterLine s)
    | some (name, rest) => readRest (String.ofList name) rest

def readLine (s : List Char) : Statement × List Char := readNamed (skipExport s)

end Perhaps.Settings.EnvFile
