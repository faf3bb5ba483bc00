import Perhaps.Value.Written

/-! Values as JSON text in ASCII, on one line. A tuple is written as an array; a value without a form in
JSON is written as the text of its literal form; a name in an object is text or a plain scalar. A whole number
beyond the limit of digits is written nowhere. -/
namespace Perhaps

namespace Text

def escapeUnit (n : Nat) : List Char := '\\' :: 'u' :: hex 4 n

/- A character within a JSON string: printable ASCII as itself, all else escaped, a character
beyond the basic plane as a pair of surrogates. -/
def escapeJsonChar (c : Char) : List Char :=
  if c = '"' then ['\\', '"']
  else if c = '\\' then ['\\', '\\']
  else if c = '\n' then ['\\', 'n']
  else if c = '\r' then ['\\', 'r']
  else if c = '\t' then ['\\', 't']
  else if c = '\x08' then ['\\', 'b']
  else if c = '\x0c' then ['\\', 'f']
  else if 0x20 ≤ c.toNat ∧ c.toNat < 0x7f then [c]
  else if c.toNat < 0x10000 then escapeUnit c.toNat
  else
    let n := c.toNat - 0x10000
    escapeUnit (0xd800 + n / 0x400) ++ escapeUnit (0xdc00 + n % 0x400)

def jsonString (s : List Char) : List Char := '"' :: s.flatMap escapeJsonChar ++ ['"']

end Text

namespace Double

def json : Double → List Char
  | nan _ => "NaN".toList
  | infinity s => signText s ++ "Infinity".toList
  | x => x.text

end Double

namespace Value

def jsonName : Value → Except Cause (List Char)
  | absent => .ok (word "null")
  | bool b => .ok (word (if b then "true" else "false"))
  | int n => (int n).written literal
  | float x => .ok x.json
  | str s => .ok s.toList
  | v => .error (.unwritableKey v.typeName)

mutual

def json : Value → Except Cause (List Char)
  | absent => .ok (word "null")
  | bool b => .ok (word (if b then "true" else "false"))
  | int n => (int n).written literal
  | float x => .ok x.json
  | str s => .ok (Text.jsonString s.toList)
  | list items => do return '[' :: commaSeparated (← jsonItems items) ++ [']']
  | tuple items => do return '[' :: commaSeparated (← jsonItems items) ++ [']']
  | dict entries => do return '\x7b' :: commaSeparated (← jsonMembers entries) ++ ['\x7d']
  | v => v.written fun v => Text.jsonString v.literal

def jsonItems : List Value → Except Cause (List (List Char))
  | [] => .ok []
  | v :: vs => do return (← v.json) :: (← jsonItems vs)

def jsonMembers : List (Value × Value) → Except Cause (List (List Char))
  | [] => .ok []
  | (k, v) :: es => do
    let name ← k.jsonName
    return (Text.jsonString name ++ ':' :: ' ' :: (← v.json)) :: (← jsonMembers es)

end

end Value
end Perhaps
