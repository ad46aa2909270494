import SchemaPipeline.Json.Value

/-!
# Writing JSON text

Two layouts of one text: `compact` has no blanks at all, `pretty` puts each entry on a line of its
own under two more blanks than its container. In both, only the quote, the backslash and the
control characters of a string are escaped; every other character stands for itself.
-/

namespace SchemaPipeline.Json

/-! ## Strings -/

def hexDigit (n : Nat) : Char := Nat.digitChar n

def escapeChar (c : Char) : List Char :=
  if c = '"' then ['\\', '"']
  else if c = '\\' then ['\\', '\\']
  else if c = '\n' then ['\\', 'n']
  else if c = '\r' then ['\\', 'r']
  else if c = '\t' then ['\\', 't']
  else if c = '\x08' then ['\\', 'b']
  else if c = '\x0c' then ['\\', 'f']
  else if c.toNat < 0x20 then
    ['\\', 'u', '0', '0', hexDigit (c.toNat / 16), hexDigit (c.toNat % 16)]
  else [c]

def quoted (s : String) : String :=
  String.ofList ('"' :: (s.toList.flatMap escapeChar ++ ['"']))

def numberText : Number → String
  | .int i => toString i
  | .float x => x.text

/-! ## Compact text -/

mutual

def compact : Value → String
  | .null => "null"
  | .bool b => if b then "true" else "false"
  | .number n => numberText n
  | .string s => quoted s
  | .array [] => "[]"
  | .array (v :: rest) => "[" ++ compact v ++ compactItems rest ++ "]"
  | .object [] => "\x7b\x7d"
  | .object ((k, v) :: rest) =>
    "\x7b" ++ quoted k ++ ":" ++ compact v ++ compactMembers rest ++ "\x7d"

def compactItems : List Value → String
  | [] => ""
  | v :: rest => "," ++ compact v ++ compactItems rest

def compactMembers : List (String × Value) → String
  | [] => ""
  | (k, v) :: rest => "," ++ quoted k ++ ":" ++ compact v ++ compactMembers rest

end

/-! ## Indented text -/

/-- A line break and the blanks of a level. -/
def newline (level : Nat) : String :=
  String.ofList ('\n' :: List.replicate (2 * level) ' ')

mutual

/-- The text of a value at a level; the first line carries no blanks of its own. -/
def prettyAt (level : Nat) : Value → String
  | .null => "null"
  | .bool b => if b then "true" else "false"
  | .number n => numberText n
  | .string s => quoted s
  | .array [] => "[]"
  | .array (v :: rest) =>
    "[" ++ newline (level + 1) ++ prettyAt (level + 1) v ++ prettyItems (level + 1) rest
      ++ newline level ++ "]"
  | .object [] => "\x7b\x7d"
  | .object ((k, v) :: rest) =>
    "\x7b" ++ newline (level + 1) ++ quoted k ++ ": " ++ prettyAt (level + 1) v
      ++ prettyMembers (level + 1) rest ++ newline level ++ "\x7d"

def prettyItems (level : Nat) : List Value → String
  | [] => ""
  | v :: rest => "," ++ newline level ++ prettyAt level v ++ prettyItems level rest

def prettyMembers (level : Nat) : List (String × Value) → String
  | [] => ""
  | (k, v) :: rest =>
    "," ++ newline level ++ quoted k ++ ": " ++ prettyAt level v ++ prettyMembers level rest

end

def pretty (v : Value) : String := prettyAt 0 v

end SchemaPipeline.Json
