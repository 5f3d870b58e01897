/-
# JSON values and their text

Documents that are written have no fractions: numbers in them are whole. There
are two layouts of the same grammar, one on a single line without blanks and
one with a line for each item, indented by two blanks for each open bracket.
Only the quote mark, the backslash and control characters are escaped.
-/

namespace NetTopology

/-- A JSON value whose numbers are whole. -/
inductive Json where
  /-- The null value. -/
  | null
  /-- A truth value. -/
  | bool (value : Bool)
  /-- A whole number. -/
  | int (value : Int)
  /-- A text. -/
  | str (value : String)
  /-- An array. -/
  | arr (items : List Json)
  /-- An object, its members in the order of writing. -/
  | obj (members : List (String × Json))
  deriving Inhabited

namespace Json

/-- A text or null. -/
def ofText? : Option String → Json
  | none => null
  | some text => str text

/-- A hexadecimal digit in lower case. -/
def hexDigit (value : Nat) : Char :=
  if value < 10 then Char.ofNat ('0'.toNat + value) else Char.ofNat ('a'.toNat + (value - 10))

/-- One character as it stands between quote marks. -/
def escaped (c : Char) : List Char :=
  if c = '"' then ['\\', '"']
  else if c = '\\' then ['\\', '\\']
  else if c = '\n' then ['\\', 'n']
  else if c = '\r' then ['\\', 'r']
  else if c = '\t' then ['\\', 't']
  else if c = '\x08' then ['\\', 'b']
  else if c = '\x0c' then ['\\', 'f']
  else if c.toNat < 32 then
    ['\\', 'u', '0', '0', hexDigit (c.toNat / 16), hexDigit (c.toNat % 16)]
  else [c]

/-- A text between quote marks. -/
def quoted (text : String) : String :=
  "\"" ++ String.ofList (text.toList.flatMap escaped) ++ "\""

/-- A new line, indented for the given number of open brackets. -/
def newline (depth : Nat) : String :=
  "\n" ++ String.ofList (List.replicate (2 * depth) ' ')

mutual

/-- A value on one line. -/
def compact : Json → String
  | null => "null"
  | bool value => if value then "true" else "false"
  | int value => toString value
  | str value => quoted value
  | arr items => "[" ++ compactItems items ++ "]"
  | obj members => "\x7b" ++ compactMembers members ++ "\x7d"

def compactItems : List Json → String
  | [] => ""
  | [item] => compact item
  | item :: rest => compact item ++ "," ++ compactItems rest

def compactMembers : List (String × Json) → String
  | [] => ""
  | [(name, value)] => quoted name ++ ":" ++ compact value
  | (name, value) :: rest => quoted name ++ ":" ++ compact value ++ "," ++ compactMembers rest

end

mutual

/-- A value with a line for each item, inside `depth` open brackets. -/
def pretty (depth : Nat) : Json → String
  | null => "null"
  | bool value => if value then "true" else "false"
  | int value => toString value
  | str value => quoted value
  | arr [] => "[]"
  | arr (item :: rest) => "[" ++ prettyItems (depth + 1) (item :: rest) ++ newline depth ++ "]"
  | obj [] => "\x7b\x7d"
  | obj (member :: rest) =>
    "\x7b" ++ prettyMembers (depth + 1) (member :: rest) ++ newline depth ++ "\x7d"

/-- Items with a line for each of them. -/
def prettyItems (depth : Nat) : List Json → String
  | [] => ""
  | [item] => newline depth ++ pretty depth item
  | item :: rest => newline depth ++ pretty depth item ++ "," ++ prettyItems depth rest

/-- Members with a line for each of them. -/
def prettyMembers (depth : Nat) : List (String × Json) → String
  | [] => ""
  | [(name, value)] => newline depth ++ quoted name ++ ": " ++ pretty depth value
  | (name, value) :: rest =>
    newline depth ++ quoted name ++ ": " ++ pretty depth value ++ "," ++ prettyMembers depth rest

end

end Json

end NetTopology
