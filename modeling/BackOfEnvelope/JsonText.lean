import BackOfEnvelope.Json
import BackOfEnvelope.NumberText

/-!
# JSON text

Two ways to write a JSON value: `Json.compact` without any space, and
`Json.pretty` with one item or field a line, indented by two spaces a level.
Strings escape the quotation mark, the backslash and control characters, and
numbers that are not finite are written as `null`.
-/

namespace BackOfEnvelope

namespace Json

def hexDigit (n : Nat) : Char :=
  if n < 10 then Char.ofNat ('0'.toNat + n) else Char.ofNat ('a'.toNat + (n - 10))

/-- A character as it stands inside a string. -/
def escapeCharacter (c : Char) : List Char :=
  if c = '"' then ['\\', '"']
  else if c = '\\' then ['\\', '\\']
  else if c.toNat = 8 then ['\\', 'b']
  else if c.toNat = 9 then ['\\', 't']
  else if c.toNat = 10 then ['\\', 'n']
  else if c.toNat = 12 then ['\\', 'f']
  else if c.toNat = 13 then ['\\', 'r']
  else if c.toNat < 32 then ['\\', 'u', '0', '0', hexDigit (c.toNat / 16), hexDigit (c.toNat % 16)]
  else [c]

def quote (text : String) : String :=
  String.ofList ('"' :: (text.toList.flatMap escapeCharacter ++ ['"']))

def commaSeparated (pieces : List String) : String :=
  String.intercalate "," pieces

mutual

/-- The text of a value without any space. -/
def compact : Json → String
  | .null => "null"
  | .boolean value => if value then "true" else "false"
  | .integer value => toString value
  | .float value => NumberLayout.json.write value
  | .text value => quote value
  | .array items => "[" ++ commaSeparated (compactItems items) ++ "]"
  | .object fields => "\x7b" ++ commaSeparated (compactFields fields) ++ "\x7d"

/-- The texts of the items of a list. -/
def compactItems : List Json → List String
  | [] => []
  | item :: rest => compact item :: compactItems rest

/-- The texts of the fields of an object. -/
def compactFields : List (String × Json) → List String
  | [] => []
  | (name, value) :: rest => (quote name ++ ":" ++ compact value) :: compactFields rest

end

/-- The spaces in front of a line. -/
def indentation (level : Nat) : String :=
  String.ofList (List.replicate (2 * level) ' ')

/-- Pieces on lines of their own between two brackets; without pieces the
brackets stand side by side. -/
def bracketed (opening closing : String) (level : Nat) (pieces : List String) : String :=
  if pieces.isEmpty then opening ++ closing
  else
    let lines := pieces.map fun piece => indentation (level + 1) ++ piece
    opening ++ "\n" ++ String.intercalate ",\n" lines ++ "\n" ++ indentation level ++ closing

mutual

/-- The text of a value whose lines after the first are indented by `level`. -/
def prettyAt (level : Nat) : Json → String
  | .null => "null"
  | .boolean value => if value then "true" else "false"
  | .integer value => toString value
  | .float value => NumberLayout.json.write value
  | .text value => quote value
  | .array items => bracketed "[" "]" level (prettyItems (level + 1) items)
  | .object fields => bracketed "\x7b" "\x7d" level (prettyFields (level + 1) fields)

/-- The texts of the items of a list. -/
def prettyItems (level : Nat) : List Json → List String
  | [] => []
  | item :: rest => prettyAt level item :: prettyItems level rest

/-- The texts of the fields of an object. -/
def prettyFields (level : Nat) : List (String × Json) → List String
  | [] => []
  | (name, value) :: rest =>
      (quote name ++ ": " ++ prettyAt level value) :: prettyFields level rest

end

/-- The text of a value with one item or field a line. -/
def pretty (value : Json) : String :=
  prettyAt 0 value

end Json

end BackOfEnvelope
