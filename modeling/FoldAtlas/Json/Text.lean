import FoldAtlas.Json.Basic
import FoldAtlas.Decimal.Shortest
import FoldAtlas.Text.Numeral

/-!
# Writing JSON

`Json.compact` writes a value without any space, as it travels on the wire, and
`Json.pretty` writes it for a reader, one item or member a line. Both write the
members of an object in the order in which the value holds them.

Only the quote, the backslash and the characters below the space are escaped.
-/

namespace FoldAtlas.Json

/-- Doubles are positional while the exponent of the first digit is from -5 to
15 and end in `.0` when they are integral; the sign of an exponent is always
written. -/
def doubleLayout : DecimalLayout where
  leastPositional := -5
  greatestPositional := 15
  integralEnd := ".0"
  positiveMark := "e+"
  negativeMark := "e-"

/-- The text of a number. -/
def Number.text : Number → String
  | .integer value => toString value
  | .double value => doubleLayout.writeDouble value

/-- How one character stands in a string. -/
def escapedChar (char : Char) : String :=
  if char = '\x22' then "\\\""
  else if char = '\\' then "\\\\"
  else if char = '\x08' then "\\b"
  else if char = '\x0c' then "\\f"
  else if char = '\n' then "\\n"
  else if char = '\r' then "\\r"
  else if char = '\t' then "\\t"
  else if char.toNat < 0x20 then
    "\\u00" ++ String.ofList [hexLower (char.toNat / 16), hexLower (char.toNat % 16)]
  else String.singleton char

/-- The text of a string, quotes included. -/
def stringText (value : String) : String :=
  "\"" ++ String.join (value.toList.map escapedChar) ++ "\""

mutual

/-- A value without spaces. -/
def compact : Json → String
  | .null => "null"
  | .bool value => if value then "true" else "false"
  | .number value => value.text
  | .string value => stringText value
  | .array items => "[" ++ compactItems items ++ "]"
  | .object members => "\x7b" ++ compactMembers members ++ "\x7d"

/-- Items without spaces, a comma between two. -/
def compactItems : List Json → String
  | [] => ""
  | [item] => compact item
  | item :: rest => compact item ++ "," ++ compactItems rest

/-- Members without spaces, a comma between two. -/
def compactMembers : List (String × Json) → String
  | [] => ""
  | [(name, value)] => stringText name ++ ":" ++ compact value
  | (name, value) :: rest =>
    stringText name ++ ":" ++ compact value ++ "," ++ compactMembers rest

end

/-- The blanks at the front of a line, two for each level. -/
def indentation (level : Nat) : String :=
  String.ofList (List.replicate (2 * level) ' ')

mutual

/-- A value at a nesting level, every item and member on a line of its own. -/
def prettyAt (level : Nat) : Json → String
  | .array [] => "[]"
  | .array items =>
    "[\n" ++ prettyItems (level + 1) items ++ "\n" ++ indentation level ++ "]"
  | .object [] => "\x7b\x7d"
  | .object members =>
    "\x7b\n" ++ prettyMembers (level + 1) members ++ "\n" ++ indentation level ++ "\x7d"
  | .null => "null"
  | .bool value => if value then "true" else "false"
  | .number value => value.text
  | .string value => stringText value

/-- Items at a nesting level, one a line. -/
def prettyItems (level : Nat) : List Json → String
  | [] => ""
  | [item] => indentation level ++ prettyAt level item
  | item :: rest =>
    indentation level ++ prettyAt level item ++ ",\n" ++ prettyItems level rest

/-- Members at a nesting level, one a line. -/
def prettyMembers (level : Nat) : List (String × Json) → String
  | [] => ""
  | [(name, value)] =>
    indentation level ++ stringText name ++ ": " ++ prettyAt level value
  | (name, value) :: rest =>
    indentation level ++ stringText name ++ ": " ++ prettyAt level value ++ ",\n" ++
      prettyMembers level rest

end

/-- A value for a reader, with two blanks of indentation a level. -/
def pretty (value : Json) : String := prettyAt 0 value

end FoldAtlas.Json
