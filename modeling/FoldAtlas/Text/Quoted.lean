import FoldAtlas.Text.Unmarked
import FoldAtlas.Text.Numeral

/-!
# Quoted text

Messages show text that came from outside between double quotes, so that a
reader can tell where it begins, where it ends and what is invisible in it.
Quotes and backslashes are escaped, common control characters have a letter,
and every other character without a visible mark is shown by its number.
-/

namespace FoldAtlas

/-- How one character is shown between double quotes. -/
def quotedChar (char : Char) : String :=
  if char = '\x00' then "\\0"
  else if char = '\t' then "\\t"
  else if char = '\r' then "\\r"
  else if char = '\n' then "\\n"
  else if char = '\x22' then "\\\""
  else if char = '\\' then "\\\\"
  else if isUnmarked char then "\\u\x7b" ++ hexNumeral char.toNat ++ "\x7d"
  else String.singleton char

/-- A text between double quotes. -/
def quoted (text : String) : String :=
  "\"" ++ String.join (text.toList.map quotedChar) ++ "\""

end FoldAtlas
