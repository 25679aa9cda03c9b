import CrossSource.Text.Case
import CrossSource.Text.DisplayTable

/-!
# Quoted text in messages

A text in a message stands between double quotes. Quote, backslash, tab, line ends and the null
character are escaped by a letter; characters that combine with their neighbour or have no
visible form are spelled by their code point.
-/

namespace CrossSource.Text

/-- The code point in hexadecimal, between braces. -/
def spellCode (c : Char) : String :=
  "\\u\x7b" ++ String.ofList (Nat.toDigits 16 c.toNat) ++ "\x7d"

/-- One character as it stands between the quotes. -/
def quoteChar (c : Char) : String :=
  if c = '\x00' then "\\0"
  else if c = '\t' then "\\t"
  else if c = '\r' then "\\r"
  else if c = '\n' then "\\n"
  else if c = '\\' then "\\\\"
  else if c = '"' then "\\\""
  else if within DisplayTable.extending c.toNat || within DisplayTable.invisible c.toNat then
    spellCode c
  else c.toString

/-- The text between double quotes. -/
def quoted (s : String) : String :=
  "\"" ++ String.join (s.toList.map quoteChar) ++ "\""

end CrossSource.Text
