import CrossSource.Document.Value
import CrossSource.Number.Layout

/-!
# Writing a JSON text

`Value.json` writes a document on one line, `Value.jsonLines` over several lines with two blanks
for each level.
-/

namespace CrossSource.Document

namespace Json

/-- One character as it stands between the quotes. -/
def writeChar (c : Char) : String :=
  if c = '"' then "\\\""
  else if c = '\\' then "\\\\"
  else if c = '\x08' then "\\b"
  else if c = '\x0c' then "\\f"
  else if c = '\n' then "\\n"
  else if c = '\r' then "\\r"
  else if c = '\t' then "\\t"
  else if c.toNat < 0x20 then
    let digits := Nat.toDigits 16 c.toNat
    "\\u" ++ String.ofList (List.replicate (4 - digits.length) '0' ++ digits)
  else c.toString

def writeString (s : String) : String := "\"" ++ String.join (s.toList.map writeChar) ++ "\""

end Json

mutual
def Value.json : Value → String
  | .null => "null"
  | .bool b => if b then "true" else "false"
  | .int n => toString n
  | .float x => Number.floatText x
  | .str s => Json.writeString s
  | .arr items => "[" ++ ",".intercalate (jsonOfItems items) ++ "]"
  | .obj members => "\x7b" ++ ",".intercalate (jsonOfMembers members) ++ "\x7d"

def jsonOfItems : List Value → List String
  | [] => []
  | v :: vs => v.json :: jsonOfItems vs

def jsonOfMembers : List (String × Value) → List String
  | [] => []
  | (k, v) :: ms => (Json.writeString k ++ ":" ++ v.json) :: jsonOfMembers ms
end

namespace Json

/-- Parts on lines of their own between brackets; without parts the brackets stand together. -/
def bracketed (opening closing : String) (level : Nat) (parts : List String) : String :=
  match parts with
  | [] => opening ++ closing
  | parts =>
    let indent := "".pushn ' ' (2 * level)
    let separator := ",\n  " ++ indent
    opening ++ "\n  " ++ indent ++ separator.intercalate parts ++ "\n" ++ indent ++ closing

end Json

mutual
/-- The lines of a document that stands inside `level` lists and objects. -/
def Value.jsonLines (level : Nat) : Value → String
  | .null => "null"
  | .bool b => if b then "true" else "false"
  | .int n => toString n
  | .float x => Number.floatText x
  | .str s => Json.writeString s
  | .arr items => Json.bracketed "[" "]" level (linesOfItems (level + 1) items)
  | .obj members => Json.bracketed "\x7b" "\x7d" level (linesOfMembers (level + 1) members)

def linesOfItems (level : Nat) : List Value → List String
  | [] => []
  | v :: vs => v.jsonLines level :: linesOfItems level vs

def linesOfMembers (level : Nat) : List (String × Value) → List String
  | [] => []
  | (k, v) :: ms => (Json.writeString k ++ ": " ++ v.jsonLines level) :: linesOfMembers level ms
end

end CrossSource.Document
