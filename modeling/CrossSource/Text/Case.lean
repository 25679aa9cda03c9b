import CrossSource.Text.CaseTable

/-!
# Small and capital forms

`lower` and `upper` map a text character by character with the full case mappings of Unicode, in
no particular language. A character may become several, and a capital sigma at the end of a word
becomes the final small sigma. `lowerAscii` touches the letters A to Z only.
-/

namespace CrossSource.Text

/-- Whether a code point lies in one of the ranges. -/
def within (ranges : List (Nat × Nat)) (n : Nat) : Bool :=
  ranges.any fun r => r.1 ≤ n && n ≤ r.2

namespace Run

def covers (r : Run) (n : Nat) : Bool :=
  r.first ≤ n && n ≤ r.last && (n - r.first) % r.step == 0

/-- The form of a code point that the run covers. -/
def apply (r : Run) (n : Nat) : Nat := (n + r.shift).toNat

end Run

/-- The mapped form of a character by a table of runs and a table of longer forms. -/
def mapChar (runs : List Run) (long : List (Nat × List Nat)) (c : Char) : List Char :=
  match long.lookup c.toNat with
  | some ns => ns.map Char.ofNat
  | none =>
    match runs.find? (·.covers c.toNat) with
    | some r => [Char.ofNat (r.apply c.toNat)]
    | none => [c]

/-- The small form of a character, whatever stands around it. -/
def lowerChar (c : Char) : List Char :=
  if c.toNat < 128 then [c.toLower] else mapChar CaseTable.lower CaseTable.lowerLong c

/-- The capital form of a character. -/
def upperChar (c : Char) : List Char :=
  if c.toNat < 128 then [c.toUpper] else mapChar CaseTable.upper CaseTable.upperLong c

/-- Whether the nearest character that is not passed over is a cased letter. -/
def reachesLetter (cs : List Char) : Bool :=
  match cs.dropWhile fun c => within CaseTable.ignorable c.toNat with
  | [] => false
  | c :: _ => within CaseTable.cased c.toNat

/-- The small forms of `rest`, where `before` holds the characters in front of it, nearest first.
A sigma is final where a letter stands before it and none after it. -/
def lowerFrom (before : List Char) : List Char → List Char
  | [] => []
  | c :: rest =>
    let small :=
      if c = 'Σ' then
        if reachesLetter before && !reachesLetter rest then ['ς'] else ['σ']
      else lowerChar c
    small ++ lowerFrom (c :: before) rest

/-- The text in small letters. -/
def lower (s : String) : String := String.ofList (lowerFrom [] s.toList)

/-- The text in capitals. -/
def upper (s : String) : String := String.ofList (s.toList.flatMap upperChar)

/-- The text with the letters A to Z made small. -/
def lowerAscii (s : String) : String := String.ofList (s.toList.map Char.toLower)

end CrossSource.Text
