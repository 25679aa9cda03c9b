import CrossSource.Calendar
import CrossSource.Text.Blank
import CrossSource.Text.Case

/-!
# Instants and their text

An instant is a count of seconds since 1970-01-01T00:00:00Z and of nanoseconds within the second.
In a leap second the count of nanoseconds runs on past one billion. `Timestamp.text` writes an
instant in UTC; `Timestamp.read?` also accepts other offsets, missing zeros and blanks.
-/

namespace CrossSource

structure Timestamp where
  seconds : Int
  nanos : Nat
deriving DecidableEq, Repr

namespace Timestamp

def billion : Nat := 1000000000

/-- The day of an instant. -/
def date (t : Timestamp) : Date := Date.ofDayNumber (t.seconds / 86400)

/-- The second within the day. -/
def secondOfDay (t : Timestamp) : Nat := (t.seconds % 86400).toNat

/-- Whether a leap second is under way. -/
def isLeap (t : Timestamp) : Bool := billion ≤ t.nanos

/-- The years that dates may have, and leap seconds only at the end of a minute. -/
def InRange (t : Timestamp) : Prop :=
  Date.leastYear ≤ t.date.year ∧ t.date.year ≤ Date.greatestYear ∧ t.nanos < 2 * billion ∧
    (t.isLeap = true → t.secondOfDay % 60 = 59)

instance (t : Timestamp) : Decidable t.InRange := by unfold InRange; infer_instance

/-! ## Writing -/

/-- The fraction of a second with 0, 3, 6 or 9 digits, the fewest that lose nothing. -/
def fractionText (nanos : Nat) : String :=
  if nanos = 0 then ""
  else if nanos % 1000000 = 0 then "." ++ Number.padded 3 (nanos / 1000000)
  else if nanos % 1000 = 0 then "." ++ Number.padded 6 (nanos / 1000)
  else "." ++ Number.padded 9 nanos

def text (t : Timestamp) : String :=
  let s := t.secondOfDay
  let second := if t.isLeap then s % 60 + 1 else s % 60
  t.date.text ++ "T" ++ Number.padded 2 (s / 3600) ++ ":" ++ Number.padded 2 (s / 60 % 60) ++
    ":" ++ Number.padded 2 second ++ fractionText (t.nanos % billion) ++ "Z"

/-! ## Reading -/

/-- Why a text is no instant. -/
inductive Fault where
  | tooShort
  | badCharacter
  | outOfRange
  | tooLong
  | impossible
deriving DecidableEq, Repr

def Fault.message : Fault → String
  | tooShort => "premature end of input"
  | badCharacter => "input contains invalid characters"
  | outOfRange => "input is out of range"
  | tooLong => "trailing input"
  | impossible => "no possible date and time matching input"

/-- A step of reading takes characters off the front of a text. -/
abbrev Scan (α : Type) := StateT (List Char) (Except Fault) α

namespace Scan

def fail {α : Type} (f : Fault) : Scan α := fun _ => .error f

def blanks : Scan Unit := modify (·.dropWhile Text.isBlank)

/-- The next character has to be `c`. -/
def expect (c : Char) : Scan Unit := fun cs =>
  match cs with
  | [] => .error .tooShort
  | d :: rest => if d = c then .ok ((), rest) else .error .badCharacter

/-- A number of one digit or more, of at most `width` digits if a width is given. Its value has
to fit a signed word. -/
def number (width : Option Nat) : Scan Nat := fun cs =>
  let digits := (match width with
    | some w => cs.take w
    | none => cs).takeWhile Number.isDigit
  let n := Number.ofDigits digits
  if digits.isEmpty then .error (if cs.isEmpty then .tooShort else .badCharacter)
  else if n < Number.twoTo 63 then .ok (n, cs.drop digits.length)
  else .error .outOfRange

/-- A number of at most two digits, between bounds, after optional blanks. -/
def part (least greatest : Nat) : Scan Nat := do
  blanks
  let n ← number (some 2)
  if least ≤ n && n ≤ greatest then return n else fail .outOfRange

/-- Up to four digits, or any number of digits after a sign. -/
def signedNumber : Scan Int := fun cs =>
  match cs with
  | '-' :: rest => (fun (n, cs) => (-(n : Int), cs)) <$> number none rest
  | '+' :: rest => (fun (n, cs) => ((n : Int), cs)) <$> number none rest
  | cs => (fun (n, cs) => ((n : Int), cs)) <$> number (some 4) cs

def year : Scan Int := do
  blanks
  let y ← signedNumber
  if -Number.twoTo 31 ≤ y && y < Number.twoTo 31 then return y else fail .outOfRange

/-- A mark between two parts, with optional blanks before it. -/
def mark (c : Char) : Scan Unit := do
  blanks
  expect c

/-- The date and the time are parted by a letter or one blank. -/
def parting : Scan Unit := fun cs =>
  match cs with
  | [] => .error .tooShort
  | c :: rest => if c = 'T' || c = 't' || c = ' ' then .ok ((), rest) else .error .badCharacter

/-- A fraction of a second in nanoseconds; digits past the ninth are dropped. -/
def fraction : Scan Nat := fun cs =>
  match cs with
  | '.' :: cs =>
    match number (some 9) cs with
    | .error f => .error f
    | .ok (n, rest) =>
      .ok (n * Number.tenTo (9 - (cs.length - rest.length)), rest.dropWhile Number.isDigit)
  | cs => .ok (0, cs)

/-- Two digits of an offset, the first of which is at most `first`. -/
def offsetPart (first : Char) : Scan Nat := fun cs =>
  match cs with
  | c :: d :: rest =>
    if !Number.isDigit c || !Number.isDigit d then .error .badCharacter
    else if first < c then .error .outOfRange
    else .ok (10 * Number.digitValue c + Number.digitValue d, rest)
  | [c] => .error (if c.utf8Size < 2 then .tooShort else .badCharacter)
  | [] => .error .tooShort

/-- Hours and minutes of an offset, with optional marks between them. -/
def offsetParts : Scan Int := do
  let hours ← offsetPart '9'
  modify (·.dropWhile fun c => c == ':' || Text.isBlank c)
  let minutes ← offsetPart '5'
  return hours * 3600 + minutes * 60

/-- The offset from UTC in seconds. -/
def offset : Scan Int := fun cs =>
  if (cs.take 3).map Char.toUpper = ['U', 'T', 'C'] then .ok (0, cs.drop 3)
  else
    match cs with
    | [] => .error .tooShort
    | c :: rest =>
      if c = 'Z' || c = 'z' then .ok (0, rest)
      else if c = '+' then offsetParts rest
      else if c = '-' || c = '−' then (fun (n, cs) => (-n, cs)) <$> offsetParts rest
      else .error .badCharacter

end Scan

/-- What a text says before it is looked at as a whole. -/
structure Reading where
  date : Date
  hour : Nat
  minute : Nat
  second : Nat
  nanos : Nat
  offset : Int

namespace Reading

def scan : Scan Reading := do
  let year ← Scan.year
  Scan.mark '-'
  let month ← Scan.part 1 12
  Scan.mark '-'
  let day ← Scan.part 1 31
  Scan.parting
  let hour ← Scan.part 0 23
  Scan.mark ':'
  let minute ← Scan.part 0 59
  Scan.mark ':'
  let second ← Scan.part 0 60
  let nanos ← Scan.fraction
  Scan.blanks
  let offset ← Scan.offset
  return ⟨⟨year, month, day⟩, hour, minute, second, nanos, offset⟩

/-- The second 60 of a minute is its last one, run on. -/
def instant (r : Reading) : Timestamp :=
  let second := min r.second 59
  let seconds := r.date.dayNumber * 86400 + r.hour * 3600 + r.minute * 60 + second - r.offset
  ⟨seconds, if r.second = 60 then r.nanos + billion else r.nanos⟩

def check (r : Reading) : Except Fault Timestamp :=
  let inRange (d : Date) := Date.leastYear ≤ d.year && d.year ≤ Date.greatestYear
  if !r.date.exists? || !inRange r.date then .error .outOfRange
  else if r.offset ≤ -86400 || 86400 ≤ r.offset then .error .outOfRange
  else if !inRange r.instant.date then .error .impossible
  else .ok r.instant

end Reading

/-- The instant that a text gives. -/
def read? (s : String) : Except Fault Timestamp := do
  let (reading, rest) ← Reading.scan s.toList
  if rest.any (!Text.isBlank ·) then throw .tooLong
  reading.check

end Timestamp

end CrossSource
