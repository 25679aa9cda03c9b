import CrossSource.Document.Node

/-!
# Numbers of a JSON text

Integers of at most 64 bits are kept exactly. Any other number becomes a floating-point number:
as many leading digits as fit a word of 64 bits are taken, and the result is scaled by one power of
ten.
-/

namespace CrossSource.Document.Json

open CrossSource.Number (isDigit digitValue wordBound)

/-- What a text has at its front: what a reader gets who keeps it, and the rest for one who passes
over it. -/
structure Front (α : Type) where
  kept : Except TextFault α
  rest : Except TextFault (List Char)

namespace Front

variable {α : Type}

/-- A fault for whoever reads on. -/
def fault (f : TextFault) : Front α := ⟨.error f, .error f⟩

end Front

/-- The largest power of ten that one step of scaling uses. -/
def stepLimit : Nat := 308

def powerOfTen (n : Nat) : Float := Float.ofScientific 1 false n

/-- `x * 10 ^ e`, if that is finite. Numbers that are too small come down in several steps. -/
def scaled : Nat → Float → Int → Option Float
  | 0, x, _ => some x
  | steps + 1, x, e =>
    if e.natAbs ≤ stepLimit then
      if 0 ≤ e then
        let y := x * powerOfTen e.natAbs
        if y.isFinite then some y else none
      else some (x / powerOfTen e.natAbs)
    else if x == 0 then some x
    else if 0 ≤ e then none
    else scaled steps (x / powerOfTen stepLimit) (e + stepLimit)

/-- The digits so far that fit a word, and a power of ten for them. -/
structure Digits where
  word : Nat
  exponent : Int
  full : Bool

namespace Digits

def start : Digits := ⟨0, 0, false⟩

/-- One more digit before the point. Once the word is full, digits only count. -/
def addWhole (d : Digits) (c : Char) : Digits :=
  let word := 10 * d.word + digitValue c
  if d.full || wordBound ≤ word then ⟨d.word, d.exponent + 1, true⟩ else { d with word }

/-- One more digit after the point. Once the word is full, digits are dropped. -/
def addFraction (d : Digits) (c : Char) : Digits :=
  let word := 10 * d.word + digitValue c
  if d.full || wordBound ≤ word then { d with full := true }
  else ⟨word, d.exponent - 1, false⟩

/-- The floating-point number with these digits and another power of ten. -/
def toFloat (d : Digits) (exponent : Int) : Except TextFault Float :=
  match scaled 8 (Float.ofNat d.word) (d.exponent + exponent) with
  | some x => .ok x
  | none => .error .numberRange

end Digits

/-- The parts of a number's text. -/
structure NumberText where
  negative : Bool
  whole : List Char
  fraction : Option (List Char)
  /-- The exponent, with its sign. -/
  exponent : Option (Bool × List Char)

namespace NumberText

/-- An exponent that no word of 32 bits can hold stands for any that is as large. -/
def exponentLimit : Nat := Number.twoTo 31

def signed (negative : Bool) (x : Float) : Float := if negative then -x else x

def toFloat (t : NumberText) : Except TextFault Float := do
  let whole := t.whole.foldl Digits.addWhole .start
  let digits := (t.fraction.getD []).foldl Digits.addFraction { whole with full := false }
  match t.exponent with
  | none => return signed t.negative (← digits.toFloat 0)
  | some (down, cs) =>
    let n := Number.ofDigits cs
    if n < exponentLimit then return signed t.negative (← digits.toFloat (if down then -n else n))
    else if digits.word = 0 || down then return signed t.negative 0
    else throw .numberRange

/-- An integer that fits is kept as one; minus zero is not an integer. -/
def toScalar (t : NumberText) : Except TextFault Scalar :=
  let n := Number.ofDigits t.whole
  match t.fraction, t.exponent with
  | none, none =>
    if t.negative then
      if n ≠ 0 ∧ n ≤ Number.twoTo 63 then .ok (.int (-n)) else t.toFloat.map .float
    else if n < wordBound then .ok (.int n) else t.toFloat.map .float
  | _, _ => t.toFloat.map .float

end NumberText

/-- A text that goes on where a digit was needed. At the end of the text whoever keeps the number
says so; whoever passes over it only sees that it is no number. -/
def noDigit {α : Type} (cs : List Char) : Front α :=
  ⟨.error (if cs.isEmpty then .endInValue else .invalidNumber), .error .invalidNumber⟩

/-- The exponent after its letter, and what comes after it. -/
def exponentPart (cs : List Char) : Except (Front Scalar) ((Bool × List Char) × List Char) :=
  let (down, cs) :=
    match cs with
    | '-' :: rest => (true, rest)
    | '+' :: rest => (false, rest)
    | cs => (false, cs)
  let digits := cs.takeWhile isDigit
  if digits.isEmpty then .error (noDigit cs) else .ok ((down, digits), cs.drop digits.length)

/-- The fraction, if there is one, and what comes after it. -/
def fractionPart (cs : List Char) : Except (Front Scalar) (Option (List Char) × List Char) :=
  match cs with
  | '.' :: cs =>
    let digits := cs.takeWhile isDigit
    if digits.isEmpty then .error (noDigit cs) else .ok (some digits, cs.drop digits.length)
  | cs => .ok (none, cs)

/-- A number. A zero in front stands alone. -/
def readNumber (cs : List Char) : Front Scalar :=
  let (negative, cs) :=
    match cs with
    | '-' :: rest => (true, rest)
    | cs => (false, cs)
  let whole := cs.takeWhile isDigit
  if whole.isEmpty then noDigit cs
  else if whole.head? == some '0' && whole.length != 1 then .fault .invalidNumber
  else
    let parts : Except (Front Scalar) (NumberText × List Char) := do
      let (fraction, rest) ← fractionPart (cs.drop whole.length)
      match rest with
      | 'e' :: rest | 'E' :: rest =>
        let (exponent, rest) ← exponentPart rest
        return (⟨negative, whole, fraction, some exponent⟩, rest)
      | rest => return (⟨negative, whole, fraction, none⟩, rest)
    match parts with
    | .error front => front
    | .ok (text, rest) => ⟨text.toScalar, .ok rest⟩

end CrossSource.Document.Json
