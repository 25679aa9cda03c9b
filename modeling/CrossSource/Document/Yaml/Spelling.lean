import CrossSource.Document.Value
import CrossSource.Number.Natural

/-!
# Scalars of a YAML text

A scalar of a YAML text is a spelling, and what it stands for depends on what is wanted: a text is
the spelling itself, any other kind is read off it. `Spelling.value?` tells what a scalar stands
for where any value will do.
-/

namespace CrossSource.Document.Yaml

/-- How a scalar is set down. -/
inductive Style where
  | plain
  | quoted
  | literal
  | folded
deriving DecidableEq, Repr

/-- What a scalar is declared to be. A tag of one's own begins with an exclamation mark. -/
inductive Tag where
  | bool
  | int
  | float
  | null
  | own (name : String)
  | other
deriving DecidableEq, Repr

/-- The tag of a text, which for an own tag is what comes after the mark, if anything does. -/
def Tag.ofText (s : String) : Tag :=
  match s.toList with
  | ['!'] => .own "!"
  | '!' :: cs => .own (String.ofList cs)
  | _ =>
    if s = "tag:yaml.org,2002:bool" then .bool
    else if s = "tag:yaml.org,2002:int" then .int
    else if s = "tag:yaml.org,2002:float" then .float
    else if s = "tag:yaml.org,2002:null" then .null
    else .other

/-! ## Words and numbers -/

def isNullWord (s : String) : Bool := s ∈ ["null", "Null", "NULL", "~"]

def readBool (s : String) : Option Bool :=
  if s ∈ ["true", "True", "TRUE"] then some true
  else if s ∈ ["false", "False", "FALSE"] then some false
  else none

/-- The value of a digit of a radix up to 16. -/
def digitOf (radix : Nat) (c : Char) : Option Nat :=
  let n :=
    if '0' ≤ c && c ≤ '9' then c.toNat - '0'.toNat
    else if 'a' ≤ c && c ≤ 'f' then c.toNat - 'a'.toNat + 10
    else if 'A' ≤ c && c ≤ 'F' then c.toNat - 'A'.toNat + 10
    else radix
  if n < radix then some n else none

/-- One or more digits of a radix. -/
def readRadix (radix : Nat) (cs : List Char) : Option Nat :=
  if cs.isEmpty then none
  else (cs.mapM (digitOf radix)).map (·.foldl (fun n d => radix * n + d) 0)

/-- A sign in front, and what comes after it. -/
def splitSign : List Char → Bool × List Char
  | '-' :: cs => (true, cs)
  | '+' :: cs => (false, cs)
  | cs => (false, cs)

/-- Digits with zeros in front are no number. -/
def isPadded : List Char → Bool
  | '0' :: c :: cs => (c :: cs).all Number.isDigit
  | _ => false

/-- A whole number in decimal, or with a mark of its radix after the sign. -/
def readInt (s : String) : Option Int :=
  let (negative, cs) := splitSign s.toList
  let magnitude :=
    match cs with
    | '0' :: 'x' :: ds => readRadix 16 ds
    | '0' :: 'o' :: ds => readRadix 8 ds
    | '0' :: 'b' :: ds => readRadix 2 ds
    | ds => if isPadded ds then none else readRadix 10 ds
  magnitude.map fun n => if negative then -(n : Int) else n

/-- The whole numbers of a document: those of 64 bits, with or without a sign. -/
def fitsWord (i : Int) : Bool := -Number.twoTo 63 ≤ i && i < Number.twoTo 64

/-- The whole numbers of 128 bits. Of them those that do not fit a word are recognised as whole
numbers and yet cannot be kept. -/
def fitsDoubleWord (i : Int) : Bool := -Number.twoTo 127 ≤ i && i < Number.twoTo 128

/-- The exponent after its letter; without a letter it is zero. -/
def readExponent : List Char → Option Int
  | [] => some 0
  | c :: cs =>
    if c = 'e' || c = 'E' then
      let (negative, ds) := splitSign cs
      (Number.readDigits ds).map fun n => if negative then -(n : Int) else n
    else none

/-- Beyond this power of ten on either side numbers are infinite or zero. -/
def exponentBound : Int := 400

/-- The number `digits * 10 ^ exponent`, rounded to the nearest, unless it is too large. -/
def floatOf (digits : List Char) (exponent : Int) : Option Float :=
  let n := Number.ofDigits digits
  let lead := exponent + digits.length
  if n = 0 || lead < -exponentBound then some 0
  else if exponentBound < exponent + (Nat.toDigits 10 n).length then none
  else
    let x := Float.ofScientific n (exponent < 0) exponent.natAbs
    if x.isFinite then some x else none

/-- A finite number with a point or an exponent, or neither. -/
def readFloat (s : String) : Option Float :=
  let (negative, cs) := splitSign s.toList
  let whole := cs.takeWhile Number.isDigit
  let (fraction, rest) :=
    match cs.drop whole.length with
    | '.' :: cs => (cs.takeWhile Number.isDigit, cs.dropWhile Number.isDigit)
    | cs => ([], cs)
  if whole.isEmpty && fraction.isEmpty then none
  else do
    let exponent ← readExponent rest
    let x ← floatOf (whole ++ fraction) (exponent - fraction.length)
    return if negative then -x else x

/-- Words for numbers that are not finite. -/
def isNonFinite (s : String) : Bool :=
  s ∈ [".inf", ".Inf", ".INF", "+.inf", "+.Inf", "+.INF", "-.inf", "-.Inf", "-.INF",
    ".nan", ".NaN", ".NAN"]

/-- A number that need not be whole. What is not finite has no place in a document. -/
def readNumber (s : String) : Option Value :=
  if isNonFinite s then some .null else (readFloat s).map .float

/-- A whole number as a value: what does not fit a word is refused unless it is larger still, and
then it is no whole number. -/
def wholeOr (s : String) (otherwise : Option Value) : Option Value :=
  match readInt s with
  | some i =>
    if fitsWord i then some (.int i) else if fitsDoubleWord i then none else otherwise
  | none => otherwise

/-- What a plain scalar without a tag stands for, unless that cannot be kept. -/
def plainValue (s : String) : Option Value :=
  if s = "" || isNullWord s then some .null
  else match readBool s with
    | some b => some (.bool b)
    | none => wholeOr s (
        if isPadded (splitSign s.toList).2 then some (.str s)
        else some ((readNumber s).getD (.str s)))

/-! ## Spellings -/

/-- A scalar of a YAML text. -/
structure Spelling where
  text : String
  style : Style
  tag : Option Tag
deriving DecidableEq, Repr

namespace Spelling

/-- Where a value is left out. -/
def empty : Spelling := ⟨"", .plain, none⟩

/-- What the scalar stands for where any value will do. Only a plain scalar without a tag is
looked into. -/
def value? (s : Spelling) : Option Value :=
  match s.tag with
  | some .bool => (readBool s.text).map .bool
  | some .int => wholeOr s.text none
  | some .float => readNumber s.text
  | some .null => if isNullWord s.text then some .null else none
  | some (.own _) => none
  | some .other => some (.str s.text)
  | none => if s.style = .plain then plainValue s.text else some (.str s.text)

/-- Whether a scalar counts as one of a standard kind where that kind is wanted. -/
def mayBe (s : Spelling) (kind : Tag) : Bool :=
  s.style = .plain || (s.style = .literal && s.tag = some kind)

def bool? (s : Spelling) : Option Bool := if s.mayBe .bool then readBool s.text else none

/-- A whole number of 64 bits. -/
def int? (s : Spelling) : Option Int :=
  if s.mayBe .int then (readInt s.text).filter fitsWord else none

/-- Nothing stands where a list or a record was wanted. -/
def isLeftOut (s : Spelling) : Bool := s.style = .plain && s.text = ""

/-- Nothing or a word for nothing, whatever the tag is. -/
def isNothing (s : Spelling) : Bool := s.style = .plain && (s.text = "" || isNullWord s.text)

/-- Whether the scalar stands for the absence of a value. One that is declared to be null has to
be so. -/
def isAbsent? (s : Spelling) : Option Bool :=
  if s.style ≠ .plain then some false
  else match s.tag with
    | some .null => if isNullWord s.text then some true else none
    | some _ => some false
    | none => some s.isNothing

/-- The name that an own tag gives. -/
def ownName? (s : Spelling) : Option String :=
  match s.tag with
  | some (.own name) => some name
  | _ => none

end Spelling

end CrossSource.Document.Yaml
