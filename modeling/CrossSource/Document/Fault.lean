import CrossSource.Number.Layout
import CrossSource.Text.Quoted
import CrossSource.Timestamp

/-!
# What can be wrong with a document

`TextFault` says why a text is not well formed, `DecodeError` why a document does not describe a
value of the wanted kind. Each has one function that words it.
-/

namespace CrossSource.Document

/-- A document without parts. -/
inductive Scalar where
  | null
  | bool (b : Bool)
  | int (n : Int)
  | float (x : Float)
  | str (s : String)

/-- What stands where something else was wanted. -/
inductive Found where
  | scalar (s : Scalar)
  | sequence
  | map

/-- Why a text is no JSON document. `keyNotString` tells what stands where the name of a member
was expected, if that is a value at all. -/
inductive TextFault where
  | endInList
  | endInObject
  | endInString
  | endInValue
  | expectedColon
  | expectedListEnd
  | expectedObjectEnd
  | expectedWord
  | expectedValue
  | invalidEscape
  | invalidNumber
  | numberRange
  | controlCharacter
  | keyNotString (found : Option Found)
  | loneSurrogate
  | halfEscape
  | tooDeep
  | trailingComma
  | trailingCharacters
  | notYaml

/-- What was wanted. -/
inductive Expected where
  | string
  | boolean
  | sequence
  | map
  | unit
  | word64
  | size
  | word16
  | timestamp
  | character
  | stringOrMap
  | oneMember
  | variantName
  | variantPlace (count : Nat)
  | record (name : String)
  | recordOf (name : String) (size : Nat)
  | taggedRecord (name : String)
  | fewerElements
  | elements (size : Nat)

/-- Why a document does not describe a value of the wanted kind. -/
inductive DecodeError where
  | invalidType (found : Found) (expected : Expected)
  | invalidValue (found : Found) (expected : Expected)
  | invalidLength (length : Nat) (expected : Expected)
  | missingField (name : String)
  | duplicateField (name : String)
  | unknownVariant (name : String) (known : List String)
  | timestamp (fault : Timestamp.Fault)
  | text (fault : TextFault)

/-- The three ways in which reading a text fails: it ends too soon, it is not well formed, or it
is well formed and does not fit. -/
inductive Category where
  | ended
  | malformed
  | unfit
deriving DecidableEq, Repr

/-! ## Wording -/

/-- A name as it stands in a message. -/
def ticked (s : String) : String := "\x60" ++ s ++ "\x60"

namespace Found

def text : Found → String
  | scalar .null => "null"
  | scalar (.bool b) => "boolean " ++ ticked (if b then "true" else "false")
  | scalar (.int n) => "integer " ++ ticked (toString n)
  | scalar (.float x) => "floating point " ++ ticked (Number.floatText x)
  | scalar (.str s) => "string " ++ Text.quoted s
  | sequence => "sequence"
  | map => "map"

end Found

namespace TextFault

def message : TextFault → String
  | endInList => "EOF while parsing a list"
  | endInObject => "EOF while parsing an object"
  | endInString => "EOF while parsing a string"
  | endInValue => "EOF while parsing a value"
  | expectedColon => "expected " ++ ticked ":"
  | expectedListEnd => "expected " ++ ticked "," ++ " or " ++ ticked "]"
  | expectedObjectEnd => "expected " ++ ticked "," ++ " or " ++ ticked "\x7d"
  | expectedWord => "expected ident"
  | expectedValue => "expected value"
  | invalidEscape => "invalid escape"
  | invalidNumber => "invalid number"
  | numberRange => "number out of range"
  | controlCharacter => "control character (\\u0000-\\u001F) found while parsing a string"
  | keyNotString _ => "key must be a string"
  | loneSurrogate => "lone leading surrogate in hex escape"
  | halfEscape => "unexpected end of hex escape"
  | tooDeep => "recursion limit exceeded"
  | trailingComma => "trailing comma"
  | trailingCharacters => "trailing characters"
  | notYaml => "not a document"

def category : TextFault → Category
  | endInList | endInObject | endInString | endInValue => .ended
  | _ => .malformed

end TextFault

namespace Expected

def text : Expected → String
  | string => "a string"
  | boolean => "a boolean"
  | sequence => "a sequence"
  | map => "a map"
  | unit => "unit"
  | word64 => "u64"
  | size => "usize"
  | word16 => "u16"
  | timestamp => "an RFC 3339 formatted date and time string"
  | character => "a character"
  | stringOrMap => "string or map"
  | oneMember => "map with a single key"
  | variantName => "variant identifier"
  | variantPlace count => "variant index 0 <= i < " ++ toString count
  | record name => "struct " ++ name
  | recordOf name n => "struct " ++ name ++ " with " ++ toString n ++ elementWord n
  | taggedRecord name => "internally tagged enum " ++ name
  | fewerElements => "fewer elements in array"
  | elements n => toString n ++ elementWord n ++ " in sequence"
where
  elementWord (n : Nat) : String := if n = 1 then " element" else " elements"

end Expected

/-- The names that would have done. -/
def knownText (names : List String) : String :=
  match names.map ticked with
  | [] => "there are no variants"
  | [a] => "expected " ++ a
  | [a, b] => "expected " ++ a ++ " or " ++ b
  | all => "expected one of " ++ ", ".intercalate all

namespace DecodeError

def message : DecodeError → String
  | invalidType found expected => "invalid type: " ++ found.text ++ ", expected " ++ expected.text
  | invalidValue found expected =>
    "invalid value: " ++ found.text ++ ", expected " ++ expected.text
  | invalidLength n expected => "invalid length " ++ toString n ++ ", expected " ++ expected.text
  | missingField name => "missing field " ++ ticked name
  | duplicateField name => "duplicate field " ++ ticked name
  | unknownVariant name known => "unknown variant " ++ ticked name ++ ", " ++ knownText known
  | timestamp fault => fault.message
  | text fault => fault.message

def category : DecodeError → Category
  | text fault => fault.category
  | _ => .unfit

end DecodeError

end CrossSource.Document
