import CrossSource.Document.Node

/-!
# Decoding the parts of a document

A decoder takes a node to a value of some kind or says why it cannot. This module has the decoders
of scalars, lists, options and names from a fixed set; records are in `Document.Record`.
-/

namespace CrossSource.Document

abbrev Decoder (α : Type) := Source → Node → Except DecodeError α

namespace Decoder

variable {α β : Type}

def map (f : α → β) (d : Decoder α) : Decoder β := fun source n => (d source n).map f

/-- Any document at all. -/
def any : Decoder Value := fun source n => n.toValue source

/-- A text. Any scalar of a YAML text is one by its spelling. -/
def string : Decoder String := fun _ n =>
  match n with
  | .scalar (.str s) => .ok s
  | .spelled s => .ok s.text
  | n => n.mismatch .string

def bool : Decoder Bool := fun _ n =>
  match n with
  | .scalar (.bool b) => .ok b
  | .spelled s =>
    match s.bool? with
    | some b => .ok b
    | none => n.mismatch .boolean
  | n => n.mismatch .boolean

/-- The number itself if it lies from zero up to, not including, `bound`. -/
def bounded (bound : Nat) (expected : Expected) (i : Int) : Except DecodeError Nat :=
  if 0 ≤ i ∧ i < bound then .ok i.toNat
  else .error (.invalidValue (.scalar (.int i)) expected)

/-- A number from zero up to, not including, `bound`. -/
def below (bound : Nat) (expected : Expected) : Decoder Nat := fun _ n =>
  match n with
  | .scalar (.int i) => bounded bound expected i
  | .spelled s =>
    match s.int? with
    | some i => bounded bound expected i
    | none => n.mismatch expected
  | n => n.mismatch expected

def word64 : Decoder Nat := below Number.wordBound .word64

def size : Decoder Nat := below Number.wordBound .size

def word16 : Decoder Nat := below (Number.twoTo 16) .word16

/-- A text of one character. -/
def character : Decoder Char := fun _ n =>
  match n with
  | .scalar (.str s) =>
    match s.toList with
    | [c] => .ok c
    | _ => .error (.invalidValue (.scalar (.str s)) .character)
  | n => n.mismatch .character

/-- An instant as a text. -/
def timestamp : Decoder Timestamp := fun source n =>
  match string source n with
  | .ok s =>
    match Timestamp.read? s with
    | .ok t => .ok t
    | .error f => .error (.timestamp f)
  | .error _ => n.mismatch .timestamp

/-- Nothing or a value. -/
def option (d : Decoder α) : Decoder (Option α) := fun source n => do
  if ← n.isAbsent then return none else return some (← d source n)

/-- The items in order; the first that is wrong is reported. -/
def items (d : Decoder α) (source : Source) : List Node → Except DecodeError (List α)
  | [] => .ok []
  | n :: ns => do
    let a ← d source n
    return a :: (← items d source ns)

def list (d : Decoder α) : Decoder (List α) := fun source n =>
  match n.content with
  | .seq ns stop => do
    let as ← items d source ns
    meet stop
    return as
  | n => if n.isLeftOut then .ok [] else n.mismatch .sequence

/-- The members in order, with any names. -/
def members (d : Decoder α) (source : Source) :
    List Member → Except DecodeError (List (String × α))
  | [] => .ok []
  | (k, n, _) :: ms => do
    let a ← d source n
    return (k, a) :: (← members d source ms)

/-- An object with any names. The members come in ascending order. -/
def object (d : Decoder α) : Decoder (List (String × α)) := fun source n =>
  match n.content with
  | .map ms stop => do
    let as ← members d source ms
    meet stop
    return if source.ordered then as else sortMembers as
  | n => if n.isLeftOut then .ok [] else n.mismatch .map

/-! ## Names from a fixed set -/

/-- The value of a name. -/
def byName (known : List (String × α)) (name : String) : Except DecodeError α :=
  match known.lookup name with
  | some a => .ok a
  | none => .error (.unknownVariant name (known.map Prod.fst))

/-- The only value that a name may be given where an object stands for it. -/
def nothing (source : Source) (n : Node) : Except DecodeError Unit :=
  match n with
  | .scalar .null => .ok ()
  | .map [] none =>
    match source with
    | .aside _ => .ok ()
    | _ => n.mismatch .unit
  | n => n.mismatch .unit

/-- What follows the one member of an object in a JSON text. -/
def closeJson (rest : List Member) (stop : Option TextFault) : Except DecodeError Unit :=
  match rest, stop with
  | [], none => .ok ()
  | [], some .endInObject => .error (.text .endInObject)
  | _, _ => .error (.text .expectedValue)

/-- Why a JSON text has no first member where a name stands as an object. -/
def noMember : Option TextFault → DecodeError
  | some .endInObject => .text .endInValue
  | some (.keyNotString (some found)) => .invalidType found .variantName
  | none | some (.keyNotString none) => .text .expectedValue
  | some f => .text f

/-- A node of a JSON text that is neither a string nor an object, where a name was wanted. -/
def noName : Node → DecodeError
  | .broken .invalidNumber | .broken .expectedWord | .broken .numberRange => .text .expectedValue
  | .broken f => .text f
  | _ => .text .expectedValue

/-- One of the known names as a scalar of a YAML text. The name may be the tag of nothing. -/
def spelledName (known : List (String × α)) (s : Yaml.Spelling) : Except DecodeError α :=
  match s.ownName? with
  | some name => do
    let a ← byName known name
    if s.isNothing then return a else throw (.text .notYaml)
  | none => byName known s.text

/-- One of the known names, as a string or as an object with that name alone. -/
def oneOf (known : List (String × α)) : Decoder α := fun source n =>
  match source, n with
  | _, .spelled s => spelledName known s
  | _, .scalar (.str s) => byName known s
  | .json, .map ((k, inner, _) :: rest) stop => do
    let a ← byName known k
    nothing .json inner
    closeJson rest stop
    return a
  | .json, .map [] stop => .error (noMember stop)
  | .json, n => .error (noName n)
  | .yaml, n => n.mismatch .stringOrMap
  | source, .map [(k, inner, _)] _ => do
    let a ← byName known k
    nothing source inner
    return a
  | _, .map _ _ => .error (.invalidValue .map .oneMember)
  | _, n => n.mismatch .stringOrMap

/-- The value of the name at a place, counted from zero. -/
def byPlace (known : List (String × α)) (place : Nat) : Except DecodeError α :=
  match known[place]? with
  | some (_, a) => .ok a
  | none => .error (.invalidValue (.scalar (.int place)) (.variantPlace known.length))

/-- One of the known names, as a string. What was put aside may also tell it by its place. -/
def nameOf (known : List (String × α)) : Decoder α := fun source n =>
  match n, source with
  | .scalar (.str s), _ => byName known s
  | .scalar (.int (.ofNat place)), .aside _ => byPlace known place
  | n, _ => n.mismatch .variantName

end Decoder

end CrossSource.Document
