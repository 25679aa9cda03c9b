import CrossSource.Document.Decoder

/-!
# Decoding records

A record is written as an object of its fields or as a list of them in the order in which they are
declared. `Fields` describes how the fields are read; every failure carries the position at which
it is met, so that the first one in the document is reported whatever the order of declaration.
Absent fields come up after the last member.
-/

namespace CrossSource.Document

variable {α β : Type}

/-- A failure, and the position of the part at which it is met. -/
abbrev Located := Nat × DecodeError

/-- Of two results the failure that is met first, the left one if both are met at once. -/
def combine (f : Except Located (α → β)) (a : Except Located α) : Except Located β :=
  match f, a with
  | .ok f, .ok a => .ok (f a)
  | .ok _, .error e => .error e
  | .error e, .ok _ => .error e
  | .error e, .error e' => .error (if e'.1 < e.1 then e' else e)

/-- The parts that a record is read from, and how an absent field is reported. -/
structure Parts where
  source : Source
  entries : List (String × Node)
  absent : String → DecodeError

/-- The first part of a name with its position, counted from `i`. -/
def locate (name : String) : Nat → List (String × Node) → Option (Nat × Node)
  | _, [] => none
  | i, (k, n) :: rest => if k = name then some (i, n) else locate name (i + 1) rest

/-- How the fields of a record are read. -/
structure Fields (α : Type) where
  names : List String
  read : Parts → Except Located α

namespace Fields

instance : Functor Fields where
  map f p := ⟨p.names, fun parts => (p.read parts).map f⟩

instance : Seq Fields where
  seq f a := ⟨f.names ++ (a ()).names, fun parts => combine (f.read parts) ((a ()).read parts)⟩

/-- A field with what to do if it is absent. -/
def field (name : String) (d : Decoder α) (absent : Parts → Except Located α) : Fields α where
  names := [name]
  read parts :=
    match locate name 0 parts.entries with
    | some (i, n) => (d parts.source n).mapError fun e => (i, e)
    | none => absent parts

/-- A field that has to be there. -/
def required (name : String) (d : Decoder α) : Fields α :=
  field name d fun parts => .error (parts.entries.length, parts.absent name)

/-- A field that may be left out. -/
def defaulting (name : String) (d : Decoder α) (a : α) : Fields α :=
  field name d fun _ => .ok a

/-- A field that may be left out or null. -/
def optional (name : String) (d : Decoder α) : Fields (Option α) :=
  defaulting name d.option none

/-- The first thing in a map that is wrong whatever the fields hold: a field given twice, or a
fault in what is passed over. -/
def disorder (names seen : List String) : Nat → List Member → Option Located
  | _, [] => none
  | i, (k, _, skipped) :: ms =>
    if k ∈ names then
      if k ∈ seen then some (i, .duplicateField k) else disorder names (k :: seen) (i + 1) ms
    else
      match skipped with
      | some f => some (i, .text f)
      | none => disorder names seen (i + 1) ms

/-- Reads the fields unless something else is met before. -/
def readAfter (p : Fields α) (fault : Option Located) (parts : Parts) : Except DecodeError α :=
  let start : Except Located (α → α) :=
    match fault with
    | none => .ok id
    | some e => .error e
  (combine start (p.read parts)).mapError Prod.snd

/-- The fields from the members of a map. -/
def ofMembers (p : Fields α) (source : Source) (ms : List Member) (stop : Option TextFault) :
    Except DecodeError α :=
  let fault :=
    match disorder p.names [] 0 ms with
    | some e => some e
    | none => stop.map fun f => (ms.length, .text f)
  p.readAfter fault ⟨source, ms.map fun m => (m.1, m.2.1), .missingField⟩

/-- What follows the last field of a record that is given as a list. -/
def closeList (source : Source) (size : Nat) (ns : List Node) (stop : Option TextFault) :
    Except DecodeError Unit :=
  match source with
  | .json =>
    if size < ns.length then .error (.text .trailingCharacters)
    else match stop with
      | none => .ok ()
      | some .trailingComma => .error (.text .trailingComma)
      | some .endInList => .error (.text .endInList)
      | some .tooDeep => .error (.text .tooDeep)
      | some _ => .error (.text .trailingCharacters)
  | .aside _ =>
    if size < ns.length then .error (.invalidLength ns.length (.elements size)) else .ok ()
  | _ => if size < ns.length then .error (.invalidLength ns.length .fewerElements) else .ok ()

/-- The fields from the items of a list. -/
def ofItems (p : Fields α) (name : String) (source : Source) (ns : List Node)
    (stop : Option TextFault) : Except DecodeError α := do
  let size := p.names.length
  let fault := if ns.length < size then stop.map fun f => (ns.length, .text f) else none
  let absent := fun field => .invalidLength (p.names.idxOf field) (.recordOf name size)
  let a ← p.readAfter fault ⟨source, p.names.zip ns, absent⟩
  closeList source size ns stop
  return a

/-- The decoder of a record of the given name. -/
def decode (p : Fields α) (name : String) : Decoder α := fun source n =>
  match n.content with
  | .map ms stop => p.ofMembers source ms stop
  | .seq ns stop =>
    if source = .yaml then n.mismatch (.record name) else p.ofItems name source ns stop
  | n => if n.isLeftOut then p.ofMembers source [] none else n.mismatch (.record name)

end Fields

end CrossSource.Document
