import CrossSource.Document.Fault
import CrossSource.Document.Value
import CrossSource.Document.Yaml.Spelling

/-!
# Documents as they are met by a reader

A `Node` is a document that may still be at fault further on. A reader of text goes as far as the
text makes sense and leaves the first fault where it stands, so that whoever decodes the node meets
wrong parts and faults in the order in which they are written. A document that is already a
value has a node without faults (`Node.ofValue`).
-/

namespace CrossSource.Document

/-- Where a document comes from. The sources differ in small ways in what they let pass. -/
inductive Source where
  /-- A document that is a value already. -/
  | value
  /-- A JSON text. -/
  | json
  /-- A YAML text. -/
  | yaml
  /-- Parts that were put aside until the tag of their record was known. -/
  | aside (source : Source)
deriving DecidableEq

/-- Whether the members of maps come in order, each name once. -/
def Source.ordered : Source → Bool
  | value => true
  | json | yaml => false
  | aside source => source.ordered

/-- A document in the course of reading. A scalar of a YAML text is a spelling as yet, and its
lists and maps may have a label that does not matter to those who know what they want. A list or map
may stop short of its end by a fault. The members of a map stand in the order in which they are
met, each with the fault that comes up if its value is passed over. -/
inductive Node where
  | scalar (s : Scalar)
  | spelled (s : Yaml.Spelling)
  | seq (items : List Node) (stop : Option TextFault)
  | map (members : List (String × Node × Option TextFault)) (stop : Option TextFault)
  | labelled (n : Node)
  | broken (fault : TextFault)

instance : Inhabited Node := ⟨.broken .endInValue⟩

abbrev Member := String × Node × Option TextFault

/-! ## From and to values -/

mutual
def Node.ofValue : Value → Node
  | .null => .scalar .null
  | .bool b => .scalar (.bool b)
  | .int n => .scalar (.int n)
  | .float x => .scalar (.float x)
  | .str s => .scalar (.str s)
  | .arr items => .seq (itemsOfValues items) none
  | .obj members => .map (membersOfValues members) none

def itemsOfValues : List Value → List Node
  | [] => []
  | v :: vs => Node.ofValue v :: itemsOfValues vs

def membersOfValues : List (String × Value) → List Member
  | [] => []
  | (k, v) :: ms => (k, Node.ofValue v, none) :: membersOfValues ms
end

def Scalar.toValue : Scalar → Value
  | .null => .null
  | .bool b => .bool b
  | .int n => .int n
  | .float x => .float x
  | .str s => .str s

/-- Fails with a fault, if there is one. -/
def meet (fault : Option TextFault) : Except DecodeError Unit :=
  match fault with
  | none => .ok ()
  | some f => .error (.text f)

mutual
/-- The value of a node. The members of a value are in order already; those of a text are put in
order, and of several of one name the last counts. -/
def Node.toValue (source : Source) : Node → Except DecodeError Value
  | .scalar s => .ok s.toValue
  | .spelled s =>
    match s.value? with
    | some v => .ok v
    | none => .error (.text .notYaml)
  | .seq items stop => do
    let vs ← valuesOfItems source items
    meet stop
    return .arr vs
  | .map members stop => do
    let ms ← valuesOfMembers source members
    meet stop
    return if source.ordered then .obj ms else .object ms
  | .labelled _ => .error (.text .notYaml)
  | .broken f => .error (.text f)

def valuesOfItems (source : Source) : List Node → Except DecodeError (List Value)
  | [] => .ok []
  | n :: ns => do
    let v ← n.toValue source
    return v :: (← valuesOfItems source ns)

def valuesOfMembers (source : Source) :
    List Member → Except DecodeError (List (String × Value))
  | [] => .ok []
  | (k, n, _) :: ms => do
    let v ← n.toValue source
    return (k, v) :: (← valuesOfMembers source ms)
end

/-! ## What stands there -/

namespace Node

/-- What a message says about a node, unless the node is at fault itself. A YAML text that does
not fit is at fault as a whole. -/
def found? : Node → Except TextFault Found
  | scalar s => .ok (.scalar s)
  | seq _ _ => .ok .sequence
  | map _ _ => .ok .map
  | spelled _ | labelled _ => .error .notYaml
  | broken f => .error f

/-- The failure of a reader who wanted something else. -/
def mismatch {α : Type} (n : Node) (expected : Expected) : Except DecodeError α :=
  match n.found? with
  | .ok found => .error (.invalidType found expected)
  | .error f => .error (.text f)

/-- The node without its label. -/
def content : Node → Node
  | labelled n => n
  | n => n

/-- Whether the node stands for the absence of a value. -/
def isAbsent : Node → Except DecodeError Bool
  | scalar .null => .ok true
  | spelled s =>
    match s.isAbsent? with
    | some b => .ok b
    | none => .error (.text .notYaml)
  | _ => .ok false

/-- A scalar that is left out altogether, as YAML allows. -/
def isLeftOut : Node → Bool
  | spelled s => s.isLeftOut
  | _ => false

end Node

end CrossSource.Document
