import CrossSource.Query.Basic
import CrossSource.Text.Suggestion
import CrossSource.Validation.Message

/-!
# Joins

Both sides of a join have to be selected, they have to belong to different sources, and their types
have to go together. The type of a side is the one it is first selected with.
-/

namespace CrossSource.Validation

open Document

/-- A side of a join. -/
inductive Side where
  | left
  | right
deriving DecidableEq, Repr

def Side.name : Side → String
  | left => "left"
  | right => "right"

/-- The names of the selected fields of a source, in their order. -/
def selectedNames (q : Query) (aliasName : String) : List String :=
  (q.selectedFields.filter (·.source = aliasName)).map (·.name)

/-- A selected field of the same source that was probably meant. -/
def hint (q : Query) (f : Field) : Option String :=
  (Text.suggestion f.name (selectedNames q f.source)).map fun name =>
    s!"Did you mean '{f.source}.{name}'?"

/-- A side that is not selected. -/
def notSelected (q : Query) (index : Nat) (side : Side) (f : Field) : Message :=
  let suggestion :=
    match hint q f with
    | some text => [("suggestion", Value.str text)]
    | none => []
  (((Message.error .invalidJoin
    (s!"Join {index + 1} {side.name} field '{f.qualifiedName}' is not among " ++
      "the selected fields")).withField f.name).withSource f.source).withContext
    ([("join", .int index), ("side", .str side.name)] ++ suggestion)

/-- Both sides belong to one source. -/
def withinSource (index : Nat) (j : Join) : Message :=
  ((Message.error .invalidJoin
    (s!"Join {index + 1} connects '{j.left.qualifiedName}' and '{j.right.qualifiedName}' " ++
      "within the same source")).withSource j.left.source).withContext
    [("join", .int index)]

/-- The sides of different types. -/
def typesDiffer (index : Nat) (l r : Field) : Message :=
  (((Message.error .incompatibleTypes
    (s!"Cannot join '{l.qualifiedName}' ({l.type.name}) with " ++
      s!"'{r.qualifiedName}' ({r.type.name}): incompatible types")).withField
    l.name).withSource l.source).withContext
    [("join", .int index), ("leftField", .str l.name), ("leftType", .str l.type.name),
      ("rightField", .str r.name), ("rightType", .str r.type.name)]

def sideSelected (q : Query) (index : Nat) (side : Side) (f : Field) : List Message :=
  if (q.findSelected f).isNone then [notSelected q index side f] else []

def sidesApart (index : Nat) (j : Join) : List Message :=
  if j.left.source = j.right.source then [withinSource index j] else []

def joinTypes (q : Query) (index : Nat) (j : Join) : List Message :=
  match q.findSelected j.left, q.findSelected j.right with
  | some l, some r => if l.type.joinable r.type then [] else [typesDiffer index l r]
  | _, _ => []

/-- The sides of all joins. -/
def joinsResolve (q : Query) : List Message :=
  q.joins.zipIdx.flatMap fun (j, i) =>
    sideSelected q i .left j.left ++ sideSelected q i .right j.right ++ sidesApart i j

/-- The types of all joins. -/
def joinsCompatible (q : Query) : List Message :=
  q.joins.zipIdx.flatMap fun (j, i) => joinTypes q i j

end CrossSource.Validation
