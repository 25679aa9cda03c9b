import CrossSource.Document.Value
import CrossSource.Field
import CrossSource.Timestamp

/-!
# Queries over several sources

A query lists its sources, the fields it selects from them, how the sources are joined, and which
rows to keep, group, sort and sum up. Nothing here says whether a query makes sense; that is the
matter of `Validation`.
-/

namespace CrossSource

/-! ## Parts of a query -/

inductive JoinKind where
  | inner
  | left
  | right
  | full
deriving DecidableEq, Repr

def JoinKind.name : JoinKind → String
  | inner => "INNER"
  | left => "LEFT"
  | right => "RIGHT"
  | full => "FULL"

/-- Two fields that have to be equal. -/
structure Join where
  left : Field
  right : Field
  kind : JoinKind
deriving DecidableEq, Repr

/-- Whether a side of the join belongs to the source of an alias. -/
def Join.mentions (j : Join) (aliasName : String) : Bool :=
  j.left.source = aliasName || j.right.source = aliasName

inductive Operator where
  | equals
  | notEquals
  | greaterThan
  | lessThan
  | contains
  | isIn
  | between
deriving DecidableEq, Repr

def Operator.name : Operator → String
  | equals => "equals"
  | notEquals => "notEquals"
  | greaterThan => "greaterThan"
  | lessThan => "lessThan"
  | contains => "contains"
  | isIn => "in"
  | between => "between"

inductive Connective where
  | and
  | or
deriving DecidableEq, Repr

def Connective.name : Connective → String
  | and => "AND"
  | or => "OR"

/-- A condition on the values of a field. -/
structure Filter where
  field : Field
  operator : Operator
  value : Document.Value
  connective : Option Connective

inductive Direction where
  | ascending
  | descending
deriving DecidableEq, Repr

def Direction.name : Direction → String
  | ascending => "ASC"
  | descending => "DESC"

/-- A field to sort by. -/
structure SortKey where
  field : Field
  direction : Direction
deriving DecidableEq, Repr

inductive Summary where
  | sum
  | average
  | count
  | least
  | greatest
deriving DecidableEq, Repr

def Summary.name : Summary → String
  | sum => "SUM"
  | average => "AVG"
  | count => "COUNT"
  | least => "MIN"
  | greatest => "MAX"

/-- A summary of a field under a name of its own. -/
structure Aggregate where
  field : Field
  summary : Summary
  aliasName : String
deriving DecidableEq, Repr

/-! ## Queries -/

structure Query where
  id : String
  name : String
  description : Option String
  sources : List QuerySource
  selectedFields : List Field
  joins : List Join
  filters : List Filter
  groupBy : List Field
  having : List Filter
  orderBy : List SortKey
  aggregates : List Aggregate
  limit : Option UInt64
  createdAt : Timestamp
  updatedAt : Timestamp
  createdBy : Option String
  isTemplate : Bool
  tags : List String
  /-- The least number that no generated alias has had. -/
  nextAlias : UInt64

namespace Query

/-- A query without content under a fresh id. -/
def new (id name : String) (now : Timestamp) : Query where
  id := id
  name := name
  description := none
  sources := []
  selectedFields := []
  joins := []
  filters := []
  groupBy := []
  having := []
  orderBy := []
  aggregates := []
  limit := none
  createdAt := now
  updatedAt := now
  createdBy := none
  isTemplate := false
  tags := []
  nextAlias := 1

/-- The aliases of the sources, in their order. -/
def aliases (q : Query) : List String := q.sources.map (·.aliasName)

/-- The first source of an alias. -/
def sourceByAlias (q : Query) (aliasName : String) : Option QuerySource :=
  q.sources.find? (·.aliasName = aliasName)

/-- The first selected field with the same source and name. -/
def findSelected (q : Query) (f : Field) : Option Field :=
  q.selectedFields.find? (·.sameReference f)

end Query

end CrossSource
