import CrossSource.FieldType
import CrossSource.Number.Natural

/-!
# Fields and sources of a query

A query names each of its sources by an alias, and a field belongs to the source of its alias. A
source refers to a registered data source by id and holds nothing of it.
-/

namespace CrossSource

/-- A column of one source of a query. -/
structure Field where
  name : String
  type : FieldType
  /-- The alias of the source. -/
  source : String
  table : Option String
  aliasName : Option String
  description : Option String
  expression : Option String
deriving DecidableEq, Repr

namespace Field

/-- A field of which no more is known. -/
def plain (source name : String) (type : FieldType) : Field :=
  ⟨name, type, source, none, none, none, none⟩

/-- Whether two fields have the same source and name. -/
def sameReference (a b : Field) : Bool := a.source = b.source && a.name = b.name

/-- The name with its source in front. -/
def qualifiedName (f : Field) : String := f.source ++ "." ++ f.name

end Field

/-- A data source as a query uses it. -/
structure QuerySource where
  sourceId : String
  table : Option String
  aliasName : String
deriving DecidableEq, Repr

namespace QuerySource

/-- The number in an alias that has the form of a generated one. -/
def ordinalOf (aliasName : String) : Option Nat :=
  match aliasName.toList with
  | 's' :: digits => Number.readBelow Number.wordBound (String.ofList digits)
  | _ => none

def ordinal (s : QuerySource) : Option Nat := ordinalOf s.aliasName

end QuerySource

end CrossSource
