import CrossSource.Query.Basic
import CrossSource.Validation.Message

/-!
# Costly queries

Queries that select many fields or read all rows are warned about.
-/

namespace CrossSource.Validation

open Document

/-- From when on a query counts as costly. -/
structure Options where
  maxSelectedFields : Nat
  warnWithoutFilters : Bool
deriving DecidableEq, Repr

namespace Options

def default : Options := ⟨20, true⟩

end Options

def manyFields (selected limit : Nat) : Message :=
  (Message.warning .performanceWarning
    (s!"Selecting {selected} fields may slow down the extract; " ++
      s!"consider keeping it to {limit} or fewer")).withContext
    [("selectedFields", .int selected), ("limit", .int limit)]

def noFilters : Message :=
  .warning .performanceWarning
    "No filters defined; the query will read every row of its sources"

def costs (options : Options) (q : Query) : List Message :=
  let selected := q.selectedFields.length
  (if options.maxSelectedFields < selected then [manyFields selected options.maxSelectedFields]
    else []) ++
  (if options.warnWithoutFilters && q.filters.isEmpty then [noFilters] else [])

end CrossSource.Validation
