import CrossSource.Validation.Cost
import CrossSource.Validation.Coverage
import CrossSource.Validation.Filters
import CrossSource.Validation.Joins
import CrossSource.Validation.References

/-!
# Validation of a query

All rules run on every query, in a fixed order. The report lists their messages in that order.
-/

namespace CrossSource.Validation

/-- The messages of all rules. -/
def messages (options : Options) (q : Query) : List Message :=
  sourcesPresent q ++ fieldsPresent q ++ sourcesJoined q ++ joinsResolve q ++
    joinsCompatible q ++ operatorsAllowed q ++ costs options q ++ aliasesDiffer q ++
    sourcesKnown q

/-- The report on a query at an instant. -/
def validate (options : Options) (now : Timestamp) (q : Query) : Report :=
  .ofMessages now (messages options q)

/-- Whether a query is valid. -/
def isValid (options : Options) (q : Query) : Bool :=
  (messages options q).all fun m => !m.isError

end CrossSource.Validation
