import CrossSource.Query.Basic
import CrossSource.Validation.Message

/-!
# Filters

Each known type of field allows some of the operators. The type is the one that the filter itself
gives; other types allow all operators.
-/

namespace CrossSource.Validation

open Document

/-- The operators that a type allows, unless it allows all. -/
def allowedOperators : FieldType → Option (List Operator)
  | .string => some [.equals, .notEquals, .contains, .isIn]
  | .number | .decimal | .date =>
    some [.equals, .notEquals, .greaterThan, .lessThan, .between]
  | .boolean => some [.equals, .notEquals]
  | .other _ => none

def notAllowed (index : Nat) (f : Filter) (allowed : List Operator) : Message :=
  let names := allowed.map (·.name)
  (((Message.error .invalidOperator
    (s!"Operator '{f.operator.name}' is not valid for {f.field.type.name} field " ++
      s!"'{f.field.qualifiedName}' (allowed: " ++ ", ".intercalate names ++ ")")).withField
    f.field.name).withSource f.field.source).withContext
    [("filter", .int index), ("operator", .str f.operator.name),
      ("fieldType", .str f.field.type.name), ("allowed", .arr (names.map .str))]

def operatorAllowed (index : Nat) (f : Filter) : List Message :=
  match allowedOperators f.field.type with
  | none => []
  | some allowed => if f.operator ∈ allowed then [] else [notAllowed index f allowed]

/-- The operators of all filters. -/
def operatorsAllowed (q : Query) : List Message :=
  q.filters.zipIdx.flatMap fun (f, i) => operatorAllowed i f

end CrossSource.Validation
