import CrossSource.Document.Record
import CrossSource.Query.Basic

/-!
# Query documents

How queries and their parts are written as documents and read back. What is absent or empty may
be left out of a document where the decoder has a default for it.
-/

namespace CrossSource

open Document

namespace Document

/-- A member that is left out if there is no value. -/
def given (name : String) (v : Option Value) : List (String × Value) :=
  match v with
  | some v => [(name, v)]
  | none => []

/-- A list that is left out if it is empty. -/
def nonempty (name : String) (vs : List Value) : List (String × Value) :=
  if vs.isEmpty then [] else [(name, .arr vs)]

/-- A natural number as a document. -/
def Value.nat (n : Nat) : Value := .int n

/-- A number of 64 bits. -/
def Decoder.uint64 : Decoder UInt64 := Decoder.word64.map UInt64.ofNat

/-- A value under its own name, for the table of a fixed set of names. -/
def named {α : Type} (name : α → String) (all : List α) : List (String × α) :=
  all.map fun a => (name a, a)

end Document

/-! ## Fields and sources -/

namespace FieldType

def encode (t : FieldType) : Value := .str t.name

def decode : Decoder FieldType := Decoder.string.map ofName

end FieldType

namespace Field

def encode (f : Field) : Value :=
  .object ([("name", .str f.name), ("type", f.type.encode), ("source", .str f.source)] ++
    given "table" (f.table.map .str) ++ given "alias" (f.aliasName.map .str) ++
    given "description" (f.description.map .str) ++ given "expression" (f.expression.map .str))

def fields : Fields Field :=
  Field.mk <$> .required "name" .string <*> .required "type" FieldType.decode <*>
    .required "source" .string <*> .optional "table" .string <*> .optional "alias" .string <*>
    .optional "description" .string <*> .optional "expression" .string

def decode : Decoder Field := fields.decode "Field"

end Field

namespace QuerySource

def encode (s : QuerySource) : Value :=
  .object ([("sourceId", .str s.sourceId), ("alias", .str s.aliasName)] ++
    given "table" (s.table.map .str))

def fields : Fields QuerySource :=
  QuerySource.mk <$> .required "sourceId" .string <*> .optional "table" .string <*>
    .required "alias" .string

def decode : Decoder QuerySource := fields.decode "QuerySource"

end QuerySource

/-! ## Joins, filters, sorting and summaries -/

namespace JoinKind

def encode (k : JoinKind) : Value := .str k.name

def names : List (String × JoinKind) := named name [inner, left, right, full]

def decode : Decoder JoinKind := .oneOf names

end JoinKind

namespace Join

def encode (j : Join) : Value :=
  .object [("leftField", j.left.encode), ("rightField", j.right.encode), ("type", j.kind.encode)]

def fields : Fields Join :=
  Join.mk <$> .required "leftField" Field.decode <*> .required "rightField" Field.decode <*>
    .required "type" JoinKind.decode

def decode : Decoder Join := fields.decode "JoinCondition"

end Join

namespace Operator

def encode (o : Operator) : Value := .str o.name

def names : List (String × Operator) :=
  named name [equals, notEquals, greaterThan, lessThan, contains, isIn, between]

def decode : Decoder Operator := .oneOf names

end Operator

namespace Connective

def encode (c : Connective) : Value := .str c.name

def names : List (String × Connective) := named name [and, or]

def decode : Decoder Connective := .oneOf names

end Connective

namespace Filter

def encode (f : Filter) : Value :=
  .object ([("field", f.field.encode), ("operator", f.operator.encode), ("value", f.value)] ++
    given "logicalOperator" (f.connective.map (·.encode)))

def fields : Fields Filter :=
  Filter.mk <$> .required "field" Field.decode <*> .required "operator" Operator.decode <*>
    .defaulting "value" .any .null <*> .optional "logicalOperator" Connective.decode

def decode : Decoder Filter := fields.decode "FilterCondition"

end Filter

namespace Direction

def encode (d : Direction) : Value := .str d.name

def names : List (String × Direction) := named name [ascending, descending]

def decode : Decoder Direction := .oneOf names

end Direction

namespace SortKey

def encode (s : SortKey) : Value :=
  .object [("field", s.field.encode), ("direction", s.direction.encode)]

def fields : Fields SortKey :=
  SortKey.mk <$> .required "field" Field.decode <*> .required "direction" Direction.decode

def decode : Decoder SortKey := fields.decode "SortConfig"

end SortKey

namespace Summary

def encode (s : Summary) : Value := .str s.name

def names : List (String × Summary) := named name [sum, average, count, least, greatest]

def decode : Decoder Summary := .oneOf names

end Summary

namespace Aggregate

def encode (a : Aggregate) : Value :=
  .object [("field", a.field.encode), ("function", a.summary.encode), ("alias", .str a.aliasName)]

def fields : Fields Aggregate :=
  Aggregate.mk <$> .required "field" Field.decode <*> .required "function" Summary.decode <*>
    .required "alias" .string

def decode : Decoder Aggregate := fields.decode "AggregateConfig"

end Aggregate

/-! ## Queries -/

namespace Query

def encode (q : Query) : Value :=
  .object ([("id", .str q.id), ("name", .str q.name)] ++
    given "description" (q.description.map .str) ++
    [("sources", .arr (q.sources.map (·.encode))),
      ("selectedFields", .arr (q.selectedFields.map (·.encode))),
      ("joins", .arr (q.joins.map (·.encode))),
      ("filters", .arr (q.filters.map (·.encode)))] ++
    nonempty "groupBy" (q.groupBy.map (·.encode)) ++
    nonempty "having" (q.having.map (·.encode)) ++
    nonempty "orderBy" (q.orderBy.map (·.encode)) ++
    nonempty "aggregates" (q.aggregates.map (·.encode)) ++
    given "limit" (q.limit.map fun n => .nat n.toNat) ++
    [("createdAt", .str q.createdAt.text), ("updatedAt", .str q.updatedAt.text)] ++
    given "createdBy" (q.createdBy.map .str) ++
    [("isTemplate", .bool q.isTemplate)] ++
    nonempty "tags" (q.tags.map .str) ++
    [("nextAlias", .nat q.nextAlias.toNat)])

def fields : Fields Query :=
  Query.mk <$> .required "id" .string <*> .required "name" .string <*>
    .optional "description" .string <*>
    .defaulting "sources" (.list QuerySource.decode) [] <*>
    .defaulting "selectedFields" (.list Field.decode) [] <*>
    .defaulting "joins" (.list Join.decode) [] <*>
    .defaulting "filters" (.list Filter.decode) [] <*>
    .defaulting "groupBy" (.list Field.decode) [] <*>
    .defaulting "having" (.list Filter.decode) [] <*>
    .defaulting "orderBy" (.list SortKey.decode) [] <*>
    .defaulting "aggregates" (.list Aggregate.decode) [] <*>
    .optional "limit" .uint64 <*>
    .required "createdAt" .timestamp <*> .required "updatedAt" .timestamp <*>
    .optional "createdBy" .string <*> .defaulting "isTemplate" .bool false <*>
    .defaulting "tags" (.list .string) [] <*> .defaulting "nextAlias" .uint64 1

def decode : Decoder Query := fields.decode "QueryDefinition"

end Query

end CrossSource
