import CrossSource.Query.Basic
import CrossSource.Validation.Message

/-!
# Aliases and what refers to them

The aliases of the sources have to differ, and every field of a query should belong to one of its
sources. A query without sources is not searched for such fields.
-/

namespace CrossSource

open Document

namespace Query

/-- The elements of a list with their places in a document. -/
def placed {α : Type} (name : String) (as : List α) : List (String × α) :=
  as.zipIdx.map fun (a, i) => (s!"{name}[{i}]", a)

/-- All fields that a query refers to, with their places, in the order of the document. -/
def references (q : Query) : List (String × Field) :=
  placed "selectedFields" q.selectedFields ++
  ((placed "joins" q.joins).flatMap fun (path, j) =>
    [(path ++ ".leftField", j.left), (path ++ ".rightField", j.right)]) ++
  ((placed "filters" q.filters).map fun (path, f) => (path ++ ".field", f.field)) ++
  placed "groupBy" q.groupBy ++
  ((placed "having" q.having).map fun (path, f) => (path ++ ".field", f.field)) ++
  ((placed "orderBy" q.orderBy).map fun (path, s) => (path ++ ".field", s.field)) ++
  ((placed "aggregates" q.aggregates).map fun (path, a) => (path ++ ".field", a.field))

end Query

namespace Validation

def aliasRepeated (index : Nat) (aliasName : String) : Message :=
  ((Message.error .duplicateAlias
    s!"Source alias '{aliasName}' is used more than once").withSource aliasName).withContext
    [("index", .int index)]

/-- One message for each source whose alias an earlier one has. -/
def aliasesDiffer (q : Query) : List Message :=
  q.aliases.zipIdx.flatMap fun (aliasName, i) =>
    if aliasName ∈ q.aliases.take i then [aliasRepeated i aliasName] else []

def sourceUnknown (path : String) (f : Field) : Message :=
  (((Message.warning .unknownSource
    (s!"Field '{f.name}' at {path} refers to source '{f.source}', " ++
      "which is not part of the query")).withField f.name).withSource f.source).withContext
    [("path", .str path)]

/-- One message for each reference to a source that the query does not have. -/
def sourcesKnown (q : Query) : List Message :=
  if q.sources.isEmpty then []
  else q.references.flatMap fun (path, f) =>
    if f.source ∈ q.aliases then [] else [sourceUnknown path f]

end Validation

end CrossSource
