import CrossSource.Partition
import CrossSource.Query.Basic
import CrossSource.Validation.Message

/-!
# Every query needs content, and its sources have to hang together

A query needs a source and a selected field. With several sources it needs joins that connect each
of them with the first one: `disconnected` lists those that no chain of joins reaches.
-/

namespace CrossSource

open Document

namespace Query

/-- The first position of an alias among the sources. -/
def positionOf (q : Query) (aliasName : String) : Option Nat := q.aliases.idxOf? aliasName

/-- The positions that a join connects, if both its sides belong to sources of the query. -/
def joinedPositions (q : Query) (j : Join) : Option (Nat × Nat) :=
  match q.positionOf j.left.source, q.positionOf j.right.source with
  | some l, some r => some (l, r)
  | _, _ => none

/-- The positions of the sources, united along the joins. -/
def components (q : Query) : Partition :=
  (q.joins.filterMap q.joinedPositions).foldl (fun p e => p.union e.1 e.2)
    (.discrete q.sources.length)

/-- The aliases of the sources that are not connected with the first one, in their order. -/
def disconnected (q : Query) : List String :=
  let p := q.components
  (q.aliases.zipIdx.filter fun a => p.root a.2 ≠ p.root 0).map Prod.fst

end Query

namespace Validation

def sourcesPresent (q : Query) : List Message :=
  if q.sources.isEmpty then
    [.error .noSources "Query must include at least one data source"]
  else []

def fieldsPresent (q : Query) : List Message :=
  if q.selectedFields.isEmpty then
    [.error .noFields "Query must select at least one field"]
  else []

/-- There are fewer joins than a connected query has. -/
def tooFewJoins (sources joins : Nat) : Message :=
  let required := sources - 1
  (Message.error .missingJoins
    (s!"Query uses {sources} sources but defines {joins} join(s); " ++
      s!"at least {required} join(s) are required")).withContext
    [("sources", .int sources), ("joins", .int joins), ("required", .int required)]

/-- Enough joins, but they leave out some sources. -/
def notJoined (sources joins : Nat) (first : String) (rest : List String) : Message :=
  let left := first :: rest
  ((Message.error .missingJoins
    ("Source(s) " ++ ", ".intercalate left ++
      " are not joined to the rest of the query")).withSource first).withContext
    [("sources", .int sources), ("joins", .int joins), ("disconnected", .arr (left.map .str))]

def sourcesJoined (q : Query) : List Message :=
  let sources := q.sources.length
  let joins := q.joins.length
  if sources < 2 then []
  else if joins < sources - 1 then [tooFewJoins sources joins]
  else match q.disconnected with
    | [] => []
    | first :: rest => [notJoined sources joins first rest]

end Validation

end CrossSource
