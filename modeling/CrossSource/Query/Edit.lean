import CrossSource.Query.Basic

/-!
# Editing a query

An edit never fails: whatever is wrong with the result is for validation to say. A new source gets
an alias that no source of the query has; removing a source removes all that refers to it. Positions
outside a list change nothing.
-/

namespace CrossSource

inductive Edit where
  | addSource (sourceId : String) (table : Option String)
  | removeSource (index : Nat)
  | addField (field : Field)
  | removeField (index : Nat)
  | addJoin (join : Join)
  | removeJoin (index : Nat)
  | addFilter (filter : Filter)
  | removeFilter (index : Nat)
  | addGroupBy (field : Field)
  | removeGroupBy (index : Nat)
  | addHaving (filter : Filter)
  | removeHaving (index : Nat)
  | addSort (field : Field) (direction : Direction)
  | removeSort (index : Nat)
  | addAggregate (field : Field) (summary : Summary) (aliasName : String)
  | removeAggregate (index : Nat)
  | setLimit (limit : Option UInt64)

namespace Query

/-! ## Aliases -/

/-- The greatest number that a counter of 64 bits can hold. A generated alias never has it. -/
def lastOrdinal : Nat := Number.wordBound - 1

/-- The numbers in those aliases that have the form of generated ones. -/
def ordinals (q : Query) : List Nat := q.sources.filterMap (·.ordinal)

/-- The least number from `n` on that is not among `used`, looked for among `steps` candidates. -/
def leastUnused (used : List Nat) : Nat → Nat → Nat
  | 0, n => n
  | steps + 1, n => if n ∈ used then leastUnused used steps (n + 1) else n

/-- The number past both the counter and every number in use. -/
def ordinalPast (q : Query) : Nat :=
  match q.ordinals.max? with
  | some highest => max (highest + 1) q.nextAlias.toNat
  | none => max 1 q.nextAlias.toNat

/-- The number of the next alias. When the counter is used up, the least number that is not in use
takes over; one of the first `sources.length + 1` is free. -/
def nextOrdinal (q : Query) : Nat :=
  if q.ordinalPast < lastOrdinal then q.ordinalPast
  else leastUnused q.ordinals q.sources.length 1

/-- The alias of a number. -/
def aliasOf (n : Nat) : String := "s" ++ toString n

def addSource (q : Query) (sourceId : String) (table : Option String) : Query :=
  let n := q.nextOrdinal
  { q with
    sources := q.sources ++ [⟨sourceId, table, aliasOf n⟩]
    nextAlias := UInt64.ofNat (max q.nextAlias.toNat (n + 1)) }

/-- Leaves out all that refers to an alias, the sources apart. -/
def forgetAlias (q : Query) (aliasName : String) : Query :=
  { q with
    selectedFields := q.selectedFields.filter (·.source ≠ aliasName)
    joins := q.joins.filter fun j => !j.mentions aliasName
    filters := q.filters.filter (·.field.source ≠ aliasName)
    groupBy := q.groupBy.filter (·.source ≠ aliasName)
    having := q.having.filter (·.field.source ≠ aliasName)
    orderBy := q.orderBy.filter (·.field.source ≠ aliasName)
    aggregates := q.aggregates.filter (·.field.source ≠ aliasName) }

def removeSource (q : Query) (index : Nat) : Query :=
  match q.sources[index]? with
  | some s => { q with sources := q.sources.eraseIdx index }.forgetAlias s.aliasName
  | none => q

/-! ## All edits -/

def edit (q : Query) : Edit → Query
  | .addSource sourceId table => q.addSource sourceId table
  | .removeSource i => q.removeSource i
  | .addField f => { q with selectedFields := q.selectedFields ++ [f] }
  | .removeField i => { q with selectedFields := q.selectedFields.eraseIdx i }
  | .addJoin j => { q with joins := q.joins ++ [j] }
  | .removeJoin i => { q with joins := q.joins.eraseIdx i }
  | .addFilter f => { q with filters := q.filters ++ [f] }
  | .removeFilter i => { q with filters := q.filters.eraseIdx i }
  | .addGroupBy f => { q with groupBy := q.groupBy ++ [f] }
  | .removeGroupBy i => { q with groupBy := q.groupBy.eraseIdx i }
  | .addHaving f => { q with having := q.having ++ [f] }
  | .removeHaving i => { q with having := q.having.eraseIdx i }
  | .addSort f d => { q with orderBy := q.orderBy ++ [⟨f, d⟩] }
  | .removeSort i => { q with orderBy := q.orderBy.eraseIdx i }
  | .addAggregate f s a => { q with aggregates := q.aggregates ++ [⟨f, s, a⟩] }
  | .removeAggregate i => { q with aggregates := q.aggregates.eraseIdx i }
  | .setLimit n => { q with limit := n }

/-- One edit after the other. -/
def editAll (q : Query) (edits : List Edit) : Query := edits.foldl edit q

end Query

end CrossSource
