import CrossSource.Catalog.Tables

/-!
# The registry of data sources

Data sources under their ids, in the order of registration. A registry built from a list lets a
later source replace an earlier one of the same id; registering under an id that is taken fails.
-/

namespace CrossSource.Catalog

inductive RegistryError where
  | notFound (id : String)
  | alreadyExists (id : String)
deriving DecidableEq, Repr

def RegistryError.message : RegistryError → String
  | notFound id => "data source not found: " ++ id
  | alreadyExists id => "data source already registered: " ++ id

structure Registry where
  sources : Keyed DataSource

namespace Registry

def empty : Registry := ⟨.empty⟩

def ofSources (ds : List DataSource) : Registry := ⟨.ofList (ds.map fun d => (d.id, d))⟩

def list (r : Registry) : List DataSource := r.sources.values

def get? (r : Registry) (id : String) : Option DataSource := r.sources.get? id

def register (r : Registry) (d : DataSource) : Except RegistryError Registry :=
  if r.sources.contains d.id then .error (.alreadyExists d.id)
  else .ok ⟨r.sources.put d.id d⟩

/-- Removes a source and says whether there was one. -/
def remove (r : Registry) (id : String) : Registry × Bool :=
  (⟨r.sources.erase id⟩, r.sources.contains id)

/-- The tables of a registered source. -/
def catalogOf (r : Registry) (id : String) : Except RegistryError TableCatalog :=
  match r.get? id with
  | some d => .ok (.ofTables d.tables)
  | none => .error (.notFound id)

/-- The fields that a query source exposes. -/
def fieldsOf (r : Registry) (s : QuerySource) : Except RegistryError (List Field) :=
  (r.catalogOf s.sourceId).map (·.fieldsOf s)

end Registry

end CrossSource.Catalog
