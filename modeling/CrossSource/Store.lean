import CrossSource.Keyed
import CrossSource.Query.Edit
import CrossSource.Validation.Rules

/-!
# The query store

Holds queries under generated ids, in the order of their creation. An enforcing store takes only
valid queries. Every write stamps the query: its id and the instant of its creation are the store's,
not the draft's. Ids and instants are handed in by the caller.
-/

namespace CrossSource

/-- Whether a store takes whatever it is given or only valid queries. -/
inductive StorePolicy where
  | trust
  | enforce
deriving DecidableEq, Repr

inductive StoreError where
  | notFound (id : String)
  | invalid (id : String) (errors : List String)
deriving DecidableEq, Repr

def StoreError.message : StoreError → String
  | notFound id => "query not found: " ++ id
  | invalid id errors =>
    "query '" ++ id ++ "' failed validation: " ++ "; ".intercalate errors

structure Store where
  queries : Keyed Query
  policy : StorePolicy
  options : Validation.Options

namespace Store

def new (policy : StorePolicy) (options : Validation.Options) : Store :=
  ⟨.empty, policy, options⟩

/-- All queries in the order of their creation. -/
def list (s : Store) : List Query := s.queries.values

def get? (s : Store) (id : String) : Option Query := s.queries.get? id

def size (s : Store) : Nat := s.queries.size

/-- The texts of all errors of a query. -/
def errorsOf (s : Store) (q : Query) : List String :=
  ((Validation.messages s.options q).filter (·.isError)).map (·.text)

/-- Why the store does not take a query, if it does not. -/
def refusal (s : Store) (q : Query) : Option StoreError :=
  match s.policy with
  | .trust => none
  | .enforce =>
    if Validation.isValid s.options q then none else some (.invalid q.id (s.errorsOf q))

/-- Writes a query under its id, unless it is refused. -/
def accept (s : Store) (q : Query) : Store × Except StoreError Query :=
  match s.refusal q with
  | some e => (s, .error e)
  | none => ({ s with queries := s.queries.put q.id q }, .ok q)

/-- Adds a draft under a fresh id. -/
def create (s : Store) (freshId : String) (now : Timestamp) (draft : Query) :
    Store × Except StoreError Query :=
  s.accept { draft with id := freshId, createdAt := now, updatedAt := now }

/-- Replaces a query by a draft. The query keeps its id and the instant of its creation. -/
def update (s : Store) (id : String) (now : Timestamp) (draft : Query) :
    Store × Except StoreError Query :=
  match s.get? id with
  | none => (s, .error (.notFound id))
  | some old => s.accept { draft with id := old.id, createdAt := old.createdAt, updatedAt := now }

/-- Updates the query of the draft's id if there is one, else adds the draft. -/
def save (s : Store) (freshId : String) (now : Timestamp) (draft : Query) :
    Store × Except StoreError Query :=
  if s.queries.contains draft.id then s.update draft.id now draft
  else s.create freshId now draft

/-- Removes a query and says whether there was one. -/
def delete (s : Store) (id : String) : Store × Bool :=
  ({ s with queries := s.queries.erase id }, s.queries.contains id)

end Store

/-- A query from a file, with the id and the instant that it is to be created with. -/
structure Incoming where
  file : String
  query : Query
  freshId : String
  now : Timestamp

/-- What became of one of several imported queries. -/
structure Imported where
  file : String
  id : Option String
  name : String
  valid : Bool
  rejected : Option String
deriving DecidableEq, Repr

/-- What is reported of a query after the answer of the store. A query that the store misses is
passed over. -/
def Incoming.report (i : Incoming) (valid : Bool) : Except StoreError Query → Option Imported
  | .ok stored => some ⟨i.file, some stored.id, i.query.name, valid, none⟩
  | .error (.notFound _) => none
  | .error (.invalid id errors) =>
    some ⟨i.file, none, i.query.name, valid, some (StoreError.invalid id errors).message⟩

/-- Adds queries from files one by one, each under a fresh id. `options` are those of the report,
which need not be the store's. -/
def Store.importAll (options : Validation.Options) : Store → List Incoming → Store × List Imported
  | s, [] => (s, [])
  | s, i :: rest =>
    let valid := Validation.isValid options i.query
    let (s, answer) := s.create i.freshId i.now i.query
    let (s, entries) := s.importAll options rest
    (s, (i.report valid answer).toList ++ entries)

end CrossSource
