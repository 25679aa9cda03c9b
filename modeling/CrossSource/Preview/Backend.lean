import CrossSource.Keyed
import CrossSource.Preview.Rows

/-!
# The sample backend

Stands in for the systems that would run a query. It makes up rows, unless a result is set down for
the query's id, and it can be told to fail at its next execution.
-/

namespace CrossSource.Preview

/-- How previews are made. -/
structure Options where
  rowCount : Nat
  /-- Milliseconds that an execution is made to take. -/
  latencyMs : Nat
deriving DecidableEq, Repr

def Options.default : Options := ⟨5, 300⟩

/-- Why an execution failed. -/
structure Failure where
  reason : String
deriving DecidableEq, Repr

def Failure.message (f : Failure) : String := "preview backend failed: " ++ f.reason

structure Backend where
  options : Options
  fixtures : Keyed Result
  /-- What the next execution fails with. -/
  armed : Option Failure

namespace Backend

def new (options : Options) : Backend := ⟨options, .empty, none⟩

/-- Sets down the result for a query. -/
def setFixture (b : Backend) (id : String) (r : Result) : Backend :=
  { b with fixtures := b.fixtures.put id r }

def hasFixture (b : Backend) (id : String) : Bool := b.fixtures.contains id

def removeFixture (b : Backend) (id : String) : Backend :=
  { b with fixtures := b.fixtures.erase id }

def failNext (b : Backend) (reason : String) : Backend := { b with armed := some ⟨reason⟩ }

/-- Executes a query; `elapsed` is the time that making up rows takes. -/
def execute (b : Backend) (q : Query) (elapsed : Nat) : Backend × Except Failure Result :=
  match b.armed with
  | some failure => ({ b with armed := none }, .error failure)
  | none =>
    match b.fixtures.get? q.id with
    | some r => (b, .ok r)
    | none => (b, .ok (synthesize q b.options.rowCount elapsed))

end Backend

/-- The preview of a query by a backend of its own. -/
def preview (q : Query) (options : Options) (elapsed : Nat) : Except Failure Result :=
  ((Backend.new options).execute q elapsed).2

end CrossSource.Preview
