import CrossSource.Preview.Backend

/-!
# Preview sessions

While a query is edited, previews are requested again and again, and answers may come late. Each
request takes the next ticket; an answer counts only if no later ticket has been taken by the time
it arrives. Much may happen between the three steps of a request: that it takes its ticket, that
the backend executes it, and that the answer is accepted or discarded.
-/

namespace CrossSource.Preview

structure Session where
  backend : Backend
  /-- The number of tickets taken so far, which is also the latest ticket. It has no bound here; a
  word of 64 bits holds it, and tells tickets apart as it does, up to 2^64 - 1 requests
  (`History.ofNat_eq_ofNat_issued_iff`). -/
  issued : Nat
  /-- The latest result that counted, with its ticket. -/
  current : Option (Nat × Result)

/-- What became of a request. -/
inductive Outcome where
  | current (result : Result)
  | superseded (ticket latest : Nat)

namespace Session

def new (backend : Backend) : Session := ⟨backend, 0, none⟩

/-- The latest result that counted. -/
def latest (s : Session) : Option Result := s.current.map Prod.snd

/-- Takes the next ticket. -/
def start (s : Session) : Session × Nat := ({ s with issued := s.issued + 1 }, s.issued + 1)

/-- Has the backend execute a query. -/
def execute (s : Session) (q : Query) (elapsed : Nat) : Session × Except Failure Result :=
  let (backend, made) := s.backend.execute q elapsed
  ({ s with backend }, made)

/-- Accepts or discards what the backend made of the request of a ticket. -/
def accept (s : Session) (ticket : Nat) (made : Except Failure Result) :
    Session × Except Failure Outcome :=
  if ticket ≠ s.issued then (s, .ok (.superseded ticket s.issued))
  else match made with
    | .error failure => (s, .error failure)
    | .ok result => ({ s with current := some (ticket, result) }, .ok (.current result))

/-- Executes the query of a ticket and at once accepts or discards the answer. -/
def finish (s : Session) (ticket : Nat) (q : Query) (elapsed : Nat) :
    Session × Except Failure Outcome :=
  let (s, made) := s.execute q elapsed
  s.accept ticket made

/-- A request that is answered at once. -/
def run (s : Session) (q : Query) (elapsed : Nat) : Session × Except Failure Outcome :=
  let (s, ticket) := s.start
  s.finish ticket q elapsed

end Session

end CrossSource.Preview
