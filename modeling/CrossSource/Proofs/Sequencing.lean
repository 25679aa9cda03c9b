import CrossSource.Preview.Session
import Mathlib.Data.List.Basic
/-!
# Only the answer to the latest request counts

A `History` is a session with everything that happened around it: requests take tickets, are
executed, and are answered or dropped, in any order, and the backend is told to fail or given
results in between. After any events, tickets have been taken as 1, 2, 3, ..., a request is answered
by what the backend made of it, however long ago, just when no ticket was taken after its own, and
the session holds the result of the greatest accepted ticket (`answers_are_sequenced`).
-/

namespace CrossSource.Preview

/-! ## One answer -/

namespace Session

theorem accept_superseded {s : Session} {ticket : Nat} (h : ticket ≠ s.issued)
    (made : Except Failure Result) :
    s.accept ticket made = (s, .ok (.superseded ticket s.issued)) := if_pos h

theorem accept_error (s : Session) (f : Failure) :
    s.accept s.issued (.error f) = (s, .error f) := by
  simp [accept]

theorem accept_ok (s : Session) (r : Result) :
    s.accept s.issued (.ok r) =
      ({ s with current := some (s.issued, r) }, .ok (.current r)) := by
  simp [accept]

/-- Nothing but the current result changes when an answer is accepted or discarded. -/
theorem exists_accept_fst (s : Session) (ticket : Nat) (made : Except Failure Result) :
    ∃ current, (s.accept ticket made).1 = { s with current } := by
  by_cases h : ticket = s.issued
  · subst h
    cases made with
    | ok r => exact ⟨_, congrArg Prod.fst (s.accept_ok r)⟩
    | error f => exact ⟨_, congrArg Prod.fst (s.accept_error f)⟩
  · exact ⟨_, congrArg Prod.fst (accept_superseded h made)⟩

end Session

/-! ## Everything that happens around a session -/

inductive Event where
  | start (query : Query)
  | execute (ticket elapsed : Nat)
  | accept (ticket : Nat)
  | drop (ticket : Nat)
  | failNext (reason : String)
  | setFixture (id : String) (result : Result)
  | removeFixture (id : String)

/-- What those who request previews see. -/
inductive Note where
  | taken (ticket : Nat)
  | answered (ticket : Nat) (answer : Except Failure Outcome)

/-- A request that waits for its answer. -/
inductive Request where
  | asked (query : Query)
  /-- The backend has made this of it, which is yet to be accepted or discarded. -/
  | executed (made : Except Failure Result)

structure History where
  session : Session
  /-- The requests that wait for their answers, by ticket. -/
  waiting : List (Nat × Request)
  /-- What was seen so far, the oldest first. -/
  notes : List Note

namespace History

/-- A session that nobody has used yet. -/
def initial (b : Backend) : History := ⟨.new b, [], []⟩

def onBackend (h : History) (f : Backend → Backend) : History :=
  { h with session := { h.session with backend := f h.session.backend } }

def withdraw (h : History) (ticket : Nat) : List (Nat × Request) :=
  h.waiting.filter (·.1 != ticket)

/-- A request is executed once and answered after that. It can be dropped before or after the
execution; one that does not wait has nothing happen to it any more. -/
def step (h : History) : Event → History
  | .start q =>
    let (s, ticket) := h.session.start
    ⟨s, h.waiting ++ [(ticket, .asked q)], h.notes ++ [.taken ticket]⟩
  | .execute ticket elapsed =>
    match h.waiting.lookup ticket with
    | some (.asked q) =>
      let (s, made) := h.session.execute q elapsed
      { h with session := s, waiting := h.withdraw ticket ++ [(ticket, .executed made)] }
    | _ => h
  | .accept ticket =>
    match h.waiting.lookup ticket with
    | some (.executed made) =>
      let (s, answer) := h.session.accept ticket made
      ⟨s, h.withdraw ticket, h.notes ++ [.answered ticket answer]⟩
    | _ => h
  | .drop ticket => { h with waiting := h.withdraw ticket }
  | .failNext reason => h.onBackend (·.failNext reason)
  | .setFixture id r => h.onBackend (·.setFixture id r)
  | .removeFixture id => h.onBackend (·.removeFixture id)

/-- The history of a new session after some events. -/
def after (b : Backend) (events : List Event) : History := events.foldl step (initial b)

def latest (h : History) : Option Result := h.session.latest

/-- The tickets in the order in which they were taken. -/
def taken (h : History) : List Nat :=
  h.notes.filterMap fun
    | .taken ticket => some ticket
    | _ => none

/-- The accepted results with their tickets, in the order of acceptance. -/
def accepted (h : History) : List (Nat × Result) :=
  h.notes.filterMap fun
    | .answered ticket (.ok (.current r)) => some (ticket, r)
    | _ => none

/-- Some request took its ticket after the given one was taken. -/
def TakenLater (h : History) (ticket : Nat) : Prop := ∃ later, [ticket, later].Sublist h.taken

/-- A request is answered with what the backend made of it, which leads to the next history: it is
superseded just when a later ticket was taken, and else gets its failure or its result. Only such a
result becomes the latest one. -/
def Settles (h : History) (ticket : Nat) (made : Except Failure Result) (next : History) : Prop :=
  ∃ answer, next.notes = h.notes ++ [.answered ticket answer] ∧
    (answer = .ok (.superseded ticket h.session.issued) ↔ h.TakenLater ticket) ∧
    (h.TakenLater ticket → next.latest = h.latest) ∧
    (¬ h.TakenLater ticket →
      match made with
      | .error f => answer = .error f ∧ next.latest = h.latest
      | .ok r => answer = .ok (.current r) ∧ next.latest = some r)

/-! ## What single events do -/

variable {h : History} {ticket : Nat} {q : Query} {r : Request} {made : Except Failure Result}

theorem step_execute (hw : h.waiting.lookup ticket = some (.asked q)) (elapsed : Nat) :
    h.step (.execute ticket elapsed) =
      { h with
        session := { h.session with backend := (h.session.backend.execute q elapsed).1 }
        waiting := h.withdraw ticket ++
          [(ticket, .executed (h.session.backend.execute q elapsed).2)] } := by
  simp [step, hw, Session.execute]

theorem step_accept (hw : h.waiting.lookup ticket = some (.executed made)) :
    h.step (.accept ticket) =
      ⟨(h.session.accept ticket made).1, h.withdraw ticket,
        h.notes ++ [.answered ticket (h.session.accept ticket made).2]⟩ := by
  simp [step, hw]

/-- Only a request that was not executed before is executed. -/
theorem execute_cases (h : History) (ticket elapsed : Nat) :
    h.step (.execute ticket elapsed) = h ∨ ∃ q, h.waiting.lookup ticket = some (.asked q) := by
  cases hw : h.waiting.lookup ticket with
  | none => exact .inl (by simp [step, hw])
  | some request =>
    cases request with
    | asked q => exact .inr ⟨q, rfl⟩
    | executed _ => exact .inl (by simp [step, hw])

/-- Only a request that was executed before is answered. -/
theorem accept_cases (h : History) (ticket : Nat) :
    h.step (.accept ticket) = h ∨ ∃ made, h.waiting.lookup ticket = some (.executed made) := by
  cases hw : h.waiting.lookup ticket with
  | none => exact .inl (by simp [step, hw])
  | some request =>
    cases request with
    | asked _ => exact .inl (by simp [step, hw])
    | executed made => exact .inr ⟨made, rfl⟩

theorem mem_waiting_of_lookup (hw : h.waiting.lookup ticket = some r) :
    (ticket, r) ∈ h.waiting := by
  obtain ⟨before, after, heq, -⟩ := List.lookup_eq_some_iff.1 hw
  rw [heq]
  simp

theorem mem_withdraw {w : Nat × Request} :
    w ∈ h.withdraw ticket ↔ w ∈ h.waiting ∧ w.1 ≠ ticket := by
  simp [withdraw]

theorem lookup_withdraw (h : History) (ticket other : Nat) :
    (h.withdraw ticket).lookup other = if other = ticket then none else h.waiting.lookup other :=
  Keyed.lookup_filter_ne ticket other h.waiting

/-- What the backend has made of a request waits with it. -/
theorem lookup_executed (hw : h.waiting.lookup ticket = some (.asked q)) (elapsed : Nat) :
    (h.step (.execute ticket elapsed)).waiting.lookup ticket =
      some (.executed (h.session.backend.execute q elapsed).2) := by
  rw [step_execute hw, List.lookup_append, lookup_withdraw, if_pos rfl]
  simp

/-- It stays with the request until this is answered or dropped. -/
theorem lookup_step (hw : h.waiting.lookup ticket = some (.executed made)) {e : Event}
    (he : e ≠ .accept ticket ∧ e ≠ .drop ticket) :
    (h.step e).waiting.lookup ticket = some (.executed made) := by
  -- The other requests that an event is about may be withdrawn and wait again at the end.
  have hothers : ∀ other ≠ ticket, (h.withdraw other).lookup ticket = some (.executed made) := by
    intro other hne
    rw [lookup_withdraw, if_neg (Ne.symm hne), hw]
  cases e with
  | start q =>
    simp only [step, Session.start]
    rw [List.lookup_append, hw, Option.some_or]
  | execute other elapsed =>
    rcases h.execute_cases other elapsed with heq | ⟨q, hq⟩
    · rw [heq]
      exact hw
    · have hother : other ≠ ticket := by
        rintro rfl
        rw [hw] at hq
        cases hq
      rw [step_execute hq, List.lookup_append, hothers other hother, Option.some_or]
  | accept other =>
    rcases h.accept_cases other with heq | ⟨_, hmade⟩
    · rw [heq]
      exact hw
    · rw [step_accept hmade]
      exact hothers other fun heq => he.1 (congrArg Event.accept heq)
  | drop other => exact hothers other fun heq => he.2 (congrArg Event.drop heq)
  | failNext _ | setFixture _ _ | removeFixture _ => exact hw

theorem lookup_steps (hw : h.waiting.lookup ticket = some (.executed made)) {events : List Event}
    (he : ∀ e ∈ events, e ≠ .accept ticket ∧ e ≠ .drop ticket) :
    (events.foldl step h).waiting.lookup ticket = some (.executed made) := by
  induction events generalizing h with
  | nil => exact hw
  | cons e events ih =>
    rw [List.forall_mem_cons] at he
    exact ih (lookup_step hw he.1) he.2

/-- Nothing but an answer changes the latest result. -/
theorem latest_step {e : Event} (he : ∀ ticket, e ≠ .accept ticket) :
    (h.step e).latest = h.latest := by
  cases e with
  | execute ticket elapsed =>
    rcases h.execute_cases ticket elapsed with heq | ⟨q, hq⟩
    · rw [heq]
    · rw [step_execute hq]
      rfl
  | accept ticket => exact absurd rfl (he ticket)
  | _ => rfl

/-! ## What every event keeps -/

/-- The counter tells the tickets taken, and the session holds what was accepted last. -/
structure Orderly (h : History) : Prop where
  taken_eq : h.taken = List.range' 1 h.session.issued
  waiting_taken : ∀ w ∈ h.waiting, 1 ≤ w.1 ∧ w.1 ≤ h.session.issued
  accepted_taken : ∀ a ∈ h.accepted, a.1 ≤ h.session.issued
  accepted_done : ∀ a ∈ h.accepted, ∀ w ∈ h.waiting, a.1 ≠ w.1
  increasing : (h.accepted.map Prod.fst).Pairwise (· < ·)
  current_eq : h.session.current = h.accepted.getLast?

theorem orderly_initial (b : Backend) : Orderly (initial b) := by
  constructor <;> simp [initial, taken, accepted, Session.new]

/-- A step after which no other tickets wait, and by which none is taken and nothing accepted,
leaves all in order. -/
theorem Orderly.leave (ho : Orderly h) {h' : History}
    (hissued : h'.session.issued = h.session.issued) (hcur : h'.session.current = h.session.current)
    (hwait : ∀ w ∈ h'.waiting, ∃ v ∈ h.waiting, v.1 = w.1) (htaken : h'.taken = h.taken)
    (haccepted : h'.accepted = h.accepted) : Orderly h' where
  taken_eq := by rw [htaken, hissued]; exact ho.taken_eq
  waiting_taken w hw := by
    obtain ⟨v, hv, heq⟩ := hwait w hw
    rw [hissued, ← heq]
    exact ho.waiting_taken v hv
  accepted_taken a ha := by
    rw [haccepted] at ha
    rw [hissued]
    exact ho.accepted_taken a ha
  accepted_done a ha w hw := by
    obtain ⟨v, hv, heq⟩ := hwait w hw
    rw [haccepted] at ha
    rw [← heq]
    exact ho.accepted_done a ha v hv
  increasing := by rw [haccepted]; exact ho.increasing
  current_eq := by rw [hcur, haccepted]; exact ho.current_eq

theorem exists_of_mem_withdraw {w : Nat × Request} (hw : w ∈ h.withdraw ticket) :
    ∃ v ∈ h.waiting, v.1 = w.1 := ⟨w, (mem_withdraw.1 hw).1, rfl⟩

theorem Orderly.onBackend (ho : Orderly h) (f : Backend → Backend) : Orderly (h.onBackend f) :=
  ⟨ho.taken_eq, ho.waiting_taken, ho.accepted_taken, ho.accepted_done, ho.increasing, ho.current_eq⟩

theorem Orderly.start (ho : Orderly h) (q : Query) : Orderly (h.step (.start q)) where
  taken_eq := by
    have htaken : (h.step (.start q)).taken = h.taken ++ [h.session.issued + 1] := by
      simp [step, taken, Session.start]
    rw [htaken, ho.taken_eq]
    simp only [step, Session.start]
    rw [List.range'_1_concat, Nat.add_comm]
  waiting_taken w hw := by
    simp only [step, Session.start, List.mem_append, List.mem_singleton] at hw ⊢
    rcases hw with hw | rfl
    · have := ho.waiting_taken w hw
      omega
    · omega
  accepted_taken a ha := by
    have hle := ho.accepted_taken a (by simpa [step, accepted] using ha)
    simp only [step, Session.start]
    omega
  accepted_done a ha w hw := by
    have ha' : a ∈ h.accepted := by simpa [step, accepted] using ha
    simp only [step, Session.start, List.mem_append, List.mem_singleton] at hw
    rcases hw with hw | rfl
    · exact ho.accepted_done a ha' w hw
    · have := ho.accepted_taken a ha'
      simp only
      omega
  increasing := by simpa [step, accepted] using ho.increasing
  current_eq := by simpa [step, accepted, Session.start] using ho.current_eq

theorem Orderly.execute (ho : Orderly h) (ticket elapsed : Nat) :
    Orderly (h.step (.execute ticket elapsed)) := by
  rcases h.execute_cases ticket elapsed with heq | ⟨q, hq⟩
  · rw [heq]
    exact ho
  · rw [step_execute hq]
    refine ho.leave rfl rfl (fun w hw => ?_) rfl rfl
    rcases List.mem_append.1 hw with hw | hw
    · exact exists_of_mem_withdraw hw
    · rw [List.mem_singleton.1 hw]
      exact ⟨_, mem_waiting_of_lookup hq, rfl⟩

/-- All results accepted before have lower tickets than one that is accepted now. -/
theorem Orderly.lt_of_waiting (ho : Orderly h) (hw : (h.session.issued, r) ∈ h.waiting) :
    ∀ a ∈ h.accepted, a.1 < h.session.issued := by
  intro a ha
  have hle := ho.accepted_taken a ha
  have hne := ho.accepted_done a ha _ hw
  simp only at hne
  omega

theorem accepted_concat (h : History) (s : Session) (waiting : List (Nat × Request)) (ticket : Nat)
    (result : Result) :
    accepted ⟨s, waiting, h.notes ++ [.answered ticket (.ok (.current result))]⟩ =
      h.accepted ++ [(ticket, result)] := by
  simp [accepted]

theorem Orderly.accept_ok (ho : Orderly h) {result : Result}
    (hw : h.waiting.lookup h.session.issued = some (.executed (.ok result))) :
    Orderly (h.step (.accept h.session.issued)) := by
  have hbelow := ho.lt_of_waiting (mem_waiting_of_lookup hw)
  rw [step_accept hw, Session.accept_ok]
  refine ⟨?_, ?_, ?_, ?_, ?_, ?_⟩
  · simpa [taken] using ho.taken_eq
  · intro w hw'
    exact ho.waiting_taken w (mem_withdraw.1 hw').1
  · rw [accepted_concat]
    intro a ha
    rcases List.mem_append.1 ha with ha | ha
    · exact ho.accepted_taken a ha
    · exact Nat.le_of_eq (congrArg Prod.fst (List.mem_singleton.1 ha))
  · rw [accepted_concat]
    intro a ha w hw'
    obtain ⟨hwait, hne⟩ := mem_withdraw.1 hw'
    rcases List.mem_append.1 ha with ha | ha
    · exact ho.accepted_done a ha w hwait
    · rw [List.mem_singleton.1 ha]
      exact Ne.symm hne
  · rw [accepted_concat, List.map_append, List.pairwise_append]
    refine ⟨ho.increasing, by simp, ?_⟩
    intro x hx y hy
    obtain ⟨a, ha, rfl⟩ := List.mem_map.1 hx
    rw [List.map_singleton, List.mem_singleton] at hy
    rw [hy]
    exact hbelow a ha
  · rw [accepted_concat, List.getLast?_concat]

theorem Orderly.accept (ho : Orderly h) (ticket : Nat) : Orderly (h.step (.accept ticket)) := by
  rcases h.accept_cases ticket with heq | ⟨made, hw⟩
  · rw [heq]
    exact ho
  · have hwithdraw : ∀ w ∈ h.withdraw ticket, ∃ v ∈ h.waiting, v.1 = w.1 :=
      fun _ => exists_of_mem_withdraw
    by_cases ht : ticket = h.session.issued
    · subst ht
      cases made with
      | ok result => exact ho.accept_ok hw
      | error f =>
        rw [step_accept hw, Session.accept_error]
        exact ho.leave rfl rfl hwithdraw (by simp [taken]) (by simp [accepted])
    · rw [step_accept hw, Session.accept_superseded ht]
      exact ho.leave rfl rfl hwithdraw (by simp [taken]) (by simp [accepted])

theorem Orderly.step (ho : Orderly h) (e : Event) : Orderly (h.step e) := by
  cases e with
  | start q => exact ho.start q
  | execute ticket elapsed => exact ho.execute ticket elapsed
  | accept ticket => exact ho.accept ticket
  | drop ticket => exact ho.leave rfl rfl (fun _ => exists_of_mem_withdraw) rfl rfl
  | failNext reason => exact ho.onBackend fun b => b.failNext reason
  | setFixture id r => exact ho.onBackend fun b => b.setFixture id r
  | removeFixture id => exact ho.onBackend fun b => b.removeFixture id

theorem Orderly.steps (ho : Orderly h) (events : List Event) :
    Orderly (events.foldl History.step h) := by
  induction events generalizing h with
  | nil => exact ho
  | cons e events ih => exact ih (ho.step e)

theorem orderly_after (b : Backend) (events : List Event) : Orderly (after b events) :=
  (orderly_initial b).steps events

/-! ## How far the counter goes -/

theorem issued_step_le (h : History) (e : Event) :
    (h.step e).session.issued ≤ h.session.issued + 1 := by
  cases e with
  | execute ticket elapsed =>
    rcases h.execute_cases ticket elapsed with heq | ⟨q, hq⟩
    · rw [heq]
      exact Nat.le_succ _
    · rw [step_execute hq]
      exact Nat.le_succ _
  | accept ticket =>
    rcases h.accept_cases ticket with heq | ⟨made, hw⟩
    · rw [heq]
      exact Nat.le_succ _
    · obtain ⟨current, hsession⟩ := h.session.exists_accept_fst ticket made
      rw [step_accept hw, hsession]
      exact Nat.le_succ _
  | start q => exact Nat.le_refl _
  | _ => exact Nat.le_succ _

/-- Each event takes one ticket at most. -/
theorem issued_steps_le (h : History) (events : List Event) :
    (events.foldl step h).session.issued ≤ h.session.issued + events.length := by
  induction events generalizing h with
  | nil => exact Nat.le_refl _
  | cons e events ih =>
    have hstep := issued_step_le h e
    have hrest := ih (h.step e)
    rw [List.foldl_cons, List.length_cons]
    omega

theorem issued_after_le (b : Backend) (events : List Event) :
    (after b events).session.issued ≤ events.length := by
  have hsteps := issued_steps_le (initial b) events
  rwa [initial, Session.new, Nat.zero_add] at hsteps

/-- Up to 2^64 events, tickets that are kept in words of 64 bits are told apart as they are here. -/
theorem ofNat_eq_ofNat_issued_iff (b : Backend) {events : List Event}
    (hfew : events.length < UInt64.size) {w : Nat × Request} (hw : w ∈ (after b events).waiting) :
    UInt64.ofNat w.1 = UInt64.ofNat (after b events).session.issued ↔
      w.1 = (after b events).session.issued := by
  have hissued := issued_after_le b events
  have hticket := ((orderly_after b events).waiting_taken w hw).2
  rw [← UInt64.toNat_inj, UInt64.toNat_ofNat_of_lt' (by omega),
    UInt64.toNat_ofNat_of_lt' (by omega)]

/-! ## Which answers count -/

/-- A later ticket has been taken just when the counter is past the ticket. -/
theorem Orderly.takenLater_iff (ho : Orderly h) (ht : 1 ≤ ticket ∧ ticket ≤ h.session.issued) :
    h.TakenLater ticket ↔ ticket ≠ h.session.issued := by
  rw [TakenLater, ho.taken_eq]
  constructor
  · rintro ⟨later, hsub⟩ heq
    have hlt : ticket < later := by
      have := List.Pairwise.sublist hsub (List.pairwise_lt_range' 1)
      simpa using this
    have hmem := hsub.subset (List.mem_cons_of_mem _ (List.mem_singleton_self later))
    rw [List.mem_range'_1] at hmem
    omega
  · intro hne
    -- The counter has gone on, so the next number has been given out too.
    refine ⟨ticket + 1, ?_⟩
    have hsplit : List.range' 1 h.session.issued = List.range' 1 (ticket - 1) ++
        ticket :: List.range' (ticket + 1) (h.session.issued - ticket) := by
      rw [← List.range'_succ, show List.range' ticket (h.session.issued - ticket + 1) =
        List.range' (1 + (ticket - 1)) (h.session.issued - ticket + 1) by congr 1; omega,
        List.range'_append_1]
      congr 1
      omega
    rw [hsplit]
    refine List.sublist_append_of_sublist_right (List.Sublist.cons_cons _ ?_)
    rw [List.singleton_sublist, List.mem_range'_1]
    omega

theorem Orderly.settles (ho : Orderly h) (hw : h.waiting.lookup ticket = some (.executed made)) :
    h.Settles ticket made (h.step (.accept ticket)) := by
  have ht := ho.waiting_taken _ (mem_waiting_of_lookup hw)
  rw [Settles, ho.takenLater_iff ht, step_accept hw]
  by_cases heq : ticket = h.session.issued
  · subst heq
    cases made with
    | ok result =>
      rw [Session.accept_ok]
      exact ⟨_, rfl, by simp, fun hne => absurd rfl hne, fun _ => ⟨rfl, rfl⟩⟩
    | error f =>
      rw [Session.accept_error]
      exact ⟨_, rfl, by simp, fun hne => absurd rfl hne, fun _ => ⟨rfl, rfl⟩⟩
  · rw [Session.accept_superseded heq]
    exact ⟨_, rfl, by simp [heq], fun _ => rfl, fun hnot => absurd heq hnot⟩

/-- A request that is answered as soon as it is executed. -/
theorem Orderly.settles_at_once (ho : Orderly h) (hw : h.waiting.lookup ticket = some (.asked q))
    (elapsed : Nat) :
    h.Settles ticket (h.session.backend.execute q elapsed).2
      ((h.step (.execute ticket elapsed)).step (.accept ticket)) := by
  have hsettles := (ho.execute ticket elapsed).settles (lookup_executed hw elapsed)
  -- The execution is not noted and changes neither the counter nor the latest result.
  rw [step_execute hw] at hsettles ⊢
  exact hsettles

/-- The session holds the accepted result of the greatest ticket. -/
theorem Orderly.latest_eq_some_iff (ho : Orderly h) (r : Result) :
    h.latest = some r ↔ ∃ ticket, (ticket, r) ∈ h.accepted ∧ ∀ a ∈ h.accepted, a.1 ≤ ticket := by
  have hinc := ho.increasing
  rw [latest, Session.latest, ho.current_eq]
  rcases List.eq_nil_or_concat h.accepted with hnil | ⟨earlier, last, hlast⟩
  · simp [hnil]
  · rw [List.concat_eq_append] at hlast
    rw [hlast, List.map_append, List.pairwise_append] at hinc
    have hbelow : ∀ a ∈ earlier, a.1 < last.1 := fun a ha =>
      hinc.2.2 _ (List.mem_map_of_mem ha) _ (by simp)
    rw [hlast, List.getLast?_concat, Option.map_some, Option.some.injEq]
    constructor
    · rintro rfl
      refine ⟨last.1, by simp, fun a ha => ?_⟩
      rcases List.mem_append.1 ha with ha | ha
      · exact Nat.le_of_lt (hbelow a ha)
      · exact Nat.le_of_eq (by rw [List.mem_singleton.1 ha])
    · rintro ⟨ticket, hmem, hmax⟩
      rcases List.mem_append.1 hmem with hmem | hmem
      · have hlt := hbelow _ hmem
        have hle := hmax last (by simp)
        simp only at hlt
        omega
      · rw [← List.mem_singleton.1 hmem]

theorem Orderly.latest_eq_none_iff (ho : Orderly h) : h.latest = none ↔ h.accepted = [] := by
  rw [latest, Session.latest, ho.current_eq, Option.map_eq_none_iff, List.getLast?_eq_none_iff]

end History

/-- After any events around a session:
tickets were taken as 1, 2, 3, ..., one for each event at most, and words of 64 bits tell them apart
up to 2^64 events;
a request that is executed keeps what the backend made of it, whatever happens before it is answered
or dropped, and when it is answered it is superseded just when a later ticket was taken by then, and
else gets what the backend made of it;
nothing but an answer changes the latest result;
accepted tickets grow, and the session holds the result of the greatest one. -/
theorem answers_are_sequenced (b : Backend) (events : List Event) :
    let h := History.after b events
    h.taken = List.range' 1 h.session.issued ∧
    h.session.issued ≤ events.length ∧
    (events.length < UInt64.size → ∀ w ∈ h.waiting,
      UInt64.ofNat w.1 = UInt64.ofNat h.session.issued ↔ w.1 = h.session.issued) ∧
    (∀ ticket q elapsed, h.waiting.lookup ticket = some (.asked q) →
      let made := (h.session.backend.execute q elapsed).2
      let executed := h.step (.execute ticket elapsed)
      h.Settles ticket made (executed.step (.accept ticket)) ∧
      ∀ between : List Event, (∀ e ∈ between, e ≠ .accept ticket ∧ e ≠ .drop ticket) →
        let now := between.foldl History.step executed
        now.Settles ticket made (now.step (.accept ticket))) ∧
    (∀ ticket made, h.waiting.lookup ticket = some (.executed made) →
      h.Settles ticket made (h.step (.accept ticket))) ∧
    (∀ e, (∀ ticket, e ≠ .accept ticket) → (h.step e).latest = h.latest) ∧
    (h.accepted.map Prod.fst).Pairwise (· < ·) ∧
    (h.latest = none ↔ h.accepted = []) ∧
    ∀ r, h.latest = some r ↔
      ∃ ticket, (ticket, r) ∈ h.accepted ∧ ∀ a ∈ h.accepted, a.1 ≤ ticket := by
  intro h
  have ho : h.Orderly := History.orderly_after b events
  refine ⟨ho.taken_eq, History.issued_after_le b events,
    fun hfew _ hw => History.ofNat_eq_ofNat_issued_iff b hfew hw, fun ticket q elapsed hw => ?_,
    fun _ _ hw => ho.settles hw, fun _ he => History.latest_step he, ho.increasing,
    ho.latest_eq_none_iff, ho.latest_eq_some_iff⟩
  refine ⟨ho.settles_at_once hw elapsed, fun between hbetween => ?_⟩
  exact ((ho.execute ticket elapsed).steps between).settles
    (History.lookup_steps (History.lookup_executed hw elapsed) hbetween)

def blank : Query := .new "q" "blank" ⟨0, 0⟩

/-- A request is about to be executed, and that will fail. -/
def doomed : History := .after (.new .default) [.start blank, .failNext "down"]

/-- Once it has failed it is overtaken by a request that is dropped. -/
def overtaken : History :=
  [.start blank, .execute 2 0, .drop 2].foldl History.step (doomed.step (.execute 1 0))

/-- A stale failure is not told to anybody. -/
theorem stale_failure_is_discarded :
    doomed.waiting.lookup 1 = some (.asked blank) ∧
      (doomed.session.backend.execute blank 0).2 = .error ⟨"down"⟩ ∧
      (overtaken.step (.accept 1)).notes =
        overtaken.notes ++ [.answered 1 (.ok (.superseded 1 2))] ∧
      (overtaken.step (.accept 1)).latest = overtaken.latest := by
  have hw : doomed.waiting.lookup 1 = some (.asked blank) := rfl
  have hbetween : ∀ e ∈ [Event.start blank, .execute 2 0, .drop 2],
      e ≠ .accept 1 ∧ e ≠ .drop 1 := by simp
  obtain ⟨-, hlate⟩ :=
    (answers_are_sequenced (.new .default) [.start blank, .failNext "down"]).2.2.2.1
      1 blank 0 hw
  obtain ⟨answer, hnotes, hsuperseded, hlatest, -⟩ := hlate _ hbetween
  have hlater : overtaken.TakenLater 1 := ⟨2, by decide⟩
  refine ⟨hw, rfl, ?_, hlatest hlater⟩
  have hanswer : answer = .ok (.superseded 1 2) := hsuperseded.2 hlater
  rw [← hanswer]
  exact hnotes

end CrossSource.Preview
