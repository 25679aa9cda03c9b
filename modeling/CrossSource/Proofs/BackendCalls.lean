import CrossSource.Proofs.SampleRows
import CrossSource.Proofs.Sequencing
/-!
# What a backend answers follows from what it was asked for

A backend remembers of its calls one reason to fail and one result for each id. The reason is the
last one that was given since the last execution (`armed_after`), the result the last one that was
set down for the id and not removed since (`get?_fixtures_after`). So the answer to any call follows
from the calls before it, and a session calls the backend once for each request that is executed,
whether its answer counts later, is discarded or is not waited for (`answers_follow_calls`).
-/

namespace CrossSource.Preview

/-! ## Calls -/

/-- What a backend is asked for. -/
inductive Call where
  | failNext (reason : String)
  | setFixture (id : String) (result : Result)
  | removeFixture (id : String)
  | execute (query : Query) (elapsed : Nat)

namespace Call

def Executes (c : Call) : Prop := ∃ q elapsed, c = execute q elapsed

/-- The call arms the backend with a reason to fail, or uses one up. -/
def AboutFailure (c : Call) : Prop := (∃ reason, c = failNext reason) ∨ c.Executes

/-- The call sets down a result for the id or removes it. -/
def AboutFixture (id : String) (c : Call) : Prop :=
  (∃ r, c = setFixture id r) ∨ c = removeFixture id

end Call

/-- What a call is answered with. -/
inductive Answer where
  | done
  | removed (was : Bool)
  | executed (answer : Except Failure Result)

namespace Backend

variable {b : Backend} {options : Options} {calls : List Call} {q : Query} {id : String}
  {elapsed : Nat}

def perform (b : Backend) : Call → Backend × Answer
  | .failNext reason => (b.failNext reason, .done)
  | .setFixture id r => (b.setFixture id r, .done)
  | .removeFixture id => (b.removeFixture id, .removed (b.hasFixture id))
  | .execute q elapsed => ((b.execute q elapsed).1, .executed (b.execute q elapsed).2)

def run (b : Backend) (calls : List Call) : Backend := calls.foldl (fun b c => (b.perform c).1) b

/-- A new backend after some calls. -/
def after (options : Options) (calls : List Call) : Backend := (new options).run calls

theorem after_concat (options : Options) (calls : List Call) (c : Call) :
    after options (calls ++ [c]) = ((after options calls).perform c).1 := by
  simp [after, run]

/-! ## One execution -/

/-- An execution changes nothing but that there is no reason to fail any more. -/
theorem execute_fst (b : Backend) (q : Query) (elapsed : Nat) :
    (b.execute q elapsed).1 = { b with armed := none } := by
  obtain ⟨options, fixtures, armed⟩ := b
  unfold execute
  cases armed with
  | some f => rfl
  | none => cases fixtures.get? q.id <;> rfl

theorem execute_eq_error_iff {f : Failure} :
    (b.execute q elapsed).2 = .error f ↔ b.armed = some f := by
  unfold execute
  cases b.armed with
  | some f' => simp
  | none => cases b.fixtures.get? q.id <;> simp

theorem execute_of_fixture (hnone : b.armed = none) {r : Result}
    (hr : b.fixtures.get? q.id = some r) : (b.execute q elapsed).2 = .ok r := by
  simp only [execute, hnone, hr]

theorem execute_of_none (hnone : b.armed = none) (hr : b.fixtures.get? q.id = none) :
    (b.execute q elapsed).2 = .ok (synthesize q b.options.rowCount elapsed) := by
  simp only [execute, hnone, hr]

/-! ## What is remembered of the calls -/

theorem options_after (options : Options) (calls : List Call) :
    (after options calls).options = options := by
  induction calls using List.reverseRecOn with
  | nil => rfl
  | append_singleton calls c ih =>
    rw [after_concat]
    cases c with
    | execute q elapsed => exact (congrArg Backend.options (execute_fst _ q elapsed)).trans ih
    | _ => exact ih

theorem armed_after (options : Options) (calls : List Call) (reason : String) :
    (after options calls).armed = some ⟨reason⟩ ↔
      IsLast Call.AboutFailure calls (.failNext reason) := by
  induction calls using List.reverseRecOn with
  | nil => exact ⟨fun h => (nomatch h), fun h => absurd h not_isLast_nil⟩
  | append_singleton calls c ih =>
    rw [after_concat]
    cases c with
    | failNext reason' =>
      rw [isLast_concat_of_pos (.inl ⟨reason', rfl⟩)]
      simp [perform, failNext, eq_comm]
    | execute q elapsed =>
      rw [isLast_concat_of_pos (.inr ⟨q, elapsed, rfl⟩)]
      simp [perform, execute_fst]
    | setFixture _ _ | removeFixture _ =>
      rw [isLast_concat_of_neg (by simp [Call.AboutFailure, Call.Executes])]
      exact ih

theorem get?_fixtures_after (options : Options) (calls : List Call) (id : String) (r : Result) :
    (after options calls).fixtures.get? id = some r ↔
      IsLast (Call.AboutFixture id) calls (.setFixture id r) := by
  induction calls using List.reverseRecOn with
  | nil => exact ⟨fun h => (nomatch h), fun h => absurd h not_isLast_nil⟩
  | append_singleton calls c ih =>
    rw [after_concat]
    cases c with
    | failNext reason =>
      rw [isLast_concat_of_neg (by simp [Call.AboutFixture])]
      exact ih
    | execute q elapsed =>
      rw [isLast_concat_of_neg (by simp [Call.AboutFixture]), perform, execute_fst]
      exact ih
    | setFixture id' r' =>
      simp only [perform, setFixture, Keyed.get?_put]
      by_cases hid : id = id'
      · subst hid
        rw [isLast_concat_of_pos (.inl ⟨r', rfl⟩)]
        simp [eq_comm]
      · rw [isLast_concat_of_neg (by simp [Call.AboutFixture, Ne.symm hid]), if_neg hid]
        exact ih
    | removeFixture id' =>
      simp only [perform, removeFixture, Keyed.get?_erase]
      by_cases hid : id = id'
      · subst hid
        rw [isLast_concat_of_pos (.inr rfl)]
        simp
      · rw [isLast_concat_of_neg (by simp [Call.AboutFixture, Ne.symm hid]), if_neg hid]
        exact ih

/-- A backend that will fail was given a reason since the last execution. -/
theorem isSome_armed_after_iff (options : Options) (calls : List Call) :
    (∃ f, (after options calls).armed = some f) ↔ ∃ before reason later,
      calls = before ++ .failNext reason :: later ∧ ∀ c ∈ later, ¬ c.Executes := by
  constructor
  · rintro ⟨⟨reason⟩, harmed⟩
    obtain ⟨-, before, later, heq, hlater⟩ := (armed_after options calls reason).1 harmed
    exact ⟨before, reason, later, heq, fun c hc hx => hlater c hc (.inr hx)⟩
  · rintro ⟨before, reason, later, rfl, hlater⟩
    obtain ⟨c, hc, hlast⟩ :=
      exists_isLast (p := Call.AboutFailure) (.inl ⟨reason, rfl⟩) before later
    rcases hlast.1 with ⟨last, rfl⟩ | hx
    · exact ⟨⟨last⟩, (armed_after options _ last).2 hlast⟩
    · rcases List.mem_cons.1 hc with rfl | hc
      · obtain ⟨q, elapsed, heq⟩ := hx
        cases heq
      · exact absurd hx (hlater c hc)

/-- A result is there for an id if one was set down and not removed since. -/
theorem hasFixture_after_iff (options : Options) (calls : List Call) (id : String) :
    (after options calls).hasFixture id = true ↔ ∃ before r later,
      calls = before ++ .setFixture id r :: later ∧ .removeFixture id ∉ later := by
  rw [hasFixture, Keyed.contains, Option.isSome_iff_exists]
  constructor
  · rintro ⟨r, hr⟩
    obtain ⟨-, before, later, heq, hlater⟩ := (get?_fixtures_after options calls id r).1 hr
    exact ⟨before, r, later, heq, fun hc => hlater _ hc (.inr rfl)⟩
  · rintro ⟨before, r, later, rfl, hlater⟩
    obtain ⟨c, hc, hlast⟩ :=
      exists_isLast (p := Call.AboutFixture id) (.inl ⟨r, rfl⟩) before later
    rcases hlast.1 with ⟨last, rfl⟩ | rfl
    · exact ⟨last, (get?_fixtures_after options _ id last).2 hlast⟩
    · rcases List.mem_cons.1 hc with heq | hc
      · cases heq
      · exact absurd hc hlater

end Backend

/-! ## The calls that a session makes -/

namespace History

variable {h : History}

/-- What an event asks the backend for. A request is executed whether its ticket is still the latest
or not; nothing is asked for when it is answered or dropped. -/
def callsAt (h : History) : Event → List Call
  | .start _ | .accept _ | .drop _ => []
  | .execute ticket elapsed =>
    match h.waiting.lookup ticket with
    | some (.asked q) => [.execute q elapsed]
    | _ => []
  | .failNext reason => [.failNext reason]
  | .setFixture id r => [.setFixture id r]
  | .removeFixture id => [.removeFixture id]

/-- What all the events ask the backend for, one after the other. -/
def calls (h : History) : List Event → List Call
  | [] => []
  | e :: events => h.callsAt e ++ (h.step e).calls events

theorem backend_step (h : History) (e : Event) :
    (h.step e).session.backend = h.session.backend.run (h.callsAt e) := by
  cases e with
  | execute ticket elapsed =>
    simp only [step, callsAt]
    cases h.waiting.lookup ticket with
    | none => rfl
    | some request => cases request <;> rfl
  | accept ticket =>
    rcases h.accept_cases ticket with heq | ⟨made, hw⟩
    · rw [heq]
      rfl
    · obtain ⟨current, hsession⟩ := h.session.exists_accept_fst ticket made
      rw [step_accept hw, hsession]
      rfl
  | _ => rfl

theorem backend_steps (h : History) (events : List Event) :
    (events.foldl step h).session.backend = h.session.backend.run (h.calls events) := by
  induction events generalizing h with
  | nil => rfl
  | cons e events ih =>
    rw [List.foldl_cons, ih, backend_step, calls, Backend.run, Backend.run, ← List.foldl_append]
    rfl

end History

/-- After any calls on a new backend:
an execution fails just when a reason to fail was given since the last execution, and then with the
last one given;
no execution changes the results that are set down;
an execution that does not fail answers with the result that the last call about the query's id set
down, or else with a column for each selected field and the rows that the options ask for;
a removal tells whether a result was set down for the id and not removed since.
The backend of a session has got the calls that the session's events make. -/
theorem answers_follow_calls (options : Options) (calls : List Call) :
    let b := Backend.after options calls
    (∀ q elapsed, (∃ f, (b.execute q elapsed).2 = .error f) ↔ ∃ before reason later,
      calls = before ++ .failNext reason :: later ∧ ∀ c ∈ later, ¬ c.Executes) ∧
    (∀ q elapsed reason, (b.execute q elapsed).2 = .error ⟨reason⟩ ↔
      IsLast Call.AboutFailure calls (.failNext reason)) ∧
    (∀ q elapsed, (b.execute q elapsed).1.fixtures = b.fixtures) ∧
    (∀ q elapsed, (∀ f, (b.execute q elapsed).2 ≠ .error f) →
      (∀ r, IsLast (Call.AboutFixture q.id) calls (.setFixture q.id r) →
        (b.execute q elapsed).2 = .ok r) ∧
      ((∀ r, ¬ IsLast (Call.AboutFixture q.id) calls (.setFixture q.id r)) →
        ∃ rows, (b.execute q elapsed).2 = .ok ⟨q.selectedFields.map fun f => ⟨f.name, f.type⟩, rows,
          options.rowCount, elapsed⟩ ∧ rows.length = options.rowCount)) ∧
    (∀ id, (b.perform (.removeFixture id)).2 = .removed true ↔ ∃ before r later,
      calls = before ++ .setFixture id r :: later ∧ .removeFixture id ∉ later) ∧
    ∀ events : List Event, (History.after (.new options) events).session.backend =
      Backend.after options ((History.initial (.new options)).calls events) := by
  intro b
  refine ⟨fun q elapsed => ?_, fun q elapsed reason => ?_, fun q elapsed => ?_,
    fun q elapsed hfails => ?_, fun id => ?_, History.backend_steps _⟩
  · simp only [Backend.execute_eq_error_iff]
    exact Backend.isSome_armed_after_iff options calls
  · rw [Backend.execute_eq_error_iff]
    exact Backend.armed_after options calls reason
  · rw [Backend.execute_fst]
  · have hnone : b.armed = none := Option.eq_none_iff_forall_ne_some.2 fun f hf =>
      hfails f (Backend.execute_eq_error_iff.2 hf)
    refine ⟨fun r hr => ?_, fun hnot => ?_⟩
    · exact Backend.execute_of_fixture hnone
        ((Backend.get?_fixtures_after options calls q.id r).2 hr)
    · have habsent : b.fixtures.get? q.id = none := Option.eq_none_iff_forall_ne_some.2 fun r hr =>
        hnot r ((Backend.get?_fixtures_after options calls q.id r).1 hr)
      refine ⟨rows q.selectedFields options.rowCount, ?_, length_rows _ _⟩
      rw [Backend.execute_of_none hnone habsent, Backend.options_after, synthesize, length_rows]
      rfl
  · rw [← Backend.hasFixture_after_iff options calls id]
    simp [Backend.perform, b]

def canned : Result := ⟨[⟨"name", .string⟩], [[("name", .str "Ada")]], 1200, 42⟩

/-- A result is set down between two reasons to fail, of which one execution uses up both. -/
def rearmed : List Call :=
  [.failNext "down", .setFixture "q" canned, .failNext "gone", .execute blank 0]

def totals : Query := { blank with id := "p", selectedFields := [.plain "s1" "total" .number] }

theorem answers_follow_calls_rearmed :
    (∀ q elapsed f, ((Backend.after .default rearmed).execute q elapsed).2 ≠ .error f) ∧
    ((Backend.after .default rearmed).execute blank 7).2 = .ok canned ∧
    ∃ rows, ((Backend.after .default rearmed).execute totals 7).2 =
      .ok ⟨[⟨"total", .number⟩], rows, 5, 7⟩ ∧ rows.length = 5 := by
  obtain ⟨-, hreason, -, hanswer, -⟩ := answers_follow_calls .default rearmed
  have hlast : ∀ reason, ¬ IsLast Call.AboutFailure rearmed (.failNext reason) := by
    intro reason hlast
    have hexecuted : Call.AboutFailure (.execute blank 0) := .inr ⟨blank, 0, rfl⟩
    have hsplit : rearmed =
        [.failNext "down", .setFixture "q" canned, .failNext "gone"] ++ [.execute blank 0] := rfl
    rw [hsplit, isLast_concat_of_pos hexecuted] at hlast
    cases hlast
  have hworks : ∀ q elapsed f, ((Backend.after .default rearmed).execute q elapsed).2 ≠ .error f :=
    fun q elapsed f hf => hlast f.reason ((hreason q elapsed f.reason).1 hf)
  have hset : IsLast (Call.AboutFixture "q") rearmed (.setFixture "q" canned) :=
    ⟨.inl ⟨canned, rfl⟩, [.failNext "down"], [.failNext "gone", .execute blank 0], rfl,
      by simp [Call.AboutFixture]⟩
  have hunset : ∀ r, ¬ IsLast (Call.AboutFixture "p") rearmed (.setFixture "p" r) := by
    rintro r ⟨-, before, later, heq, -⟩
    have hmem : Call.setFixture "p" r ∈ rearmed := by simp [heq]
    simp [rearmed] at hmem
  exact ⟨hworks, (hanswer blank 7 (hworks blank 7)).1 canned hset,
    (hanswer totals 7 (hworks totals 7)).2 hunset⟩

end CrossSource.Preview
