import CrossSource.Proofs.Operations
/-!
# What an enforcing store refuses

The verdict on a query does not look at what the store stamps on it, so a store refuses a submitted
draft just when it would refuse the draft as it is (`Submits.accepted`, `Submits.refused`). No query
of a store is one that it refuses, hence an enforcing store holds valid queries only, names exactly
the errors of a draft that it rejects, and takes back whatever it has handed out
(`enforcing_store_keeps_to_valid_queries`).
-/

namespace CrossSource.Store

open Validation

variable {s : Store} {q draft : Query} {op : Operation}

/-- The texts with which an answer rejects a draft as invalid, if it does. -/
def Answer.rejection : Answer → Option (List String)
  | .written (.error (.invalid _ texts)) => some texts
  | _ => none

/-! ## The verdict on a draft -/

/-- Ids and instants are of no interest to any rule. -/
theorem messages_stamped (options : Options) (draft : Query) (id : String)
    (created updated : Timestamp) :
    messages options (draft.stamped id created updated) = messages options draft := rfl

/-- A stamped draft is refused just when the draft is, and with the same texts. -/
theorem refusal_stamped (s : Store) (draft : Query) (id : String) (created updated : Timestamp) :
    s.refusal (draft.stamped id created updated) =
      (s.refusal draft).map fun _ => .invalid id (s.errorsOf draft) := by
  have hvalid : isValid s.options (draft.stamped id created updated) = isValid s.options draft := by
    rw [isValid, messages_stamped, isValid]
  have herrors : s.errorsOf (draft.stamped id created updated) = s.errorsOf draft := by
    rw [errorsOf, messages_stamped, errorsOf]
  simp only [refusal, hvalid, herrors]
  cases s.policy with
  | trust => rfl
  | enforce =>
    cases isValid s.options draft
    · rfl
    · rfl

theorem Submits.accepted (h : s.Submits draft op) (hr : s.refusal draft = none) :
    ∃ stored, (s.perform op).2 = .written (.ok stored) := by
  obtain ⟨id, created, updated, heq⟩ := h.perform_eq
  have hstamped : s.refusal (draft.stamped id created updated) = none := by
    rw [refusal_stamped, hr, Option.map_none]
  exact ⟨_, by rw [heq, accept_of_taken hstamped]; rfl⟩

theorem Submits.refused (h : s.Submits draft op) (hr : s.refusal draft ≠ none) :
    ∃ id, s.perform op = (s, .written (.error (.invalid id (s.errorsOf draft)))) := by
  obtain ⟨id, created, updated, heq⟩ := h.perform_eq
  obtain ⟨e, he⟩ := Option.ne_none_iff_exists'.1 hr
  have hstamped : s.refusal (draft.stamped id created updated) =
      some (.invalid id (s.errorsOf draft)) := by
    rw [refusal_stamped, he, Option.map_some]
  exact ⟨id, by rw [heq, accept_of_refused hstamped]; rfl⟩

/-- A store that refuses nothing rejects nothing. -/
theorem rejection_eq_none (h : ∀ draft, s.refusal draft = none) (op : Operation) :
    (s.perform op).2.rejection = none := by
  rcases operation_cases s op with ⟨draft, hop⟩ | ⟨id, now, draft, rfl, hget⟩ | ⟨id, rfl⟩
  · obtain ⟨stored, heq⟩ := hop.accepted (h draft)
    rw [heq]
    rfl
  · rw [perform, update_of_missing hget]
    rfl
  · rfl

/-! ## What operations do to the verdicts -/

/-- Operations change neither what a store refuses nor what it checks. -/
theorem rules_after (s : Store) (ops : List Operation) :
    (s.after ops).policy = s.policy ∧ (s.after ops).options = s.options := by
  induction ops using List.reverseRecOn with
  | nil => exact ⟨rfl, rfl⟩
  | append_singleton ops op ih =>
    rw [after_concat]
    rcases perform_cases (s.after ops) op with ⟨e, heq⟩ | ⟨q, -, heq⟩ | ⟨id, rfl⟩
    · rwa [heq]
    · rw [heq]
      exact ih
    · exact ih

theorem refusal_after (s : Store) (ops : List Operation) (q : Query) :
    (s.after ops).refusal q = s.refusal q := by
  obtain ⟨hpolicy, hoptions⟩ := rules_after s ops
  simp only [refusal, errorsOf, hpolicy, hoptions]

/-- After any operations, a store holds no query that it refuses. -/
theorem not_refused_of_mem_list (policy : StorePolicy) (options : Options) (ops : List Operation) :
    ∀ q ∈ ((new policy options).after ops).list, (new policy options).refusal q = none := by
  induction ops using List.reverseRecOn with
  | nil => exact fun q hq => absurd hq List.not_mem_nil
  | append_singleton ops op ih =>
    intro p hp
    rw [after_concat] at hp
    rcases perform_cases ((new policy options).after ops) op with
      ⟨e, heq⟩ | ⟨q, hr, heq⟩ | ⟨id, rfl⟩
    · rw [heq] at hp
      exact ih p hp
    -- The verdict on what was written is still the one it was written with.
    · rw [heq] at hp
      rcases mem_list_put hp with rfl | hp
      · rwa [refusal_after] at hr
      · exact ih p hp
    · exact ih p (mem_list_delete hp)

/-! ## What a store hands out -/

/-- The store has shown the query during the operations: in its list or looked up by an id after
some of them, or as the answer to one. -/
inductive HandsOut (s : Store) (ops : List Operation) (q : Query) : Prop
  | listed {before : List Operation} : before <+: ops → q ∈ (s.after before).list → HandsOut s ops q
  | found {before : List Operation} {id : String} : before <+: ops →
      (s.after before).get? id = some q → HandsOut s ops q
  | written {before : List Operation} {op : Operation} : before ++ [op] <+: ops →
      ((s.after before).perform op).2 = .written (.ok q) → HandsOut s ops q

theorem HandsOut.not_refused {policy : StorePolicy} {options : Options} {ops : List Operation}
    (h : (new policy options).HandsOut ops q) : (new policy options).refusal q = none := by
  cases h with
  | listed _ hq => exact not_refused_of_mem_list policy options _ q hq
  | found _ hget =>
    have hq := ((indexed_after policy options _).get?_eq_some_iff.1 hget).1
    exact not_refused_of_mem_list policy options _ q hq
  | @written before op _ hop =>
    rcases perform_cases ((new policy options).after before) op with
      ⟨e, heq⟩ | ⟨p, hr, heq⟩ | ⟨id, rfl⟩
    · rw [heq] at hop
      cases hop
    · rw [heq] at hop
      cases hop
      rwa [refusal_after] at hr
    · cases hop

/-! ## Enforcement -/

theorem refusal_new_enforce (options : Options) (now : Timestamp) (q : Query) :
    (new .enforce options).refusal q =
      if (validate options now q).isValid then none
      else some (.invalid q.id ((validate options now q).errors.map (·.text))) := rfl

theorem refusal_new_enforce_eq_none_iff {options : Options} (now : Timestamp) :
    (new .enforce options).refusal q = none ↔ (validate options now q).isValid = true := by
  rw [refusal_new_enforce options now]
  by_cases hvalid : (validate options now q).isValid = true
  · simp [hvalid]
  · simp [hvalid]

theorem not_isValid_iff {options : Options} {now : Timestamp} :
    ¬ (validate options now q).isValid = true ↔
      ∃ m ∈ (validate options now q).messages, m.isError = true := by
  simp [validate, Report.ofMessages]

/-- After any operations on a new store that enforces validity:
all queries that it holds are valid;
a draft submitted to it is rejected just when the draft has an error, with the texts of all its
errors in their order, and then the store stays as it was;
a query that the store has handed out is not refused when it is submitted again.
A store that trusts rejects nothing as invalid. -/
theorem enforcing_store_keeps_to_valid_queries (options : Options) (ops : List Operation) :
    let s := (new .enforce options).after ops
    (∀ q ∈ s.list, ∀ now, (validate options now q).isValid = true) ∧
    (∀ draft op, s.Submits draft op → ∀ now,
      ((s.perform op).2.rejection ≠ none ↔
        ∃ m ∈ (validate options now draft).messages, m.isError = true) ∧
      ∀ texts, (s.perform op).2.rejection = some texts →
        texts = (validate options now draft).errors.map (·.text) ∧ (s.perform op).1 = s) ∧
    (∀ q op, (new .enforce options).HandsOut ops q → s.Submits q op →
      ∃ stored, (s.perform op).2 = .written (.ok stored)) ∧
    ∀ op, (((new .trust options).after ops).perform op).2.rejection = none := by
  intro s
  have hrefusal : ∀ q, s.refusal q = (new .enforce options).refusal q := refusal_after _ ops
  refine ⟨?_, ?_, ?_, ?_⟩
  · intro q hq now
    exact (refusal_new_enforce_eq_none_iff now).1 (not_refused_of_mem_list .enforce options ops q hq)
  · intro draft op hop now
    rw [← not_isValid_iff, ← refusal_new_enforce_eq_none_iff, ← hrefusal]
    have hoptions : s.options = options := (rules_after _ ops).2
    by_cases hr : s.refusal draft = none
    · obtain ⟨stored, heq⟩ := hop.accepted hr
      simp [heq, hr, Answer.rejection]
    · obtain ⟨id, heq⟩ := hop.refused hr
      refine ⟨by simp [heq, hr, Answer.rejection], ?_⟩
      intro texts htexts
      rw [heq] at htexts ⊢
      cases htexts
      exact ⟨by rw [errorsOf, hoptions]; rfl, rfl⟩
  · intro q op hq hop
    exact hop.accepted ((hrefusal q).trans hq.not_refused)
  · exact rejection_eq_none fun draft => (refusal_after (new .trust options) ops draft).trans rfl

/-- A draft with a source and a field of it. -/
def customers : Query :=
  (Query.new "draft" "customers" ⟨0, 0⟩).editAll
    [.addSource "crm" none, .addField (.plain "s1" "id" .number)]

/-- The only query of a store cannot be replaced by a blank one, but by itself. -/
theorem enforcing_store_keeps_to_customers :
    let s := (new .enforce .default).after [.create "query-1" ⟨1, 0⟩ customers]
    (s.perform (.update "query-1" ⟨2, 0⟩ (.new "draft" "blank" ⟨0, 0⟩))).2.rejection =
      some ["Query must include at least one data source",
        "Query must select at least one field"] ∧
    ∃ stored, (s.perform (.save "query-2" ⟨3, 0⟩
      (customers.stamped "query-1" ⟨1, 0⟩ ⟨1, 0⟩))).2 = .written (.ok stored) := by
  intro s
  obtain ⟨-, hsubmitted, hagain, -⟩ := enforcing_store_keeps_to_valid_queries .default
    [.create "query-1" ⟨1, 0⟩ customers]
  have hstored : s.get? "query-1" ≠ none := by decide +kernel
  obtain ⟨hrejected, htexts⟩ := hsubmitted (.new "draft" "blank" ⟨0, 0⟩) _
    (.update ⟨2, 0⟩ hstored) ⟨2, 0⟩
  obtain ⟨texts, heq⟩ := Option.ne_none_iff_exists'.1 (hrejected.2 (by decide +kernel))
  refine ⟨?_, ?_⟩
  · rw [heq, (htexts texts heq).1]
    decide +kernel
  · have htaken : (new .enforce .default).refusal (customers.stamped "query-1" ⟨1, 0⟩ ⟨1, 0⟩) =
        none := by decide +kernel
    refine hagain _ _ ?_ (.save "query-2" ⟨3, 0⟩)
    refine @HandsOut.written _ _ _ [] (.create "query-1" ⟨1, 0⟩ customers) List.prefix_rfl ?_
    rw [perform, after, List.foldl_nil, create_eq, accept_of_taken htaken]
    rfl

end CrossSource.Store
