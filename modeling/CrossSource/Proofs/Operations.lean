import CrossSource.Store
import Mathlib.Data.List.Induction
import Mathlib.Data.List.Nodup
/-!
# What operations do to a store

Create, update and save stamp a draft in their own ways and then hand it to the same check, and an
operation that fails leaves the store as it was (`perform_eq_of_failed`). In every store that
operations lead to, each query stands under its own id (`indexed_after`), so the list of the queries
tells all about it: a new query goes to its end, an update replaces one in its place, and a deletion
filters one out.
-/

namespace CrossSource

/-- A draft under an id, with the instants of its creation and of its last change. -/
def Query.stamped (draft : Query) (id : String) (created updated : Timestamp) : Query :=
  { draft with id := id, createdAt := created, updatedAt := updated }

namespace Store

/-! ## Operations -/

inductive Operation where
  | create (freshId : String) (now : Timestamp) (draft : Query)
  | update (id : String) (now : Timestamp) (draft : Query)
  | save (freshId : String) (now : Timestamp) (draft : Query)
  | delete (id : String)

inductive Answer where
  | written (outcome : Except StoreError Query)
  | deleted (existed : Bool)

/-- A write that is refused has failed, and so has deleting what is not there. -/
def Answer.failed : Answer → Bool
  | .written (.ok _) => false
  | .written (.error _) => true
  | .deleted existed => !existed

/-- The outcome of a write as an answer. -/
def answered (r : Store × Except StoreError Query) : Store × Answer := (r.1, .written r.2)

def perform (s : Store) : Operation → Store × Answer
  | .create freshId now draft => answered (s.create freshId now draft)
  | .update id now draft => answered (s.update id now draft)
  | .save freshId now draft => answered (s.save freshId now draft)
  | .delete id => ((s.delete id).1, .deleted (s.delete id).2)

/-- The store after one operation and the next. -/
def after (s : Store) (ops : List Operation) : Store := ops.foldl (fun s op => (s.perform op).1) s

theorem after_concat (s : Store) (ops : List Operation) (op : Operation) :
    s.after (ops ++ [op]) = ((s.after ops).perform op).1 := by
  simp [after]

variable {s : Store} {q draft : Query} {id freshId : String} {now : Timestamp}

/-! ## The check on writes -/

/-- The store with a query written under its id. -/
def put (s : Store) (q : Query) : Store := { s with queries := s.queries.put q.id q }

theorem create_eq (s : Store) (freshId : String) (now : Timestamp) (draft : Query) :
    s.create freshId now draft = s.accept (draft.stamped freshId now now) := rfl

theorem accept_of_refused {e : StoreError} (h : s.refusal q = some e) :
    s.accept q = (s, .error e) := by
  rw [accept, h]

theorem accept_of_taken (h : s.refusal q = none) : s.accept q = (s.put q, .ok q) := by
  rw [accept, h]
  rfl

theorem update_of_missing (h : s.get? id = none) :
    s.update id now draft = (s, .error (.notFound id)) := by
  rw [update, h]

theorem update_of_stored (h : s.get? id = some q) :
    s.update id now draft = s.accept (draft.stamped q.id q.createdAt now) := by
  rw [update, h]
  rfl

theorem save_of_missing (h : s.get? draft.id = none) :
    s.save freshId now draft = s.create freshId now draft := by
  have hnot : ¬ s.queries.contains draft.id = true := by
    rw [Keyed.contains, show s.queries.get? draft.id = none from h]
    exact Bool.false_ne_true
  rw [save, if_neg hnot]

theorem save_of_stored (h : s.get? draft.id = some q) :
    s.save freshId now draft = s.update draft.id now draft := by
  have hold : s.queries.contains draft.id = true := by
    rw [Keyed.contains, show s.queries.get? draft.id = some q from h]
    rfl
  rw [save, if_pos hold]

/-- The operation has the store check a draft, which an update of a missing id does not. -/
inductive Submits (s : Store) (draft : Query) : Operation → Prop
  | create (freshId : String) (now : Timestamp) : Submits s draft (.create freshId now draft)
  | update {id : String} (now : Timestamp) : s.get? id ≠ none → Submits s draft (.update id now draft)
  | save (freshId : String) (now : Timestamp) : Submits s draft (.save freshId now draft)

/-- Every operation submits a draft, or updates a missing id, or deletes. -/
theorem operation_cases (s : Store) (op : Operation) :
    (∃ draft, s.Submits draft op) ∨
    (∃ id now draft, op = .update id now draft ∧ s.get? id = none) ∨ ∃ id, op = .delete id := by
  cases op with
  | create freshId now draft => exact .inl ⟨draft, .create freshId now⟩
  | update id now draft =>
    by_cases hget : s.get? id = none
    · exact .inr (.inl ⟨id, now, draft, rfl, hget⟩)
    · exact .inl ⟨draft, .update now hget⟩
  | save freshId now draft => exact .inl ⟨draft, .save freshId now⟩
  | delete id => exact .inr (.inr ⟨id, rfl⟩)

/-- A submitted draft is stamped and then accepted or not. -/
theorem Submits.perform_eq {op : Operation} (h : s.Submits draft op) :
    ∃ id created updated, s.perform op = answered (s.accept (draft.stamped id created updated)) := by
  have hupdate : ∀ {id} (now), s.get? id ≠ none →
      ∃ id' created updated,
        s.update id now draft = s.accept (draft.stamped id' created updated) := by
    intro id now hget
    obtain ⟨old, hold⟩ := Option.ne_none_iff_exists'.1 hget
    exact ⟨_, _, _, update_of_stored hold⟩
  cases h with
  | create freshId now => exact ⟨freshId, now, now, rfl⟩
  | update now hget =>
    obtain ⟨id', created, updated, heq⟩ := hupdate now hget
    exact ⟨id', created, updated, by rw [perform, heq]⟩
  | save freshId now =>
    cases hget : s.get? draft.id with
    | none => exact ⟨freshId, now, now, by rw [perform, save_of_missing hget]; rfl⟩
    | some old =>
      obtain ⟨id', created, updated, heq⟩ := hupdate now (by rw [hget]; simp)
      exact ⟨id', created, updated, by rw [perform, save_of_stored hget, heq]⟩

/-- A draft that is not accepted is invalid, whatever is missing. -/
theorem accept_ne_notFound (s : Store) (q : Query) (id : String) :
    (s.accept q).2 ≠ .error (.notFound id) := by
  intro h
  cases hr : s.refusal q with
  | none => rw [accept_of_taken hr] at h; cases h
  | some e =>
    rw [accept_of_refused hr, Except.error.injEq] at h
    subst h
    simp only [refusal] at hr
    split at hr
    · cases hr
    · split at hr <;> cases hr

theorem update_eq_notFound_iff {missing : String} :
    (s.update id now draft).2 = .error (.notFound missing) ↔ s.get? id = none ∧ missing = id := by
  cases hget : s.get? id with
  | none => simp [update_of_missing hget, eq_comm]
  | some old =>
    rw [update_of_stored hget]
    simp [accept_ne_notFound]

theorem save_ne_notFound (s : Store) (freshId : String) (now : Timestamp) (draft : Query)
    (id : String) : (s.save freshId now draft).2 ≠ .error (.notFound id) := by
  cases hget : s.get? draft.id with
  | none =>
    rw [save_of_missing hget]
    exact accept_ne_notFound _ _ _
  | some old =>
    rw [save_of_stored hget, ne_eq, update_eq_notFound_iff, hget]
    simp

/-- An operation is refused, or writes a query that the store does not refuse, or deletes. -/
theorem perform_cases (s : Store) (op : Operation) :
    (∃ e, s.perform op = (s, .written (.error e))) ∨
    (∃ q, s.refusal q = none ∧ s.perform op = (s.put q, .written (.ok q))) ∨
    ∃ id, op = .delete id := by
  rcases operation_cases s op with ⟨draft, hop⟩ | ⟨id, now, draft, rfl, hget⟩ | hdelete
  · obtain ⟨id, created, updated, heq⟩ := hop.perform_eq
    cases hr : s.refusal (draft.stamped id created updated) with
    | some e => exact .inl ⟨e, by rw [heq, accept_of_refused hr]; rfl⟩
    | none => exact .inr (.inl ⟨_, hr, by rw [heq, accept_of_taken hr]; rfl⟩)
  · exact .inl ⟨.notFound id, by rw [perform, update_of_missing hget]; rfl⟩
  · exact .inr (.inr hdelete)

/-- An operation that fails leaves the store as it was. -/
theorem perform_eq_of_failed {op : Operation} (h : (s.perform op).2.failed = true) :
    (s.perform op).1 = s := by
  rcases perform_cases s op with ⟨e, heq⟩ | ⟨q, -, heq⟩ | ⟨id, rfl⟩
  · rw [heq]
  · rw [heq] at h
    cases h
  · have hnot : id ∉ s.queries.keys := by
      rw [← Keyed.contains_iff]
      simpa [perform, delete, Answer.failed] using h
    simp only [perform, delete, Keyed.erase_of_not_mem hnot]

/-- A query of a store was there before a write, or is the one written. -/
theorem mem_list_put {p : Query} (h : p ∈ (s.put q).list) : p = q ∨ p ∈ s.list := by
  obtain ⟨e, he, rfl⟩ := List.mem_map.1 h
  rcases Keyed.mem_entries_put he with rfl | he
  · exact .inl rfl
  · exact .inr (List.mem_map_of_mem he)

/-- A query of a store was there before a deletion. -/
theorem mem_list_delete {p : Query} (h : p ∈ (s.delete id).1.list) : p ∈ s.list := by
  obtain ⟨e, he, rfl⟩ := List.mem_map.1 h
  exact List.mem_map_of_mem (List.mem_filter.1 he).1

/-! ## Queries under their own ids -/

/-- The ids of the queries, in their order. -/
def ids (s : Store) : List String := s.list.map (·.id)

/-- Every query stands under its own id. -/
def Indexed (s : Store) : Prop := ∀ e ∈ s.queries.entries, e.2.id = e.1

theorem Indexed.keyed (h : s.Indexed) : s.queries.IndexedBy Query.id := h

theorem Indexed.keys_eq (h : s.Indexed) : s.queries.keys = s.ids := h.keyed.keys_eq

theorem Indexed.contains_iff (h : s.Indexed) : s.queries.contains id = true ↔ id ∈ s.ids := by
  rw [Keyed.contains_iff, h.keys_eq]

theorem Indexed.get?_eq_none_iff (h : s.Indexed) : s.get? id = none ↔ id ∉ s.ids := by
  rw [get?, Keyed.get?_eq_none_iff, h.keys_eq]

theorem Indexed.get?_eq_some_iff (h : s.Indexed) : s.get? id = some q ↔ q ∈ s.list ∧ q.id = id :=
  h.keyed.get?_eq_some_iff

/-- Looking a query up finds the one of the id in the list. -/
theorem Indexed.get?_eq_find? (h : s.Indexed) (id : String) :
    s.get? id = s.list.find? (·.id = id) := h.keyed.get?_eq_find? id

/-! ## The list after a write or a deletion -/

/-- A query under a new id goes to the end. -/
theorem Indexed.list_put_new (h : s.Indexed) (hid : q.id ∉ s.ids) :
    (s.put q).list = s.list ++ [q] := h.keyed.values_put_new hid

/-- A query under the id of another takes its place. -/
theorem Indexed.list_put_old (h : s.Indexed) (hid : q.id ∈ s.ids) :
    (s.put q).list = s.list.map fun p => if p.id = q.id then q else p := h.keyed.values_put_old hid

theorem Indexed.ids_put_old (h : s.Indexed) (hid : q.id ∈ s.ids) : (s.put q).ids = s.ids := by
  rw [ids, h.list_put_old hid, List.map_map]
  refine List.map_congr_left fun p _ => ?_
  rw [Function.comp]
  split
  · next hp => exact hp.symm
  · rfl

/-- An update keeps all queries in their places. -/
theorem Indexed.ids_update (h : s.Indexed) (id : String) (now : Timestamp) (draft : Query) :
    (s.update id now draft).1.ids = s.ids := by
  cases hget : s.get? id with
  | none => rw [update_of_missing hget]
  | some old =>
    rw [update_of_stored hget]
    cases hr : s.refusal (draft.stamped old.id old.createdAt now) with
    | some e => rw [accept_of_refused hr]
    | none =>
      rw [accept_of_taken hr]
      exact h.ids_put_old (List.mem_map.2 ⟨old, (h.get?_eq_some_iff.1 hget).1, rfl⟩)

theorem Indexed.list_delete (h : s.Indexed) (id : String) :
    (s.delete id).1.list = s.list.filter (·.id ≠ id) := h.keyed.values_erase id

theorem Indexed.put (h : s.Indexed) (q : Query) : (s.put q).Indexed := h.keyed.put q

theorem Indexed.perform (h : s.Indexed) (op : Operation) : (s.perform op).1.Indexed := by
  rcases perform_cases s op with ⟨e, heq⟩ | ⟨q, -, heq⟩ | ⟨id, rfl⟩
  · rwa [heq]
  · rw [heq]
    exact h.put q
  · exact h.keyed.erase id

theorem indexed_after (policy : StorePolicy) (options : Validation.Options)
    (ops : List Operation) : ((new policy options).after ops).Indexed := by
  induction ops using List.reverseRecOn with
  | nil => exact fun e he => absurd he List.not_mem_nil
  | append_singleton ops op ih =>
    rw [after_concat]
    exact ih.perform op

end Store

end CrossSource
