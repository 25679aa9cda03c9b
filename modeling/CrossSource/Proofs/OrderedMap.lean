import CrossSource.Proofs.Operations
/-!
# A store shows the writes that succeeded

The log of a store tells what operations have changed in it: which ids were created, replaced and
deleted, at which instants and by which drafts. The store shows the ids that were created and not
deleted since, in the order of their creation, each with the draft written to it last and with the
instants of its creation and of that write (`store_shows_log`), whatever ids the drafts themselves
claim to have. The ids that the store draws for new queries are taken to differ.
-/

namespace CrossSource.Store

/-! ## The log of a store -/

/-- What a successful operation has changed. -/
inductive Change where
  | created (id : String) (now : Timestamp) (draft : Query)
  | replaced (id : String) (now : Timestamp) (draft : Query)
  | deleted (id : String)

namespace Change

def deletes (id : String) : Change → Bool
  | deleted id' => id' = id
  | _ => false

/-- The instant of a change that creates the id. -/
def creation (id : String) : Change → Option Timestamp
  | created id' now _ => if id' = id then some now else none
  | _ => none

/-- The instant and the draft of a change that writes to the id. -/
def write (id : String) : Change → Option (Timestamp × Query)
  | created id' now draft | replaced id' now draft => if id' = id then some (now, draft) else none
  | deleted _ => none

end Change

/-- The ids that were created and not deleted since, in the order of their creation. -/
def live : List Change → List String
  | [] => []
  | .created id _ _ :: later => if later.any (·.deletes id) then live later else id :: live later
  | _ :: later => live later

/-- The instant at which an id was created. -/
def creationOf (log : List Change) (id : String) : Option Timestamp :=
  log.findSome? (·.creation id)

/-- The instant and the draft of the last write to an id. -/
def lastWriteTo (log : List Change) (id : String) : Option (Timestamp × Query) :=
  log.reverse.findSome? (·.write id)

/-- What an operation changes if it succeeds. Saving replaces the query of the draft's id if that is
among the ids that are live. -/
def Operation.change (live : List String) : Operation → Change
  | .create freshId now draft => .created freshId now draft
  | .update id now draft => .replaced id now draft
  | .save freshId now draft =>
    if draft.id ∈ live then .replaced draft.id now draft else .created freshId now draft
  | .delete id => .deleted id

/-- The ids that an operation draws, whether it succeeds or not. -/
def Operation.draws (live : List String) : Operation → List String
  | .create freshId _ _ => [freshId]
  | .save freshId _ draft => if draft.id ∈ live then [] else [freshId]
  | .update _ _ _ | .delete _ => []

/-- A store with the log of the operations on it and the ids that they drew. -/
structure History where
  store : Store
  log : List Change
  drawn : List String

namespace History

def initial (policy : StorePolicy) (options : Validation.Options) : History :=
  ⟨new policy options, [], []⟩

def step (h : History) (op : Operation) : History where
  store := (h.store.perform op).1
  log := if (h.store.perform op).2.failed then h.log else h.log ++ [op.change (live h.log)]
  drawn := h.drawn ++ op.draws (live h.log)

/-- The history of a new store after some operations. -/
def after (policy : StorePolicy) (options : Validation.Options) (ops : List Operation) : History :=
  ops.foldl step (initial policy options)

end History

/-! ## The log after one more change -/

variable {log : List Change} {c : Change} {id : String} {q : Query}

theorem live_append (log later : List Change) :
    live (log ++ later) = (live log).filter (fun id => !later.any (·.deletes id)) ++ live later := by
  induction log with
  | nil => rfl
  | cons c log ih =>
    cases c with
    | created id now draft =>
      simp only [List.cons_append, live, List.any_append, Bool.or_eq_true, ih]
      by_cases hlog : log.any (·.deletes id) = true
      · simp [hlog]
      · by_cases hlater : later.any (·.deletes id) = true
        · simp [hlog, hlater]
        · simp [hlog, hlater]
    | replaced id now draft => exact ih
    | deleted id => exact ih

theorem live_created (log : List Change) (id : String) (now : Timestamp) (draft : Query) :
    live (log ++ [.created id now draft]) = live log ++ [id] := by
  rw [live_append]
  simp [live, Change.deletes]

theorem live_replaced (log : List Change) (id : String) (now : Timestamp) (draft : Query) :
    live (log ++ [.replaced id now draft]) = live log := by
  rw [live_append]
  simp [live, Change.deletes]

theorem live_deleted (log : List Change) (id : String) :
    live (log ++ [.deleted id]) = (live log).filter (· ≠ id) := by
  rw [live_append]
  simp [live, Change.deletes, eq_comm]

theorem creationOf_concat (log : List Change) (c : Change) (id : String) :
    creationOf (log ++ [c]) id = (creationOf log id).or (c.creation id) := by
  simp [creationOf, List.findSome?_append]

theorem lastWriteTo_concat (log : List Change) (c : Change) (id : String) :
    lastWriteTo (log ++ [c]) id = (c.write id).or (lastWriteTo log id) := by
  rw [lastWriteTo, List.reverse_append, List.findSome?_append]
  simp [lastWriteTo]

/-- The log tells how a query came to be what it is. -/
def Told (log : List Change) (q : Query) : Prop :=
  ∃ created now draft, creationOf log q.id = some created ∧
    lastWriteTo log q.id = some (now, draft) ∧ q = draft.stamped q.id created now

/-- A change that does not write to the id of a query leaves the query as it was. -/
theorem Told.concat (h : Told log q) (hc : c.write q.id = none) : Told (log ++ [c]) q := by
  obtain ⟨created, now, draft, hcreated, hlast, heq⟩ := h
  refine ⟨created, now, draft, ?_, ?_, heq⟩
  · rw [creationOf_concat, hcreated, Option.some_or]
  · rw [lastWriteTo_concat, hc, Option.none_or, hlast]

/-- A change that writes a draft to the id of a query, created before or with it. -/
theorem told_stamped {created now : Timestamp} {draft : Query}
    (hcreated : (creationOf log id).or (c.creation id) = some created)
    (hwrite : c.write id = some (now, draft)) :
    Told (log ++ [c]) (draft.stamped id created now) := by
  refine ⟨created, now, draft, ?_, ?_, rfl⟩
  · rw [creationOf_concat]
    exact hcreated
  · rw [lastWriteTo_concat]
    exact congrArg (Option.or · _) hwrite

/-! ## What each change keeps -/

namespace History

/-- The store shows what its log tells, and only ids that were drawn have been created. -/
structure Faithful (h : History) : Prop where
  indexed : h.store.Indexed
  ids_eq : h.store.ids = live h.log
  told : ∀ q ∈ h.store.list, Told h.log q
  created_drawn : ∀ id created, creationOf h.log id = some created → id ∈ h.drawn

variable {h : History} {op : Operation}

theorem faithful_initial (policy : StorePolicy) (options : Validation.Options) :
    (initial policy options).Faithful where
  indexed := indexed_after policy options []
  ids_eq := rfl
  told q hq := absurd hq List.not_mem_nil
  created_drawn id created h := by cases h

theorem Faithful.mem_drawn (hf : h.Faithful) (hid : id ∈ h.store.ids) : id ∈ h.drawn := by
  obtain ⟨q, hq, rfl⟩ := List.mem_map.1 hid
  obtain ⟨created, -, -, hcreated, -⟩ := hf.told q hq
  exact hf.created_drawn _ _ hcreated

/-- Drawing ids and not using them does no harm. -/
theorem Faithful.draw (hf : h.Faithful) (ids : List String) :
    Faithful ⟨h.store, h.log, h.drawn ++ ids⟩ :=
  { hf with
    created_drawn := fun id created hc => List.mem_append_left _ (hf.created_drawn id created hc) }

/-- A change that creates nothing needs no new id. -/
theorem Faithful.created_drawn_concat (hf : h.Faithful) (hc : ∀ id, c.creation id = none)
    {created : Timestamp} (hcreated : creationOf (h.log ++ [c]) id = some created) :
    id ∈ h.drawn ++ [] := by
  rw [creationOf_concat, hc, Option.or_none] at hcreated
  rw [List.append_nil]
  exact hf.created_drawn id created hcreated

theorem Faithful.put_new (hf : h.Faithful) (hnew : id ∉ h.drawn) (now : Timestamp)
    (draft : Query) :
    Faithful ⟨h.store.put (draft.stamped id now now), h.log ++ [.created id now draft],
      h.drawn ++ [id]⟩ := by
  -- What was never drawn is not in the store, and no change has created it.
  have habsent : id ∉ h.store.ids := fun hid => hnew (hf.mem_drawn hid)
  have hnone : creationOf h.log id = none :=
    Option.eq_none_iff_forall_ne_some.2 fun created hc => hnew (hf.created_drawn _ _ hc)
  have hlist : (h.store.put (draft.stamped id now now)).list =
      h.store.list ++ [draft.stamped id now now] := hf.indexed.list_put_new habsent
  refine ⟨hf.indexed.put _, ?_, ?_, ?_⟩
  · rw [live_created, ← hf.ids_eq, ids, hlist, List.map_append]
    rfl
  · intro q hq
    rw [hlist, List.mem_append, List.mem_singleton] at hq
    rcases hq with hq | rfl
    · refine (hf.told q hq).concat (if_neg ?_)
      rintro rfl
      exact habsent (List.mem_map_of_mem hq)
    · exact told_stamped (by rw [hnone]; exact if_pos rfl) (if_pos rfl)
  · intro id' created hc
    rw [creationOf_concat, Option.or_eq_some_iff] at hc
    rw [List.mem_append, List.mem_singleton]
    rcases hc with hc | ⟨-, hc⟩
    · exact .inl (hf.created_drawn id' created hc)
    · exact .inr (Option.ite_none_right_eq_some.1 hc).1.symm

theorem Faithful.put_old (hf : h.Faithful) (hq : q ∈ h.store.list) (now : Timestamp)
    (draft : Query) :
    Faithful ⟨h.store.put (draft.stamped q.id q.createdAt now),
      h.log ++ [.replaced q.id now draft], h.drawn ++ []⟩ := by
  have hid : q.id ∈ h.store.ids := List.mem_map_of_mem hq
  have hlist : (h.store.put (draft.stamped q.id q.createdAt now)).list =
      h.store.list.map fun p => if p.id = q.id then draft.stamped q.id q.createdAt now else p :=
    hf.indexed.list_put_old hid
  refine ⟨hf.indexed.put _, ?_, ?_, fun _ _ hc => hf.created_drawn_concat (fun _ => rfl) hc⟩
  · rw [live_replaced, ← hf.ids_eq]
    exact hf.indexed.ids_put_old hid
  · intro q' hq'
    rw [hlist] at hq'
    obtain ⟨p, hp, rfl⟩ := List.mem_map.1 hq'
    split
    -- The instant of creation is handed on by the query that is replaced, which has it from the log.
    · obtain ⟨created, last, earlier, hcreated, -, heq⟩ := hf.told q hq
      have hat : q.createdAt = created := by rw [heq]; rfl
      exact told_stamped (by rw [hcreated, hat]; rfl) (if_pos rfl)
    · next hne => exact (hf.told p hp).concat (if_neg (Ne.symm hne))

theorem Faithful.erase (hf : h.Faithful) (id : String) :
    Faithful ⟨(h.store.delete id).1, h.log ++ [.deleted id], h.drawn ++ []⟩ := by
  have hlist := hf.indexed.list_delete id
  refine ⟨hf.indexed.perform (.delete id), ?_, ?_,
    fun _ _ hc => hf.created_drawn_concat (fun _ => rfl) hc⟩
  · rw [live_deleted, ← hf.ids_eq, ids, hlist, ids, List.filter_map]
    rfl
  · intro q hq
    rw [hlist] at hq
    exact (hf.told q (List.mem_filter.1 hq).1).concat rfl

/-! ## What each operation keeps -/

theorem step_of_failed (hfailed : (h.store.perform op).2.failed = true) :
    h.step op = ⟨h.store, h.log, h.drawn ++ op.draws (live h.log)⟩ := by
  rw [step, if_pos hfailed, perform_eq_of_failed hfailed]

theorem step_of_written {s' : Store} (hp : h.store.perform op = (s', .written (.ok q))) :
    h.step op = ⟨s', h.log ++ [op.change (live h.log)], h.drawn ++ op.draws (live h.log)⟩ := by
  rw [step, hp]
  rfl

theorem Faithful.of_failed (hf : h.Faithful) (hfailed : (h.store.perform op).2.failed = true) :
    (h.step op).Faithful := by
  rw [step_of_failed hfailed]
  exact hf.draw _

theorem Faithful.create {freshId : String} (hf : h.Faithful) (hnew : freshId ∉ h.drawn)
    (now : Timestamp) (draft : Query) : (h.step (.create freshId now draft)).Faithful := by
  cases hr : h.store.refusal (draft.stamped freshId now now) with
  | some e => exact hf.of_failed (by rw [perform, create_eq, accept_of_refused hr]; rfl)
  | none =>
    rw [step_of_written (by rw [perform, create_eq, accept_of_taken hr]; rfl)]
    exact hf.put_new hnew now draft

theorem Faithful.update (hf : h.Faithful) (id : String) (now : Timestamp) (draft : Query) :
    (h.step (.update id now draft)).Faithful := by
  cases hget : h.store.get? id with
  | none => exact hf.of_failed (by rw [perform, update_of_missing hget]; rfl)
  | some old =>
    obtain ⟨hold, rfl⟩ := hf.indexed.get?_eq_some_iff.1 hget
    cases hr : h.store.refusal (draft.stamped old.id old.createdAt now) with
    | some e =>
      exact hf.of_failed (by rw [perform, update_of_stored hget, accept_of_refused hr]; rfl)
    | none =>
      rw [step_of_written (by rw [perform, update_of_stored hget, accept_of_taken hr]; rfl)]
      exact hf.put_old hold now draft

theorem Faithful.delete (hf : h.Faithful) (id : String) : (h.step (.delete id)).Faithful := by
  cases hcontains : h.store.queries.contains id with
  | false => exact hf.of_failed (by rw [perform, Store.delete, hcontains]; rfl)
  | true =>
    have hstep : h.step (.delete id) =
        ⟨(h.store.delete id).1, h.log ++ [.deleted id], h.drawn ++ []⟩ := by
      rw [step, perform, Store.delete, hcontains]
      rfl
    rw [hstep]
    exact hf.erase id

/-- Saving goes the way of an update or of a creation, as the log tells. -/
theorem Faithful.step_save (hf : h.Faithful) (freshId : String) (now : Timestamp) (draft : Query) :
    h.step (.save freshId now draft) =
      if draft.id ∈ live h.log then h.step (.update draft.id now draft)
      else h.step (.create freshId now draft) := by
  by_cases hlive : draft.id ∈ live h.log
  · obtain ⟨old, hold⟩ : ∃ old, h.store.get? draft.id = some old := by
      rw [← Option.ne_none_iff_exists', ne_eq, hf.indexed.get?_eq_none_iff, hf.ids_eq]
      exact fun hnot => hnot hlive
    simp only [step, perform, save_of_stored hold, Operation.change, Operation.draws, hlive, if_true]
    rfl
  · have hmissing : h.store.get? draft.id = none := by
      rw [hf.indexed.get?_eq_none_iff, hf.ids_eq]
      exact hlive
    simp only [step, perform, save_of_missing hmissing, Operation.change, Operation.draws, hlive,
      if_false]
    rfl

/-- Every operation keeps to the log, as long as it draws ids that were not drawn before. -/
theorem Faithful.step (hf : h.Faithful)
    (hnew : ∀ id ∈ op.draws (live h.log), id ∉ h.drawn) : (h.step op).Faithful := by
  cases op with
  | create freshId now draft => exact hf.create (hnew freshId (List.mem_singleton_self _)) now draft
  | update id now draft => exact hf.update id now draft
  | save freshId now draft =>
    rw [hf.step_save]
    split
    · exact hf.update _ _ _
    · next hlive =>
      refine hf.create (hnew freshId ?_) now draft
      rw [Operation.draws, if_neg hlive]
      exact List.mem_singleton_self _
  | delete id => exact hf.delete id

theorem after_concat (policy : StorePolicy) (options : Validation.Options) (ops : List Operation)
    (op : Operation) : after policy options (ops ++ [op]) = (after policy options ops).step op := by
  simp [after]

theorem store_after (policy : StorePolicy) (options : Validation.Options) (ops : List Operation) :
    (after policy options ops).store = (new policy options).after ops := by
  induction ops using List.reverseRecOn with
  | nil => rfl
  | append_singleton ops op ih => rw [after_concat, Store.after_concat, ← ih]; rfl

theorem faithful_after (policy : StorePolicy) (options : Validation.Options) (ops : List Operation)
    (hdrawn : (after policy options ops).drawn.Nodup) : (after policy options ops).Faithful := by
  induction ops using List.reverseRecOn with
  | nil => exact faithful_initial policy options
  | append_singleton ops op ih =>
    rw [after_concat] at hdrawn ⊢
    obtain ⟨hbefore, -, hdisjoint⟩ := List.nodup_append.1 hdrawn
    exact (ih hbefore).step fun id hid hmem => hdisjoint id hmem id hid rfl

end History

/-! ## The store as an ordered map -/

/-- After any operations on a new store, whose drawn ids differ:
the store shows the ids that are live in the log, in their order, each with the draft written to it
last and with the instants of its creation and of that write;
looking up and counting agree with the list;
an update fails for a missing id just when the id is not live, and moves nothing;
saving is an update if the draft's id is live and else a creation;
a deletion tells whether the id was live, and keeps the order of the rest;
an operation that fails changes nothing. -/
theorem store_shows_log (policy : StorePolicy) (options : Validation.Options)
    (ops : List Operation) (hdrawn : (History.after policy options ops).drawn.Nodup) :
    let s := (new policy options).after ops
    let log := (History.after policy options ops).log
    s.ids = live log ∧
    (∀ q ∈ s.list, ∃ created now draft, creationOf log q.id = some created ∧
      lastWriteTo log q.id = some (now, draft) ∧ q = draft.stamped q.id created now) ∧
    (∀ id, s.get? id = s.list.find? (·.id = id)) ∧
    s.size = s.list.length ∧
    (∀ id now draft,
      (∀ missing, (s.update id now draft).2 = .error (.notFound missing) ↔
        id ∉ live log ∧ missing = id) ∧
      (s.update id now draft).1.ids = s.ids) ∧
    (∀ freshId now draft,
      (draft.id ∈ live log → s.save freshId now draft = s.update draft.id now draft) ∧
      (draft.id ∉ live log → s.save freshId now draft = s.create freshId now draft) ∧
      ∀ missing, (s.save freshId now draft).2 ≠ .error (.notFound missing)) ∧
    (∀ id, ((s.delete id).2 = true ↔ id ∈ live log) ∧
      (s.delete id).1.list = s.list.filter (·.id ≠ id)) ∧
    ∀ op, (s.perform op).2.failed = true → (s.perform op).1 = s := by
  intro s log
  have hf := History.faithful_after policy options ops hdrawn
  have hids : s.ids = live log := by rw [← hf.ids_eq, History.store_after]
  have hindexed : s.Indexed := indexed_after policy options ops
  have hmissing : ∀ {id}, s.get? id = none ↔ id ∉ live log := by
    intro id
    rw [hindexed.get?_eq_none_iff, hids]
  refine ⟨hids, ?_, hindexed.get?_eq_find?, ?_, ?_, ?_, ?_, fun op => perform_eq_of_failed⟩
  · intro q hq
    exact hf.told q (by rwa [History.store_after])
  · simp [size, Keyed.size, list, Keyed.values]
  · intro id now draft
    exact ⟨fun missing => by rw [update_eq_notFound_iff, hmissing], hindexed.ids_update id now draft⟩
  · intro freshId now draft
    refine ⟨fun hlive => ?_, fun hnot => save_of_missing (hmissing.2 hnot),
      save_ne_notFound s freshId now draft⟩
    obtain ⟨old, hold⟩ := Option.ne_none_iff_exists'.1 fun hnone => hmissing.1 hnone hlive
    exact save_of_stored hold
  · intro id
    refine ⟨?_, hindexed.list_delete id⟩
    rw [delete, hindexed.contains_iff, hids]

/-- Two queries are created by drafts that claim each other's id, the first one is saved anew and
the second one deleted, a missing one is updated, and what was deleted is saved again. -/
def refiling : List Operation :=
  let orders : Query := .new "query-2" "orders" ⟨0, 0⟩
  let customers : Query := .new "query-1" "customers" ⟨0, 0⟩
  [.create "query-1" ⟨5, 0⟩ orders, .create "query-2" ⟨4, 0⟩ customers,
    .save "query-3" ⟨7, 0⟩ customers, .delete "query-2", .update "query-2" ⟨8, 0⟩ orders,
    .save "query-3" ⟨6, 0⟩ orders]

theorem store_shows_log_refiling :
    (History.after .trust .default refiling).drawn.Nodup ∧
    ((new .trust .default).after refiling).ids = ["query-1", "query-3"] ∧
    ∀ q ∈ ((new .trust .default).after refiling).list, q.id = "query-1" →
      q.name = "customers" ∧ q.createdAt = ⟨5, 0⟩ ∧ q.updatedAt = ⟨7, 0⟩ := by
  have hdrawn : (History.after .trust .default refiling).drawn.Nodup := by decide +kernel
  obtain ⟨hids, htold, -⟩ := store_shows_log .trust .default refiling hdrawn
  refine ⟨hdrawn, ?_, ?_⟩
  · rw [hids]
    decide +kernel
  · intro q hq hid
    obtain ⟨created, now, draft, hcreated, hlast, heq⟩ := htold q hq
    rw [hid] at hcreated hlast
    cases hcreated
    cases hlast
    rw [heq]
    exact ⟨rfl, rfl, rfl⟩

end CrossSource.Store
