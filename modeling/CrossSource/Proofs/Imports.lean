import CrossSource.Proofs.Enforcement
import CrossSource.Proofs.Rules
import Mathlib.Data.List.Forall2
/-!
# An import reports what the store has done

Importing queries is creating them one after the other (`importAll_fst`). The report judges each by
options of its own, but no option has a say in whether a query is valid (`isValid_eq`), so it tells
the verdict of the store. Each query has its entry, which names an id or a reason for its rejection
(`truthful_report`), and the store holds what it held before and then the queries that were given an
id (`list_importAll`).
-/

namespace CrossSource

open Validation

/-- Options are about warnings only. -/
theorem Validation.isValid_eq (options options' : Options) (q : Query) :
    isValid options q = isValid options' q := by
  have hrule : ∀ c : Code, c.severity = .error → rule options q c = rule options' q c := by
    intro c hc
    cases c with
    | performanceWarning => cases hc
    | _ => rfl
  have hvalid : (validate options ⟨0, 0⟩ q).isValid = true ↔
      (validate options' ⟨0, 0⟩ q).isValid = true := by
    rw [isValid_iff, isValid_iff]
    exact forall₂_congr fun c hc => by rw [hrule c hc]
  exact Bool.eq_iff_iff.2 hvalid

namespace Store

variable {s : Store} {draft : Query} {freshId : String} {now : Timestamp}

/-! ## Creating a query -/

theorem refusal_eq_none_iff {q : Query} :
    s.refusal q = none ↔ ¬ (s.policy = .enforce ∧ isValid s.options q = false) := by
  unfold refusal
  cases s.policy with
  | trust => simp
  | enforce => cases isValid s.options q <;> simp

theorem create_of_taken (h : s.refusal draft = none) : s.create freshId now draft =
    (s.put (draft.stamped freshId now now), .ok (draft.stamped freshId now now)) := by
  rw [create_eq, accept_of_taken]
  rw [refusal_stamped, h, Option.map_none]

theorem create_of_refused (h : s.refusal draft ≠ none) :
    s.create freshId now draft = (s, .error (.invalid freshId (s.errorsOf draft))) := by
  obtain ⟨e, he⟩ := Option.ne_none_iff_exists'.1 h
  rw [create_eq, accept_of_refused]
  rw [refusal_stamped, he, Option.map_some]

theorem rules_create (s : Store) (freshId : String) (now : Timestamp) (draft : Query) :
    (s.create freshId now draft).1.policy = s.policy ∧
      (s.create freshId now draft).1.options = s.options :=
  rules_after s [.create freshId now draft]

/-! ## What is reported of a query -/

/-- An entry tells of a query whether a store of this policy and with these options finds it valid,
and that it was given an id, unless it was rejected as an invalid query that the policy excludes. -/
structure Truthful (policy : StorePolicy) (options : Options) (i : Incoming) (e : Imported) :
    Prop where
  file : e.file = i.file
  name : e.name = i.query.name
  valid : ∀ now, e.valid = (validate options now i.query).isValid
  rejected : e.rejected ≠ none ↔ policy = .enforce ∧ e.valid = false
  id : e.id ≠ none ↔ e.rejected = none

/-- The report on a query after the store's answer to its creation. -/
def entryOf (s : Store) (options : Options) (i : Incoming) : Option Imported :=
  i.report (isValid options i.query) (s.create i.freshId i.now i.query).2

theorem entryOf_of_taken (options : Options) {i : Incoming} (h : s.refusal i.query = none) :
    s.entryOf options i =
      some ⟨i.file, some i.freshId, i.query.name, isValid options i.query, none⟩ := by
  rw [entryOf, create_of_taken h]
  rfl

theorem entryOf_of_refused (options : Options) {i : Incoming} (h : s.refusal i.query ≠ none) :
    s.entryOf options i = some ⟨i.file, none, i.query.name, isValid options i.query,
      some (StoreError.invalid i.freshId (s.errorsOf i.query)).message⟩ := by
  rw [entryOf, create_of_refused h]
  rfl

/-- No query is passed over, and what is reported of it is true. -/
theorem truthful_entryOf (s : Store) (options : Options) (i : Incoming) :
    ∃ e, s.entryOf options i = some e ∧ Truthful s.policy s.options i e := by
  have hvalid : isValid options i.query = isValid s.options i.query := isValid_eq _ _ _
  by_cases h : s.refusal i.query = none
  · refine ⟨_, entryOf_of_taken options h, rfl, rfl, fun _ => hvalid, ?_, by simp⟩
    rw [hvalid]
    simpa using refusal_eq_none_iff.1 h
  · refine ⟨_, entryOf_of_refused options h, rfl, rfl, fun _ => hvalid, ?_, by simp⟩
    rw [hvalid]
    simpa using refusal_eq_none_iff.not.1 h

/-! ## A batch of queries -/

theorem importAll_cons (s : Store) (options : Options) (i : Incoming) (batch : List Incoming) :
    s.importAll options (i :: batch) =
      (((s.create i.freshId i.now i.query).1.importAll options batch).1,
        (s.entryOf options i).toList ++
          ((s.create i.freshId i.now i.query).1.importAll options batch).2) := rfl

/-- An import creates the queries in their order. -/
theorem importAll_fst (s : Store) (options : Options) (batch : List Incoming) :
    (s.importAll options batch).1 =
      s.after (batch.map fun i => .create i.freshId i.now i.query) := by
  induction batch generalizing s with
  | nil => rfl
  | cons i batch ih => exact ih _

theorem truthful_importAll (s : Store) (options : Options) (batch : List Incoming) :
    List.Forall₂ (Truthful s.policy s.options) batch (s.importAll options batch).2 := by
  induction batch generalizing s with
  | nil => exact .nil
  | cons i batch ih =>
    obtain ⟨e, he, htruthful⟩ := truthful_entryOf s options i
    obtain ⟨hpolicy, hoptions⟩ := rules_create s i.freshId i.now i.query
    have hrest := ih (s.create i.freshId i.now i.query).1
    rw [hpolicy, hoptions] at hrest
    rw [importAll_cons, he]
    exact .cons htruthful hrest

/-- The queries that were given an id, under that id. -/
def added (batch : List Incoming) (entries : List Imported) : List Query :=
  (batch.zip entries).filterMap fun (i, e) => e.id.map fun id => i.query.stamped id i.now i.now

theorem Indexed.list_importAll (hs : s.Indexed) (options : Options) {batch : List Incoming}
    (hdraw : (batch.map (·.freshId)).Nodup) (hfresh : ∀ i ∈ batch, i.freshId ∉ s.ids) :
    (s.importAll options batch).1.list =
      s.list ++ added batch (s.importAll options batch).2 := by
  induction batch generalizing s with
  | nil => exact (List.append_nil _).symm
  | cons i batch ih =>
    rw [List.map_cons, List.nodup_cons] at hdraw
    have hid : i.freshId ∉ s.ids := hfresh i List.mem_cons_self
    rw [importAll_cons]
    by_cases h : s.refusal i.query = none
    · rw [create_of_taken h, entryOf_of_taken options h]
      have hlist : (s.put (i.query.stamped i.freshId i.now i.now)).list =
          s.list ++ [i.query.stamped i.freshId i.now i.now] := hs.list_put_new hid
      -- The ids still to come are neither among the old ones nor the one just given.
      have hfresh' : ∀ j ∈ batch,
          j.freshId ∉ (s.put (i.query.stamped i.freshId i.now i.now)).ids := by
        intro j hj hmem
        rw [ids, hlist, List.map_append, List.mem_append] at hmem
        rcases hmem with hold | hnew
        · exact hfresh j (List.mem_cons_of_mem _ hj) hold
        · have heq : j.freshId = i.freshId := List.mem_singleton.1 hnew
          exact hdraw.1 (heq ▸ List.mem_map_of_mem hj)
      rw [ih (hs.put _) hdraw.2 hfresh', hlist, List.append_assoc]
      rfl
    · rw [create_of_refused h, entryOf_of_refused options h]
      exact ih hs hdraw.2 fun j hj => hfresh j (List.mem_cons_of_mem _ hj)

/-- A store, after any operations on it, reports an entry for each query that is imported, in their
order. An entry tells whether the store finds its query valid, whatever options the report is made
with; a query is rejected just when it is invalid and the policy excludes that, and else given an
id. The store is as if the queries had been created one by one. If the ids that are drawn are fresh,
it lists what it listed before and after that the queries that were given an id, in their order. -/
theorem import_reports_truthfully (policy : StorePolicy) (checks options : Options)
    (ops : List Operation) (batch : List Incoming) :
    let s := (new policy checks).after ops
    let r := s.importAll options batch
    List.Forall₂ (Truthful policy checks) batch r.2 ∧
    r.1 = s.after (batch.map fun i => .create i.freshId i.now i.query) ∧
    ((batch.map (·.freshId)).Nodup → (∀ i ∈ batch, i.freshId ∉ s.ids) →
      r.1.list = s.list ++ added batch r.2) := by
  intro s r
  obtain ⟨hpolicy, hoptions⟩ := rules_after (new policy checks) ops
  have htruthful := truthful_importAll s options batch
  rw [hpolicy, hoptions] at htruthful
  exact ⟨htruthful, importAll_fst s options batch,
    (indexed_after policy checks ops).list_importAll options⟩

/-- A blank query between two of the same name. -/
def mixedBatch : List Incoming :=
  [⟨"customers.json", customers, "query-2", ⟨5, 0⟩⟩,
    ⟨"blank.json", .new "query-1" "blank" ⟨0, 0⟩, "query-3", ⟨6, 0⟩⟩,
    ⟨"copy.yaml", customers, "query-4", ⟨4, 0⟩⟩]

/-- An enforcing store rejects the blank query, whatever the options of the report. -/
theorem import_reports_truthfully_mixed :
    let s := (new .enforce .default).after [.create "query-1" ⟨1, 0⟩ customers]
    let r := s.importAll ⟨1, false⟩ mixedBatch
    (∃ e₁ e₂ e₃, r.2 = [e₁, e₂, e₃] ∧ e₁.valid = true ∧ e₂.rejected ≠ none ∧
      e₃.file = "copy.yaml") ∧
    r.1.ids = ["query-1", "query-2", "query-4"] := by
  intro s r
  obtain ⟨htruthful, -, hlist⟩ := import_reports_truthfully .enforce .default ⟨1, false⟩
    [.create "query-1" ⟨1, 0⟩ customers] mixedBatch
  obtain ⟨e₁, _, h₁, hrest, heq⟩ := List.forall₂_cons_left_iff.1 htruthful
  obtain ⟨e₂, _, h₂, hlast, rfl⟩ := List.forall₂_cons_left_iff.1 hrest
  obtain ⟨e₃, _, h₃, hnil, rfl⟩ := List.forall₂_cons_left_iff.1 hlast
  obtain rfl := List.forall₂_nil_left_iff.1 hnil
  refine ⟨⟨e₁, e₂, e₃, heq, ?_, ?_, h₃.file⟩, ?_⟩
  · rw [h₁.valid ⟨9, 0⟩]
    decide +kernel
  · refine h₂.rejected.2 ⟨rfl, ?_⟩
    rw [h₂.valid ⟨9, 0⟩]
    decide +kernel
  · rw [ids, hlist (by decide) (by decide +kernel)]
    decide +kernel

end Store

end CrossSource
