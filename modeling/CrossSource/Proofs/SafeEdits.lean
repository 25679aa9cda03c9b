import CrossSource.Proofs.References
/-!
# Edits that leave nothing to repair

Many edits keep a query valid: to select one more field, to take a filter off, and all that has to
do with groups, order, summaries and the limit. A new filter does if its type allows its operator, a
new join if it fits what is selected. Such a safe edit keeps the sources, leaves the selected fields
in front of a new one, and adds no join or filter that does not fit (`Safe.extends`), and nothing
more is needed for a valid query to stay valid (`silent_of_extends`, `safe_edits_keep_valid`).
-/

namespace CrossSource

namespace Query

variable {q q' : Query}

/-! ## Safe edits -/

/-- The edits that leave nothing to repair in a query, if there was nothing before. -/
def Safe (q : Query) : Edit → Prop
  | .addJoin j => q.JoinFits j
  | .addFilter c => Allows c.field.type c.operator
  | .addField _ | .removeFilter _ | .addGroupBy _ | .removeGroupBy _ | .addHaving _
  | .removeHaving _ | .addSort _ _ | .removeSort _ | .addAggregate _ _ _ | .removeAggregate _
  | .setLimit _ => True
  | .addSource _ _ | .removeSource _ | .removeField _ | .removeJoin _ => False

/-- What a safe edit may do to the parts of a query that errors are about. -/
structure Extends (q q' : Query) : Prop where
  sources : q'.sources = q.sources
  selectedFields : q.selectedFields <+: q'.selectedFields
  joins_subset : q.joins ⊆ q'.joins
  joins : ∀ j ∈ q'.joins, j ∈ q.joins ∨ q.JoinFits j
  filters : ∀ c ∈ q'.filters, c ∈ q.filters ∨ Allows c.field.type c.operator

theorem Extends.of_eq (hsources : q'.sources = q.sources)
    (hselected : q'.selectedFields = q.selectedFields) (hjoins : q'.joins = q.joins)
    (hfilters : q'.filters = q.filters) : Extends q q' where
  sources := hsources
  selectedFields := by rw [hselected]
  joins_subset := by simp [hjoins]
  joins j hj := .inl (hjoins ▸ hj)
  filters c hc := .inl (hfilters ▸ hc)

theorem Safe.extends {e : Edit} (h : q.Safe e) : Extends q (q.edit e) := by
  have hself : Extends q q := .of_eq rfl rfl rfl rfl
  cases e with
  | addField f => exact { hself with selectedFields := List.prefix_append _ _ }
  | addJoin j =>
    refine { hself with joins_subset := List.subset_append_left _ _, joins := ?_ }
    intro j' hj
    rcases List.mem_append.1 hj with hj | hj
    · exact .inl hj
    · rw [List.mem_singleton.1 hj]
      exact .inr h
  | addFilter c =>
    refine { hself with filters := ?_ }
    intro c' hc
    rcases List.mem_append.1 hc with hc | hc
    · exact .inl hc
    · rw [List.mem_singleton.1 hc]
      exact .inr h
  | removeFilter i => exact { hself with filters := fun c hc => .inl (List.mem_of_mem_eraseIdx hc) }
  | addSource | removeSource | removeField | removeJoin => exact h.elim
  | _ => exact .of_eq rfl rfl rfl rfl

/-! ## What goes on fitting -/

/-- A field that is selected later does not come first. -/
theorem FirstSelected.extends {f g : Field} (hg : q.FirstSelected f g) (h : Extends q q') :
    q'.FirstSelected f g := by
  obtain ⟨before, after, heq, hsame, hbefore⟩ := hg
  obtain ⟨more, hmore⟩ := h.selectedFields
  refine ⟨before, after ++ more, ?_, hsame, hbefore⟩
  rw [← hmore, heq]
  simp

theorem JoinFits.extends {j : Join} (hj : q.JoinFits j) (h : Extends q q') : q'.JoinFits j := by
  obtain ⟨l, r, hl, hr, hfit⟩ := hj.selected
  exact ⟨hj.apart, l, r, hl.extends h, hr.extends h, hfit⟩

/-- More joins between the same sources leave them connected. -/
theorem Extends.preconnected (h : Extends q q') (hc : q.sourceGraph.Preconnected) :
    q'.sourceGraph.Preconnected := by
  -- Both graphs have the same positions, up to a cast between equal numbers of sources.
  have hlen : q.sources.length = q'.sources.length := by rw [h.sources]
  have halias : ∀ i, q'.aliasAt (i.cast hlen) = q.aliasAt i := by
    intro i
    simp [aliasAt, h.sources]
  have hfirst : ∀ {a i}, q.FirstAt a i → q'.FirstAt a (i.cast hlen) := by
    rintro a i ⟨hi, hbefore⟩
    refine ⟨(halias i).trans hi, fun k hk => ?_⟩
    exact halias (k.cast hlen.symm) ▸ hbefore (k.cast hlen.symm) hk
  have hspans : ∀ {i k}, (∃ j ∈ q.joins, q.Spans j i k) →
      ∃ j ∈ q'.joins, q'.Spans j (i.cast hlen) (k.cast hlen) := by
    rintro i k ⟨j, hj, hl, hr⟩
    exact ⟨j, h.joins_subset hj, hfirst hl, hfirst hr⟩
  have hadj : ∀ {i k}, q.sourceGraph.Adj i k →
      q'.sourceGraph.Adj (i.cast hlen) (k.cast hlen) := by
    intro i k hik
    simp only [sourceGraph, SimpleGraph.fromRel_adj] at hik ⊢
    refine ⟨fun heq => hik.1 (Fin.cast_injective hlen heq), ?_⟩
    exact hik.2.imp hspans hspans
  exact hc.map ⟨Fin.cast hlen, hadj⟩ (finCongr hlen).surjective

end Query

namespace Validation

open Query

variable {q q' : Query}

/-! ## No new errors -/

/-- Where no rule finds an error in a query, none does after a safe edit. -/
theorem silent_of_extends {options options' : Options} (h : Extends q q')
    (hsilent : ∀ c : Code, c.severity = .error → rule options q c = []) :
    ∀ c : Code, c.severity = .error → rule options' q' c = [] := by
  have hjoins : joinsResolve q' = [] ∧ joinsCompatible q' = [] := by
    have hfit := joins_eq_nil_iff.1 ⟨hsilent .invalidJoin rfl, hsilent .incompatibleTypes rfl⟩
    refine joins_eq_nil_iff.2 fun j hj => ?_
    rcases h.joins j hj with hj | hj
    · exact (hfit j hj).extends h
    · exact hj.extends h
  intro c hc
  cases c with
  | noSources =>
    have hsome := sourcesPresent_eq_nil_iff.1 (hsilent .noSources rfl)
    exact sourcesPresent_eq_nil_iff.2 (h.sources ▸ hsome)
  | noFields =>
    have hsome := fieldsPresent_eq_nil_iff.1 (hsilent .noFields rfl)
    refine fieldsPresent_eq_nil_iff.2 fun hnone => hsome ?_
    exact List.prefix_nil.1 (hnone ▸ h.selectedFields)
  | missingJoins =>
    have hgraph := (sourcesJoined_eq_nil_iff q).1 (hsilent .missingJoins rfl)
    exact (sourcesJoined_eq_nil_iff q').2 (h.preconnected hgraph)
  | invalidJoin => exact hjoins.1
  | incompatibleTypes => exact hjoins.2
  | invalidOperator =>
    have hallow := operatorsAllowed_eq_nil_iff.1 (hsilent .invalidOperator rfl)
    refine operatorsAllowed_eq_nil_iff.2 fun f hf => ?_
    rcases h.filters f hf with hf | hf
    · exact hallow f hf
    · exact hf
  | duplicateAlias =>
    have hdiffer := aliasesDiffer_eq_nil_iff.1 (hsilent .duplicateAlias rfl)
    refine aliasesDiffer_eq_nil_iff.2 ?_
    rwa [aliases, h.sources]
  | performanceWarning | unknownSource => cases hc

/-- A valid query stays valid all along a run of safe edits, whenever and under whatever options it
is looked at. -/
theorem safe_edits_keep_valid (options options' : Options) (now now' : Timestamp) (q : Query)
    (edits : List Edit) (hvalid : (validate options now q).isValid = true)
    (hsafe : ∀ before e, before ++ [e] <+: edits → (q.editAll before).Safe e) :
    ∀ before, before <+: edits →
      (validate options' now' (q.editAll before)).isValid = true := by
  have hkept : ∀ before, before <+: edits →
      ∀ c : Code, c.severity = .error → rule options' (q.editAll before) c = [] := by
    refine editAll_invariant
      (P := fun q => ∀ c : Code, c.severity = .error → rule options' q c = []) ?_ ?_
    · exact silent_of_extends (.of_eq rfl rfl rfl rfl) ((isValid_iff options now q).1 hvalid)
    · exact fun before e hpre hsilent => silent_of_extends (hsafe before e hpre).extends hsilent
  intro before hpre
  exact (isValid_iff options' now' _).2 (hkept before hpre)

/-- Customers and their orders. -/
def orders : Query :=
  let customer := Field.plain "s1" "id" .number
  let buyer := Field.plain "s2" "customer" .number
  { Query.new "q" "orders" ⟨0, 0⟩ with
    sources := [⟨"crm", none, "s1"⟩, ⟨"erp", none, "s2"⟩]
    selectedFields := [customer, buyer]
    joins := [⟨customer, buyer, .inner⟩] }

/-- Selects a field once more with a type that goes with no other, joins it by the type that it was
first selected with, and sorts by a field of no source. -/
def refinements : List Edit :=
  let customer := Field.plain "s1" "id" .string
  let total := Field.plain "s2" "total" .decimal
  [.addField customer, .addField total, .addJoin ⟨customer, total, .left⟩,
    .addFilter ⟨total, .between, .null, none⟩, .removeFilter 0,
    .addSort (.plain "z" "gone" .date) .ascending, .setLimit (some 10)]

theorem safe_edits_keep_valid_refinements :
    (validate .default ⟨0, 0⟩ orders).isValid = true ∧
      (∀ before e, before ++ [e] <+: refinements → (orders.editAll before).Safe e) ∧
      (validate .default ⟨0, 0⟩ (orders.editAll refinements)).isValid = true := by
  have hvalid : (validate .default ⟨0, 0⟩ orders).isValid = true := by decide +kernel
  have hsafe : ∀ before e, before ++ [e] <+: refinements → (orders.editAll before).Safe e := by
    refine forall_prefix_of_forall_position fun n => ?_
    fin_cases n
    · exact trivial
    · exact trivial
    · refine ⟨by decide, .plain "s1" "id" .number, .plain "s2" "total" .decimal, ?_, ?_, ?_⟩
      · exact ⟨[], _, rfl, by decide, by simp⟩
      · exact ⟨_, [], rfl, by decide, by decide⟩
      · exact .inr (by decide)
    · exact .ordered (by decide) (by decide)
    all_goals exact trivial
  exact ⟨hvalid, hsafe, safe_edits_keep_valid .default .default ⟨0, 0⟩ ⟨0, 0⟩ orders refinements
    hvalid hsafe refinements List.prefix_rfl⟩

end Validation

end CrossSource
