import CrossSource.Proofs.Aliases
import CrossSource.Proofs.Validity
/-!
# References stay within the sources

A query is grounded if all fields that it refers to belong to its sources. Removing a source takes
all references to it along, so an edit leaves a query grounded if the fields that it brings in
belong to sources of the query (`Grounded.edit`). The rule on unknown sources looks at the same
places, and so it has nothing to say along such edits (`edits_stay_grounded`).
-/

namespace CrossSource

/-- The fields that an edit brings in. -/
def Edit.brings : Edit → List Field
  | .addField f | .addGroupBy f | .addSort f _ | .addAggregate f _ _ => [f]
  | .addJoin j => [j.left, j.right]
  | .addFilter c | .addHaving c => [c.field]
  | _ => []

namespace Query

open Number

variable {q : Query}

/-! ## Grounded queries -/

/-- All fields that the query refers to belong to its sources. -/
structure Grounded (q : Query) : Prop where
  selected : ∀ f ∈ q.selectedFields, f.source ∈ q.aliases
  joins : ∀ j ∈ q.joins, j.left.source ∈ q.aliases ∧ j.right.source ∈ q.aliases
  filters : ∀ c ∈ q.filters, c.field.source ∈ q.aliases
  groupBy : ∀ f ∈ q.groupBy, f.source ∈ q.aliases
  having : ∀ c ∈ q.having, c.field.source ∈ q.aliases
  orderBy : ∀ s ∈ q.orderBy, s.field.source ∈ q.aliases
  aggregates : ∀ a ∈ q.aggregates, a.field.source ∈ q.aliases

theorem grounded_new (id name : String) (now : Timestamp) : (new id name now).Grounded := by
  constructor <;> simp [new]

theorem forall_mem_placed_iff {α : Type} {P : α → Prop} {name : String} {as : List α} :
    (∀ r ∈ placed name as, P r.2) ↔ ∀ a ∈ as, P a := by
  simp only [placed, List.forall_mem_map, Prod.forall, List.mem_zipIdx_iff_getElem?]
  constructor
  · intro h a ha
    obtain ⟨n, hn⟩ := List.mem_iff_getElem?.1 ha
    exact h a n hn
  · exact fun h a n hn => h a (List.mem_of_getElem? hn)

theorem map_snd_placed {α : Type} (name : String) (as : List α) :
    (placed name as).map Prod.snd = as := by
  simp only [placed, List.map_map, Function.comp_def]
  exact List.zipIdx_map_fst 0 as

/-- The fields that a query refers to, without their places. -/
theorem map_snd_references (q : Query) : q.references.map Prod.snd =
    q.selectedFields ++ q.joins.flatMap (fun j => [j.left, j.right]) ++ q.filters.map Filter.field ++
      q.groupBy ++ q.having.map Filter.field ++ q.orderBy.map SortKey.field ++
      q.aggregates.map Aggregate.field := by
  have hmap : ∀ {α : Type} (field : α → Field) (name path : String) (as : List α),
      ((placed name as).map fun r => (r.1 ++ path, field r.2)).map Prod.snd = as.map field := by
    intro α field name path as
    rw [List.map_map, ← map_snd_placed name as, List.map_map, map_snd_placed]
    rfl
  have hjoins : ((placed "joins" q.joins).flatMap fun r =>
      [(r.1 ++ ".leftField", r.2.left), (r.1 ++ ".rightField", r.2.right)]).map Prod.snd =
        q.joins.flatMap fun j => [j.left, j.right] := by
    rw [List.map_flatMap, ← map_snd_placed "joins" q.joins, List.flatMap_map, map_snd_placed]
    rfl
  simp only [references, List.map_append, map_snd_placed, hmap, hjoins]

/-- The places that validation looks at are those where a query refers to fields. -/
theorem grounded_iff : q.Grounded ↔ ∀ r ∈ q.references, r.2.source ∈ q.aliases := by
  simp only [references, List.forall_mem_append, List.forall_mem_map, List.forall_mem_flatMap,
    List.forall_mem_cons, List.not_mem_nil, false_implies, implies_true, and_true]
  constructor
  · intro h
    exact ⟨⟨⟨⟨⟨⟨forall_mem_placed_iff.2 h.selected, forall_mem_placed_iff.2 h.joins⟩,
      forall_mem_placed_iff.2 h.filters⟩, forall_mem_placed_iff.2 h.groupBy⟩,
      forall_mem_placed_iff.2 h.having⟩, forall_mem_placed_iff.2 h.orderBy⟩,
      forall_mem_placed_iff.2 h.aggregates⟩
  · rintro ⟨⟨⟨⟨⟨⟨hselected, hjoins⟩, hfilters⟩, hgroupBy⟩, hhaving⟩, horderBy⟩, haggregates⟩
    constructor
    · exact forall_mem_placed_iff.1 hselected
    · exact forall_mem_placed_iff.1 hjoins
    · exact forall_mem_placed_iff.1 hfilters
    · exact forall_mem_placed_iff.1 hgroupBy
    · exact forall_mem_placed_iff.1 hhaving
    · exact forall_mem_placed_iff.1 horderBy
    · exact forall_mem_placed_iff.1 haggregates

/-! ## Edits -/

theorem Grounded.addSource (h : q.Grounded) (sourceId : String) (table : Option String) :
    (q.addSource sourceId table).Grounded := by
  have hkeep : ∀ {a}, a ∈ q.aliases → a ∈ (q.addSource sourceId table).aliases := by
    intro a ha
    rw [aliases_addSource]
    exact List.mem_append_left _ ha
  exact
    { selected := fun f hf => hkeep (h.selected f hf)
      joins := fun j hj => ⟨hkeep (h.joins j hj).1, hkeep (h.joins j hj).2⟩
      filters := fun c hc => hkeep (h.filters c hc)
      groupBy := fun f hf => hkeep (h.groupBy f hf)
      having := fun c hc => hkeep (h.having c hc)
      orderBy := fun s hs => hkeep (h.orderBy s hs)
      aggregates := fun a ha => hkeep (h.aggregates a ha) }

/-- Taking an alias off a list takes off no other one. -/
theorem mem_eraseIdx_of_ne {as : List String} {a b : String} {i : Nat} (hi : as[i]? = some b)
    (ha : a ∈ as) (hne : a ≠ b) : a ∈ as.eraseIdx i := by
  obtain ⟨k, hk⟩ := List.mem_iff_getElem?.1 ha
  refine List.mem_eraseIdx_iff_getElem?.2 ⟨k, ?_, hk⟩
  rintro rfl
  rw [hk, Option.some.injEq] at hi
  exact hne hi

/-- What is left after a source is removed does not refer to it, but to sources that are left. -/
theorem Grounded.removeSource (h : q.Grounded) (index : Nat) :
    (q.removeSource index).Grounded := by
  cases hs : q.sources[index]? with
  | none => rwa [Query.removeSource, hs]
  | some s =>
    have hget : q.aliases[index]? = some s.aliasName := by simp [aliases, hs]
    have hkeep : ∀ {a}, a ∈ q.aliases → a ≠ s.aliasName → a ∈ (q.removeSource index).aliases := by
      intro a ha hne
      rw [aliases_removeSource]
      exact mem_eraseIdx_of_ne hget ha hne
    have hfilter : ∀ {α : Type} (field : α → Field) {as : List α},
        (∀ a ∈ as, (field a).source ∈ q.aliases) →
        ∀ a ∈ as.filter (fun a => (field a).source ≠ s.aliasName),
          (field a).source ∈ (q.removeSource index).aliases := by
      intro α field as hall a ha
      obtain ⟨ha, hne⟩ := List.mem_filter.1 ha
      exact hkeep (hall a ha) (of_decide_eq_true hne)
    have hjoins : ∀ j ∈ q.joins.filter (fun j => !j.mentions s.aliasName),
        j.left.source ∈ (q.removeSource index).aliases ∧
          j.right.source ∈ (q.removeSource index).aliases := by
      intro j hj
      obtain ⟨hj, hne⟩ := List.mem_filter.1 hj
      simp only [Join.mentions, Bool.not_eq_true', Bool.or_eq_false_iff,
        decide_eq_false_iff_not] at hne
      exact ⟨hkeep (h.joins j hj).1 hne.1, hkeep (h.joins j hj).2 hne.2⟩
    -- Six of the seven lists are filtered by one field, the joins by both their sides.
    rw [Query.removeSource, hs] at hfilter hjoins ⊢
    exact
      { selected := hfilter (fun f => f) h.selected
        joins := hjoins
        filters := hfilter Filter.field h.filters
        groupBy := hfilter (fun f => f) h.groupBy
        having := hfilter Filter.field h.having
        orderBy := hfilter SortKey.field h.orderBy
        aggregates := hfilter Aggregate.field h.aggregates }

theorem forall_mem_concat {α : Type} {P : α → Prop} {as : List α} {a : α} (h : ∀ b ∈ as, P b)
    (ha : P a) : ∀ b ∈ as ++ [a], P b :=
  List.forall_mem_append.2 ⟨h, List.forall_mem_singleton.2 ha⟩

theorem forall_mem_eraseIdx {α : Type} {P : α → Prop} {as : List α} (h : ∀ b ∈ as, P b)
    (i : Nat) : ∀ b ∈ as.eraseIdx i, P b :=
  fun b hb => h b (List.mem_of_mem_eraseIdx hb)

/-- An edit leaves a query grounded if the fields that it brings in belong to its sources. -/
theorem Grounded.edit (h : q.Grounded) {e : Edit} (hin : ∀ f ∈ e.brings, f.source ∈ q.aliases) :
    (q.edit e).Grounded := by
  cases e with
  | addSource sourceId table => exact h.addSource sourceId table
  | removeSource i => exact h.removeSource i
  | addField f =>
    exact { h with selected := forall_mem_concat h.selected (hin f (List.mem_singleton_self _)) }
  | removeField i => exact { h with selected := forall_mem_eraseIdx h.selected i }
  | addJoin j =>
    have hleft := hin j.left (List.mem_cons_self ..)
    have hright := hin j.right (List.mem_cons_of_mem _ (List.mem_singleton_self _))
    exact { h with joins := forall_mem_concat h.joins ⟨hleft, hright⟩ }
  | removeJoin i => exact { h with joins := forall_mem_eraseIdx h.joins i }
  | addFilter c =>
    exact { h with filters := forall_mem_concat h.filters (hin _ (List.mem_singleton_self _)) }
  | removeFilter i => exact { h with filters := forall_mem_eraseIdx h.filters i }
  | addGroupBy f =>
    exact { h with groupBy := forall_mem_concat h.groupBy (hin f (List.mem_singleton_self _)) }
  | removeGroupBy i => exact { h with groupBy := forall_mem_eraseIdx h.groupBy i }
  | addHaving c =>
    exact { h with having := forall_mem_concat h.having (hin _ (List.mem_singleton_self _)) }
  | removeHaving i => exact { h with having := forall_mem_eraseIdx h.having i }
  | addSort f d =>
    exact { h with orderBy := forall_mem_concat h.orderBy (hin f (List.mem_singleton_self _)) }
  | removeSort i => exact { h with orderBy := forall_mem_eraseIdx h.orderBy i }
  | addAggregate f s a =>
    exact { h with
      aggregates := forall_mem_concat h.aggregates (hin f (List.mem_singleton_self _)) }
  | removeAggregate i => exact { h with aggregates := forall_mem_eraseIdx h.aggregates i }
  | setLimit n => exact { h with }

end Query

namespace Validation

open Query Number

variable {q : Query}

/-! ## What validation says along edits -/

/-- The rule on unknown sources is silent just when the query is grounded, or has no source. -/
theorem sourcesKnown_eq_nil_iff : sourcesKnown q = [] ↔ (q.sources ≠ [] → q.Grounded) := by
  rw [grounded_iff]
  simp only [sourcesKnown, List.isEmpty_iff]
  split
  · next hnone => simp [hnone]
  · next hsome =>
    simp only [List.flatMap_eq_nil_iff, ite_eq_left_iff, reduceCtorEq, imp_false, not_not]
    exact (imp_iff_right hsome).symm

/-- What holds at each position of a run holds wherever an edit comes after the ones before it. -/
theorem forall_prefix_of_forall_position {P : List Edit → Edit → Prop} {edits : List Edit}
    (h : ∀ n : Fin edits.length, P (edits.take n) edits[n]) :
    ∀ before e, before ++ [e] <+: edits → P before e := by
  rintro before e ⟨after, rfl⟩
  simpa using h ⟨before.length, by simp⟩

/-- Edits leave a query grounded and its aliases distinct, if it was so before and each field that
they bring in belongs to a source that the query has at that time. Validation then reports neither
an unknown source nor a repeated alias, whatever its options. The sources' number has to leave room
in a word, as it does for any query that fits into memory. -/
theorem edits_stay_grounded (options : Options) (now : Timestamp) (q : Query) (edits : List Edit)
    (hdistinct : q.aliases.Nodup) (hgrounded : q.Grounded)
    (hin : ∀ before e, before ++ [e] <+: edits →
      ∀ f ∈ e.brings, f.source ∈ (q.editAll before).aliases)
    (hroom : ∀ before sourceId table, before ++ [.addSource sourceId table] <+: edits →
      (q.editAll before).sources.length + 2 < wordBound) :
    ∀ before, before <+: edits →
      (q.editAll before).Grounded ∧
      .unknownSource ∉ (validate options now (q.editAll before)).codes ∧
      .duplicateAlias ∉ (validate options now (q.editAll before)).codes := by
  have hkept : ∀ before, before <+: edits →
      (q.editAll before).Grounded ∧ (q.editAll before).aliases.Nodup := by
    refine editAll_invariant (P := fun q => q.Grounded ∧ q.aliases.Nodup)
      ⟨hgrounded, hdistinct⟩ ?_
    rintro before e hpre ⟨hground, hnodup⟩
    refine ⟨hground.edit (hin before e hpre), nodup_edit hnodup e ?_⟩
    rintro sourceId table rfl
    exact hroom before sourceId table hpre
  intro before hpre
  obtain ⟨hground, hnodup⟩ := hkept before hpre
  refine ⟨hground, ?_, ?_⟩
  · rw [mem_codes_iff, not_not]
    exact sourcesKnown_eq_nil_iff.2 fun _ => hground
  · rw [mem_codes_iff, not_not]
    exact aliasesDiffer_eq_nil_iff.2 hnodup

/-- Builds a query over two sources, removes the first one and puts another in its place. -/
def rebuilding : List Edit :=
  let customer := Field.plain "s1" "id" .number
  let buyer := Field.plain "s2" "customer" .number
  let total := Field.plain "s2" "total" .decimal
  [.addSource "crm" none, .addSource "erp" none, .addField customer, .addField buyer,
    .addJoin ⟨customer, buyer, .inner⟩, .addFilter ⟨customer, .equals, .null, none⟩,
    .addGroupBy buyer, .addHaving ⟨total, .lessThan, .null, none⟩, .addSort customer .ascending,
    .addAggregate total .sum "revenue", .removeSource 0, .addSource "crm" none,
    .addField (.plain "s3" "id" .number)]

def unedited : Query := .new "q" "totals" ⟨0, 0⟩

theorem edits_stay_grounded_rebuilding :
    (∀ before e, before ++ [e] <+: rebuilding →
      ∀ f ∈ e.brings, f.source ∈ (unedited.editAll before).aliases) ∧
    (unedited.editAll rebuilding).Grounded ∧
    .unknownSource ∉ (validate .default ⟨0, 0⟩ (unedited.editAll rebuilding)).codes ∧
    .duplicateAlias ∉ (validate .default ⟨0, 0⟩ (unedited.editAll rebuilding)).codes := by
  have hin : ∀ before e, before ++ [e] <+: rebuilding →
      ∀ f ∈ e.brings, f.source ∈ (unedited.editAll before).aliases :=
    forall_prefix_of_forall_position (by decide +kernel)
  have hroom : ∀ before sourceId table, before ++ [.addSource sourceId table] <+: rebuilding →
      (unedited.editAll before).sources.length + 2 < wordBound := by
    intro before sourceId table hpre
    have hle := length_sources_editAll_le unedited before
    have hlen := hpre.length_le
    have hnew : unedited.sources.length = 0 := rfl
    have hthirteen : rebuilding.length = 13 := rfl
    rw [List.length_append] at hlen
    rw [wordBound_eq]
    omega
  exact ⟨hin, edits_stay_grounded .default ⟨0, 0⟩ unedited rebuilding List.nodup_nil
    (grounded_new _ _ _) hin hroom rebuilding List.prefix_rfl⟩

end Validation

end CrossSource
