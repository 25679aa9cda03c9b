import CrossSource.Proofs.References
import Mathlib.Data.Finset.Card
/-!
# What is left when sources are removed

Removing a source removes all that refers to its alias, so that one removal after the other filters
what earlier ones have left. What they leave in the end depends on which sources are gone and not on
their order (`removeSource_withoutSources`, `removal_ignores_order`). A source that was just added
has an alias that nothing refers to, so removing it takes nothing else along
(`addition_is_undone`).
-/

namespace CrossSource

namespace Query

open Number

variable {α : Type} {q : Query} {gone : Finset Nat} {p : Nat}

/-! ## Lists with gaps -/

/-- The elements of a list, counted from a number on, whose numbers are not among `gone`. -/
def kept (gone : Finset Nat) (start : Nat) (as : List α) : List α :=
  ((as.zipIdx start).filter (·.2 ∉ gone)).map Prod.fst

/-- The index of an element among those that are kept: as many of them stand before it. -/
def indexAmong (gone : Finset Nat) (p : Nat) : Nat := (List.range p).countP (· ∉ gone)

theorem kept_append (gone : Finset Nat) (start : Nat) (as bs : List α) :
    kept gone start (as ++ bs) = kept gone start as ++ kept gone (start + as.length) bs := by
  simp [kept, List.zipIdx_append]

theorem kept_cons (gone : Finset Nat) (start : Nat) (a : α) (as : List α) :
    kept gone start (a :: as) =
      if start ∈ gone then kept gone (start + 1) as else a :: kept gone (start + 1) as := by
  by_cases h : start ∈ gone <;> simp [kept, h]

/-- A number that no element of the list has makes no difference. -/
theorem kept_insert {start : Nat} {as : List α} (h : p < start ∨ start + as.length ≤ p) :
    kept (insert p gone) start as = kept gone start as := by
  refine congrArg _ (List.filter_congr fun x hx => ?_)
  have hge := List.le_snd_of_mem_zipIdx hx
  have hlt := List.snd_lt_add_of_mem_zipIdx hx
  have hne : x.2 ≠ p := by omega
  simp [hne]

theorem length_kept (gone : Finset Nat) (as : List α) :
    (kept gone 0 as).length = indexAmong gone as.length := by
  rw [kept, List.length_map, ← List.countP_eq_length_filter, indexAmong, List.range_eq_range',
    ← List.zipIdx_map_snd 0 as, List.countP_map]
  rfl

theorem indexAmong_mono (gone : Finset Nat) {m n : Nat} (h : m ≤ n) :
    indexAmong gone m ≤ indexAmong gone n :=
  (List.range_sublist.2 h).countP_le

/-- A list around the element at a position. -/
theorem exists_around {as : List α} (h : p < as.length) :
    ∃ before a after, as = before ++ a :: after ∧ before.length = p :=
  ⟨as.take p, as[p], as.drop (p + 1), by simp, by simp; omega⟩

/-- An element that is kept is found at its index. -/
theorem getElem?_kept (hp : p ∉ gone) (as : List α) :
    (kept gone 0 as)[indexAmong gone p]? = as[p]? := by
  rcases Nat.lt_or_ge p as.length with h | h
  · obtain ⟨before, a, after, rfl, rfl⟩ := exists_around h
    rw [kept_append, ← length_kept, List.getElem?_append_right (Nat.le_refl _), kept_cons]
    simp [hp]
  · have hlen := length_kept gone as
    have hle := indexAmong_mono gone h
    rw [List.getElem?_eq_none h, List.getElem?_eq_none (by omega)]

/-- To take an element off those that are kept is to let it go with the others. -/
theorem eraseIdx_kept (hp : p ∉ gone) (as : List α) :
    (kept gone 0 as).eraseIdx (indexAmong gone p) = kept (insert p gone) 0 as := by
  rcases Nat.lt_or_ge p as.length with h | h
  · obtain ⟨before, a, after, rfl, rfl⟩ := exists_around h
    rw [kept_append, kept_append, ← length_kept, List.eraseIdx_append_of_length_le (Nat.le_refl _),
      kept_cons, kept_cons, kept_insert (by omega), kept_insert (by omega)]
    simp [hp]
  · have hlen := length_kept gone as
    have hle := indexAmong_mono gone h
    rw [List.eraseIdx_of_length_le (by omega), kept_insert (by omega)]

/-! ## References to some aliases -/

/-- The query with only those references, sources apart, that are to aliases of one kind. -/
def keepReferences (q : Query) (stays : String → Bool) : Query :=
  { q with
    selectedFields := q.selectedFields.filter fun f => stays f.source
    joins := q.joins.filter fun j => stays j.left.source && stays j.right.source
    filters := q.filters.filter fun c => stays c.field.source
    groupBy := q.groupBy.filter fun f => stays f.source
    having := q.having.filter fun c => stays c.field.source
    orderBy := q.orderBy.filter fun s => stays s.field.source
    aggregates := q.aggregates.filter fun a => stays a.field.source }

theorem forgetAlias_eq (q : Query) (aliasName : String) :
    q.forgetAlias aliasName = q.keepReferences (· ≠ aliasName) := by
  simp [forgetAlias, keepReferences, Join.mentions]

/-- A removal keeps the other sources and what does not refer to the alias at the index, if there is
one. -/
theorem removeSource_eq (q : Query) (index : Nat) : q.removeSource index =
    { q with sources := q.sources.eraseIdx index }.keepReferences (q.aliases[index]? ≠ some ·) := by
  cases hs : q.sources[index]? with
  | none =>
    have hlen := List.getElem?_eq_none_iff.1 hs
    simp [removeSource, hs, keepReferences, aliases, List.eraseIdx_of_length_le hlen]
  | some s =>
    have hother : ∀ a, q.aliases[index]? ≠ some a ↔ a ≠ s.aliasName := by
      intro a
      simp [aliases, hs, eq_comm]
    simp only [removeSource, hs, forgetAlias_eq, hother]

theorem keepReferences_keepReferences (q : Query) (stays stays' : String → Bool) :
    (q.keepReferences stays).keepReferences stays' =
      q.keepReferences fun a => stays' a && stays a := by
  simp only [keepReferences, List.filter_filter, Bool.and_assoc, Bool.and_left_comm]

/-- Where all references are to aliases of the kind, all are kept. -/
theorem Grounded.keepReferences_eq (h : q.Grounded) {stays : String → Bool}
    (hstays : ∀ a ∈ q.aliases, stays a = true) : q.keepReferences stays = q := by
  have hall : ∀ {α : Type} (source : α → String) {as : List α},
      (∀ a ∈ as, source a ∈ q.aliases) → as.filter (fun a => stays (source a)) = as := by
    intro α source as has
    exact List.filter_eq_self.2 fun a ha => hstays _ (has a ha)
  have hjoins : q.joins.filter (fun j => stays j.left.source && stays j.right.source) =
      q.joins := by
    refine List.filter_eq_self.2 fun j hj => ?_
    rw [hstays _ (h.joins j hj).1, hstays _ (h.joins j hj).2, Bool.and_self]
  rw [keepReferences, hall _ h.selected, hjoins, hall _ h.filters, hall _ h.groupBy,
    hall _ h.having, hall _ h.orderBy, hall _ h.aggregates]

/-! ## Several sources -/

/-- The aliases of the sources at some positions. -/
def aliasesAt (q : Query) (gone : Finset Nat) : List String :=
  (q.aliases.zipIdx.filter (·.2 ∈ gone)).map Prod.fst

/-- The query without the sources at some positions and without all that refers to their aliases. -/
def withoutSources (q : Query) (gone : Finset Nat) : Query :=
  { q with sources := kept gone 0 q.sources }.keepReferences (· ∉ q.aliasesAt gone)

/-- The removals of the sources at some positions one after the other, where those among `gone` are
no longer there. Each removal is at the index that the source has by then. -/
def removals (gone : Finset Nat) : List Nat → List Edit
  | [] => []
  | p :: ps => .removeSource (indexAmong gone p) :: removals (insert p gone) ps

theorem mem_aliasesAt_iff {a : String} :
    a ∈ q.aliasesAt gone ↔ ∃ p ∈ gone, q.aliases[p]? = some a := by
  simp only [aliasesAt, List.mem_map, List.mem_filter, Prod.exists, List.mem_zipIdx_iff_getElem?,
    decide_eq_true_eq, exists_and_right, exists_eq_right]
  exact exists_congr fun p => and_comm

theorem mem_aliasesAt_insert_iff {a : String} : a ∈ q.aliasesAt (insert p gone) ↔
    q.aliases[p]? = some a ∨ a ∈ q.aliasesAt gone := by
  simp only [mem_aliasesAt_iff, Finset.mem_insert, or_and_right, exists_or, exists_eq_left]

theorem withoutSources_empty (q : Query) : q.withoutSources ∅ = q := by
  simp [withoutSources, keepReferences, aliasesAt, kept]

/-- What is left after some removals and one more. -/
theorem removeSource_withoutSources (q : Query) (hp : p ∉ gone) :
    (q.withoutSources gone).removeSource (indexAmong gone p) =
      q.withoutSources (insert p gone) := by
  have hget : (q.withoutSources gone).aliases[indexAmong gone p]? = q.aliases[p]? := by
    have haliases : (q.withoutSources gone).aliases =
        (kept gone 0 q.sources).map (·.aliasName) := rfl
    rw [haliases, List.getElem?_map, getElem?_kept hp, aliases, List.getElem?_map]
  have herase : (q.withoutSources gone).sources.eraseIdx (indexAmong gone p) =
      kept (insert p gone) 0 q.sources := eraseIdx_kept hp q.sources
  have hlost : ∀ a, a ∉ q.aliasesAt (insert p gone) ↔
      q.aliases[p]? ≠ some a ∧ a ∉ q.aliasesAt gone := by
    intro a
    rw [mem_aliasesAt_insert_iff, not_or]
  rw [removeSource_eq, hget, herase]
  calc ({ q with sources := kept (insert p gone) 0 q.sources }.keepReferences
          (· ∉ q.aliasesAt gone)).keepReferences (q.aliases[p]? ≠ some ·)
      = q.withoutSources (insert p gone) := by
        simp only [keepReferences_keepReferences, withoutSources, hlost, Bool.decide_and]

theorem editAll_removals (q : Query) (gone : Finset Nat) {order : List Nat} (hn : order.Nodup)
    (hnew : ∀ p ∈ order, p ∉ gone) : (q.withoutSources gone).editAll (removals gone order) =
      q.withoutSources (gone ∪ order.toFinset) := by
  induction order generalizing gone with
  | nil => simp [removals, editAll]
  | cons p ps ih =>
    obtain ⟨hp, hps⟩ := List.nodup_cons.1 hn
    have hnext : ∀ p' ∈ ps, p' ∉ insert p gone := by
      intro p' hp'
      rw [Finset.mem_insert, not_or]
      exact ⟨fun heq => hp (heq ▸ hp'), hnew p' (List.mem_cons_of_mem _ hp')⟩
    have hrest := ih _ hps hnext
    rw [← removeSource_withoutSources q (hnew p (List.mem_cons_self ..))] at hrest
    rw [List.toFinset_cons, Finset.union_insert, ← Finset.insert_union, ← hrest]
    rfl

theorem removeSource_of_length_le {index : Nat} (h : q.sources.length ≤ index) :
    q.removeSource index = q := by
  rw [removeSource, List.getElem?_eq_none h]

/-- The sources at some positions can be removed in any order, each at the index that it has by
then. What is left are the other sources in their order and, of all lists, what refers to none of
the aliases that are gone; nothing else changes. Past the last source there is nothing to remove. -/
theorem removal_ignores_order (q : Query) (gone : Finset Nat) :
    (∀ order : List Nat, order.Nodup → order.toFinset = gone →
      q.editAll (removals ∅ order) = q.withoutSources gone) ∧
    ∀ index, q.sources.length ≤ index → q.removeSource index = q := by
  refine ⟨?_, fun index h => removeSource_of_length_le h⟩
  rintro order hn rfl
  have hremoved := editAll_removals q ∅ hn fun p _ => Finset.notMem_empty p
  rwa [withoutSources_empty, Finset.empty_union] at hremoved

/-- Two sources under one alias, and fields of theirs, of other sources and of none. -/
def twins : Query :=
  let a := Field.plain "a" "id" .number
  let b := Field.plain "b" "id" .number
  let c := Field.plain "c" "id" .number
  let z := Field.plain "z" "id" .number
  { new "q" "twins" ⟨0, 0⟩ with
    sources := [⟨"x", none, "a"⟩, ⟨"y", none, "b"⟩, ⟨"w", none, "a"⟩, ⟨"v", none, "c"⟩]
    selectedFields := [a, b, c, z]
    joins := [⟨c, a, .inner⟩, ⟨b, c, .left⟩, ⟨c, z, .full⟩]
    orderBy := [⟨b, .ascending⟩, ⟨z, .descending⟩]
    nextAlias := 5 }

/-- The second source goes before the first one or after it. -/
theorem removal_ignores_order_twins :
    removals ∅ [1, 0] = [.removeSource 1, .removeSource 0] ∧
      removals ∅ [0, 1] = [.removeSource 0, .removeSource 0] ∧
      twins.editAll (removals ∅ [1, 0]) = twins.editAll (removals ∅ [0, 1]) ∧
      (twins.editAll (removals ∅ [1, 0])).aliases = ["a", "c"] ∧
      (twins.editAll (removals ∅ [1, 0])).selectedFields.map (·.source) = ["c", "z"] ∧
      (twins.editAll (removals ∅ [1, 0])).joins.length = 1 := by
  have hlater := (removal_ignores_order twins {0, 1}).1 [1, 0] (by decide) (by decide)
  have hsooner := (removal_ignores_order twins {0, 1}).1 [0, 1] (by decide) (by decide)
  rw [hlater, hsooner]
  exact ⟨rfl, rfl, rfl, by decide +kernel, by decide +kernel, by decide +kernel⟩

/-! ## A source that was just added -/

/-- Adding a source and removing it again leaves a query as it was, but for the counter of aliases,
if the query refers to sources of its own only. The sources' number has to leave room in a word, as
it does for any query that fits into memory; whether the counter is used up makes no difference. -/
theorem addition_is_undone (q : Query) (sourceId : String) (table : Option String)
    (hroom : q.sources.length + 2 < wordBound) (hgrounded : q.Grounded) :
    { (q.addSource sourceId table).removeSource q.sources.length with nextAlias := q.nextAlias } =
      q := by
  obtain ⟨hfree, hfits⟩ := nextOrdinal_spec hroom
  have hnew : aliasOf q.nextOrdinal ∉ q.aliases := aliasOf_not_mem (by omega) hfree
  have hlast : (q.addSource sourceId table).aliases[q.sources.length]? =
      some (aliasOf q.nextOrdinal) := by
    rw [aliases_addSource]
    simp [aliases]
  have herase : (q.addSource sourceId table).sources.eraseIdx q.sources.length = q.sources := by
    rw [addSource, List.eraseIdx_append_of_length_le (Nat.le_refl _)]
    simp
  rw [removeSource_eq, hlast, herase]
  -- The source apart, the addition has only changed the counter, which is put back.
  calc { ({ q.addSource sourceId table with sources := q.sources }.keepReferences
          (some (aliasOf q.nextOrdinal) ≠ some ·)) with nextAlias := q.nextAlias }
      = q.keepReferences (some (aliasOf q.nextOrdinal) ≠ some ·) := rfl
    _ = q := by
        refine hgrounded.keepReferences_eq fun a ha => ?_
        simp only [ne_eq, Option.some.injEq, decide_eq_true_eq]
        rintro rfl
        exact hnew ha

/-- The only number in reach is that of a gap among the aliases. -/
def crowded : Query :=
  let last := Field.plain "s18446744073709551615" "id" .number
  let first := Field.plain "s1" "id" .number
  { new "q" "crowded" ⟨0, 0⟩ with
    sources := [⟨"a", none, "s18446744073709551615"⟩, ⟨"b", none, "s1"⟩, ⟨"c", none, "s02"⟩]
    selectedFields := [last, first]
    joins := [⟨last, first, .inner⟩]
    groupBy := [first]
    nextAlias := 18446744073709551615 }

theorem addition_is_undone_crowded :
    crowded.Grounded ∧ (crowded.addSource "d" none).aliases =
        ["s18446744073709551615", "s1", "s02", "s3"] ∧
      { (crowded.addSource "d" none).removeSource 3 with nextAlias := 18446744073709551615 } =
        crowded := by
  have hgrounded : crowded.Grounded := by
    constructor <;> decide
  have hroom : crowded.sources.length + 2 < wordBound := by
    rw [wordBound_eq]
    decide
  exact ⟨hgrounded, by decide +kernel, addition_is_undone crowded "d" none hroom hgrounded⟩

end Query

end CrossSource
