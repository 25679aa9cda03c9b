import CrossSource.Proofs.Partition
import CrossSource.Proofs.Rules
import Mathlib.Combinatorics.SimpleGraph.Acyclic
/-!
# Sources hang together as the joins connect them

The graph of a query has the positions of its sources as vertices and an edge for each join, between
the first positions of its two aliases. The classes that validation unites along the joins are the
components of this graph (`root_components_eq_iff`). A connected graph has at least one edge less
than vertices, so a query with fewer joins is never connected, and counting joins first changes
nothing but the text of the message.
-/

namespace CrossSource

namespace Query

variable (q : Query)

/-! ## The graph of a query -/

/-- The alias of the source at a position. -/
def aliasAt (i : Fin q.sources.length) : String := (q.sources.get i).aliasName

/-- The first position of an alias among the sources. -/
def FirstAt (aliasName : String) (i : Fin q.sources.length) : Prop :=
  q.aliasAt i = aliasName ∧ ∀ k < i, q.aliasAt k ≠ aliasName

/-- The aliases of a join both occur among the sources, first at these positions. -/
def Spans (j : Join) (i k : Fin q.sources.length) : Prop :=
  q.FirstAt j.left.source i ∧ q.FirstAt j.right.source k

/-- The positions of the sources, with an edge between those that a join spans. -/
def sourceGraph : SimpleGraph (Fin q.sources.length) :=
  .fromRel fun i k => ∃ j ∈ q.joins, q.Spans j i k

theorem length_aliases : q.aliases.length = q.sources.length := List.length_map _

variable {q}

theorem getElem?_aliases (i : Fin q.sources.length) : q.aliases[i.val]? = some (q.aliasAt i) := by
  simp [aliases, aliasAt]

theorem FirstAt.unique {a : String} {i k : Fin q.sources.length} (hi : q.FirstAt a i)
    (hk : q.FirstAt a k) : i = k := by
  rcases lt_trichotomy i k with h | h | h
  · exact absurd hi.1 (hk.2 i h)
  · exact h
  · exact absurd hk.1 (hi.2 k h)

/-- The position that validation looks up is the first one. -/
theorem positionOf_eq_some_iff {a : String} {n : Nat} :
    q.positionOf a = some n ↔ ∃ h : n < q.sources.length, q.FirstAt a ⟨n, h⟩ := by
  simp only [positionOf, aliases, List.idxOf?, List.findIdx?_eq_some_iff_getElem, List.length_map,
    List.getElem_map, beq_iff_eq, FirstAt, aliasAt, List.get_eq_getElem]
  constructor
  · rintro ⟨h, hn, hbefore⟩
    exact ⟨h, hn, fun k hk => hbefore k hk⟩
  · rintro ⟨h, hn, hbefore⟩
    exact ⟨h, hn, fun k hk => hbefore ⟨k, hk.trans h⟩ hk⟩

theorem joinedPositions_eq_some_iff {j : Join} {x y : Nat} :
    q.joinedPositions j = some (x, y) ↔
      ∃ (hx : x < q.sources.length) (hy : y < q.sources.length), q.Spans j ⟨x, hx⟩ ⟨y, hy⟩ := by
  have hboth : q.joinedPositions j = some (x, y) ↔
      q.positionOf j.left.source = some x ∧ q.positionOf j.right.source = some y := by
    simp only [joinedPositions]
    split
    · next l r hl hr => simp [hl, hr]
    · next hnone =>
      constructor
      · intro h; cases h
      · rintro ⟨hl, hr⟩; exact absurd hr (hnone x y hl)
  rw [hboth, positionOf_eq_some_iff, positionOf_eq_some_iff]
  constructor
  · rintro ⟨⟨hx, hl⟩, ⟨hy, hr⟩⟩
    exact ⟨hx, hy, hl, hr⟩
  · rintro ⟨hx, hy, hl, hr⟩
    exact ⟨⟨hx, hl⟩, ⟨hy, hr⟩⟩

/-! ## Classes of positions are components -/

/-- The pairs of positions that the joins span. -/
def pairs (q : Query) : List (Nat × Nat) := q.joins.filterMap q.joinedPositions

theorem components_eq_unionAll (q : Query) :
    q.components = (Partition.discrete q.sources.length).unionAll q.pairs := rfl

theorem mem_pairs_iff {x y : Nat} :
    (x, y) ∈ q.pairs ↔ ∃ (hx : x < q.sources.length) (hy : y < q.sources.length),
      ∃ j ∈ q.joins, q.Spans j ⟨x, hx⟩ ⟨y, hy⟩ := by
  simp only [pairs, List.mem_filterMap, joinedPositions_eq_some_iff]
  constructor
  · rintro ⟨j, hj, hx, hy, hs⟩
    exact ⟨hx, hy, j, hj, hs⟩
  · rintro ⟨hx, hy, j, hj, hs⟩
    exact ⟨j, hj, hx, hy, hs⟩

theorem pairs_lt_size {e : Nat × Nat} (he : e ∈ q.pairs) :
    e.1 < (Partition.discrete q.sources.length).size ∧
      e.2 < (Partition.discrete q.sources.length).size := by
  obtain ⟨hx, hy, -⟩ := mem_pairs_iff.1 he
  rw [Partition.size_discrete]
  exact ⟨hx, hy⟩

theorem reachable_of_spans {j : Join} (hj : j ∈ q.joins) {i k : Fin q.sources.length}
    (h : q.Spans j i k) : q.sourceGraph.Reachable i k := by
  by_cases hik : i = k
  · rw [hik]
  · exact SimpleGraph.Adj.reachable ((SimpleGraph.fromRel_adj _ _ _).2 ⟨hik, .inl ⟨j, hj, h⟩⟩)

theorem reachable_of_tied {x y : Nat}
    (h : Relation.EqvGen (Partition.Tied (.discrete q.sources.length) q.pairs) x y) :
    x = y ∨ ∃ (hx : x < q.sources.length) (hy : y < q.sources.length),
      q.sourceGraph.Reachable ⟨x, hx⟩ ⟨y, hy⟩ := by
  induction h with
  | rel x y h =>
    rcases h with hroot | hmem
    · exact .inl (by simpa using hroot)
    · obtain ⟨hx, hy, j, hj, hs⟩ := mem_pairs_iff.1 hmem
      exact .inr ⟨hx, hy, reachable_of_spans hj hs⟩
  | refl x => exact .inl rfl
  | symm x y _ ih =>
    rcases ih with rfl | ⟨hx, hy, h⟩
    · exact .inl rfl
    · exact .inr ⟨hy, hx, h.symm⟩
  | trans x y z _ _ ih ih' =>
    rcases ih with rfl | ⟨hx, hy, h⟩
    · exact ih'
    · rcases ih' with rfl | ⟨_, hz, h'⟩
      · exact .inr ⟨hx, hy, h⟩
      · exact .inr ⟨hx, hz, h.trans h'⟩

theorem tied_of_reachable {i k : Fin q.sources.length} (h : q.sourceGraph.Reachable i k) :
    Relation.EqvGen (Partition.Tied (.discrete q.sources.length) q.pairs) i k := by
  rw [SimpleGraph.reachable_iff_reflTransGen] at h
  induction h with
  | refl => exact .refl _
  | tail _ hadj ih =>
    refine ih.trans _ _ _ ?_
    obtain ⟨-, ⟨j, hj, hs⟩ | ⟨j, hj, hs⟩⟩ := (SimpleGraph.fromRel_adj _ _ _).1 hadj
    · exact .rel _ _ (.inr (mem_pairs_iff.2 ⟨_, _, j, hj, hs⟩))
    · exact .symm _ _ (.rel _ _ (.inr (mem_pairs_iff.2 ⟨_, _, j, hj, hs⟩)))

/-- Two positions are in one class just when a chain of joins connects them. -/
theorem root_components_eq_iff (i k : Fin q.sources.length) :
    q.components.root i = q.components.root k ↔ q.sourceGraph.Reachable i k := by
  rw [components_eq_unionAll, Partition.Forest.root_unionAll q.pairs
    (Partition.forest_discrete _) fun _ => pairs_lt_size]
  constructor
  · intro h
    rcases reachable_of_tied h with heq | ⟨_, _, hr⟩
    · rw [Fin.ext heq]
    · exact hr
  · exact tied_of_reachable

/-- No source is left out just when every one is reached from the first. -/
theorem disconnected_eq_nil_iff (q : Query) : q.disconnected = [] ↔ q.sourceGraph.Preconnected := by
  have hall : q.disconnected = [] ↔
      ∀ i : Fin q.sources.length, q.components.root i = q.components.root 0 := by
    simp only [disconnected, List.map_eq_nil_iff, List.filter_eq_nil_iff, ne_eq,
      decide_eq_true_eq, not_not]
    constructor
    · intro h i
      exact h (q.aliasAt i, i) (List.mem_zipIdx_iff_getElem?.2 (by simp [aliases, aliasAt]))
    · rintro h ⟨a, i⟩ hi
      have hlt : i < q.sources.length := by
        simpa [aliases] using List.snd_lt_of_mem_zipIdx hi
      exact h ⟨i, hlt⟩
  rw [hall]
  constructor
  · intro h i k
    exact (root_components_eq_iff i k).1 ((h i).trans (h k).symm)
  · intro h i
    exact (root_components_eq_iff i ⟨0, i.pos⟩).2 (h i _)

/-! ## A connected query has enough joins -/

theorem exists_spanning_join (e : q.sourceGraph.edgeSet) :
    ∃ n : Fin q.joins.length, ∃ i k, q.Spans q.joins[n] i k ∧ e.1 = s(i, k) := by
  obtain ⟨e, he⟩ := e
  induction e with
  | h i k =>
    have hadj : q.sourceGraph.Adj i k := he
    obtain ⟨-, ⟨j, hj, hs⟩ | ⟨j, hj, hs⟩⟩ := (SimpleGraph.fromRel_adj _ _ _).1 hadj
    · obtain ⟨n, hn, rfl⟩ := List.getElem_of_mem hj
      exact ⟨⟨n, hn⟩, i, k, hs, rfl⟩
    · obtain ⟨n, hn, rfl⟩ := List.getElem_of_mem hj
      exact ⟨⟨n, hn⟩, k, i, hs, Sym2.eq_swap⟩

/-- A join spans at most one edge, so there are no more edges than joins. -/
theorem card_edgeSet_le (q : Query) : Nat.card q.sourceGraph.edgeSet ≤ q.joins.length := by
  -- Each edge picks a join that spans it, and no join is picked twice.
  choose f hf using @exists_spanning_join q
  have hinj : Function.Injective f := by
    intro e e' heq
    obtain ⟨i, k, hs, he⟩ := hf e
    obtain ⟨i', k', hs', he'⟩ := hf e'
    rw [heq] at hs
    refine Subtype.ext ?_
    rw [he, he', hs.1.unique hs'.1, hs.2.unique hs'.2]
  have hcard := Nat.card_le_card_of_injective f hinj
  rwa [Nat.card_fin] at hcard

theorem length_sources_le (h : q.sourceGraph.Connected) :
    q.sources.length ≤ q.joins.length + 1 := by
  have hv := h.card_vert_le_card_edgeSet_add_one
  rw [Nat.card_fin] at hv
  exact hv.trans (Nat.add_le_add_right (card_edgeSet_le q) 1)

end Query

namespace Validation

open Query

variable {q : Query}

theorem connected_iff_preconnected (h : 2 ≤ q.sources.length) :
    q.sourceGraph.Connected ↔ q.sourceGraph.Preconnected := by
  have hne : Nonempty (Fin q.sources.length) := ⟨⟨0, by omega⟩⟩
  exact ⟨fun hc => hc.preconnected, fun hp => ⟨hp⟩⟩

/-- The rule on joins is silent just when the sources hang together. -/
theorem sourcesJoined_eq_nil_iff (q : Query) :
    sourcesJoined q = [] ↔ q.sourceGraph.Preconnected := by
  by_cases hfew : q.sources.length < 2
  · have hsub : Subsingleton (Fin q.sources.length) :=
      ⟨fun i k => Fin.ext (by have := i.isLt; have := k.isLt; omega)⟩
    simp [sourcesJoined, hfew, SimpleGraph.Preconnected.of_subsingleton]
  · by_cases hcount : q.joins.length < q.sources.length - 1
    · -- The count is a shortcut: so few joins never connect all sources.
      have hnot : ¬ q.sourceGraph.Preconnected := by
        rw [← connected_iff_preconnected (by omega)]
        intro hc
        have := length_sources_le hc
        omega
      simp [sourcesJoined, hfew, hcount, hnot]
    · rw [← disconnected_eq_nil_iff]
      simp only [sourcesJoined, if_neg hfew, if_neg hcount]
      split
      · next hd => simp [hd]
      · next hd => simp [hd]

theorem length_sourcesJoined_le (q : Query) : (sourcesJoined q).length ≤ 1 := by
  simp only [sourcesJoined]
  split
  · simp
  · split
    · simp
    · split <;> simp

/-- A report asks for joins exactly once if the sources do not hang together and not at all if they
do. Too few joins never connect all sources, and one source or none needs no join. -/
theorem missing_joins_iff_not_connected (options : Options) (now : Timestamp) (q : Query) :
    (2 ≤ q.sources.length →
      (.missingJoins ∈ (validate options now q).codes ↔ ¬ q.sourceGraph.Connected) ∧
      (¬ q.sourceGraph.Connected → (validate options now q).codes.count .missingJoins = 1) ∧
      (q.joins.length < q.sources.length - 1 → ¬ q.sourceGraph.Connected)) ∧
    (q.sources.length < 2 → .missingJoins ∉ (validate options now q).codes) := by
  have hmem : .missingJoins ∈ (validate options now q).codes ↔ ¬ q.sourceGraph.Preconnected := by
    rw [mem_codes_iff, rule, ← sourcesJoined_eq_nil_iff]
  constructor
  · intro hn
    refine ⟨by rw [connected_iff_preconnected hn, hmem], fun hnot => ?_, fun hcount hc => ?_⟩
    · rw [connected_iff_preconnected hn, ← sourcesJoined_eq_nil_iff] at hnot
      have hpos := List.length_pos_iff.2 hnot
      have hle := length_sourcesJoined_le q
      rw [count_codes, rule]
      omega
    · have := length_sources_le hc
      omega
  · intro hn
    rw [hmem, not_not, ← sourcesJoined_eq_nil_iff]
    simp [sourcesJoined, hn]

/-- Two sources under one alias, where joins only reach the first of them. -/
def repeatedAlias : Query :=
  let a := Field.plain "a" "id" .number
  let b := Field.plain "b" "id" .number
  let unknown := Field.plain "z" "id" .number
  { Query.new "q" "repeated" ⟨0, 0⟩ with
    sources := [⟨"x", none, "a"⟩, ⟨"y", none, "a"⟩, ⟨"z", none, "b"⟩]
    joins := [⟨a, b, .inner⟩, ⟨b, b, .inner⟩, ⟨a, unknown, .inner⟩] }

theorem missing_joins_repeatedAlias :
    2 ≤ repeatedAlias.sources.length ∧ ¬ repeatedAlias.sourceGraph.Connected ∧
      (validate .default ⟨0, 0⟩ repeatedAlias).codes.count .missingJoins = 1 := by
  obtain ⟨hmem, hcount, -⟩ :=
    (missing_joins_iff_not_connected .default ⟨0, 0⟩ repeatedAlias).1 (by decide)
  have hnot := hmem.1 (by decide +kernel)
  exact ⟨by decide, hnot, hcount hnot⟩

end Validation

end CrossSource
