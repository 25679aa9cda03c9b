import CrossSource.Proofs.Defects
import CrossSource.Proofs.PartitionCells
/-!
# Sources that no join reaches

With enough joins in number, validation lists the aliases of the sources that are left out. These
are, in their order, the positions that no chain of joins connects with the first one
(`disconnected_eq`), among them every source whose alias an earlier one has
(`isIsolated_of_repeated`). The list is computed in cells that are all there
(`disconnectedInCells_eq`), and the message about it carries it as a whole
(`disconnected_lists_unreached`). A source that was just added stands alone in the graph, whatever
joins there are, so it is the last one of the list (`new_source_has_to_be_joined`).
-/

namespace CrossSource

namespace Query

variable {q : Query}

/-! ## Sources that stand alone -/

/-- A source stands alone if no side of a join has its alias. -/
theorem isIsolated_of_not_mentioned {k : Fin q.sources.length}
    (h : ∀ j ∈ q.joins, j.left.source ≠ q.aliasAt k ∧ j.right.source ≠ q.aliasAt k) :
    q.sourceGraph.IsIsolated k := by
  intro m hadj
  obtain ⟨-, ⟨j, hj, hs⟩ | ⟨j, hj, hs⟩⟩ := (SimpleGraph.fromRel_adj _ _ _).1 hadj
  · exact (h j hj).1 hs.1.1.symm
  · exact (h j hj).2 hs.2.1.symm

/-! ## The sources left out -/

theorem zipIdx_aliases (q : Query) :
    q.aliases.zipIdx = (List.finRange q.sources.length).map fun i => (q.aliasAt i, i.val) :=
  List.ext_getElem (by simp [aliases]) fun n hn hn' => by simp [aliases, aliasAt]

/-- Whether joins connect two positions shows in the classes. -/
instance decidableReachable : DecidableRel q.sourceGraph.Reachable := fun i j =>
  decidable_of_iff _ (root_components_eq_iff i j)

/-- The aliases listed are those of the positions that are not connected with the first one. -/
theorem disconnected_eq (q : Query) (h : 0 < q.sources.length) :
    q.disconnected = ((List.finRange q.sources.length).filter fun i =>
      ¬ q.sourceGraph.Reachable ⟨0, h⟩ i).map q.aliasAt := by
  have hroot : ∀ i : Fin q.sources.length, q.components.root i ≠ q.components.root 0 ↔
      ¬ q.sourceGraph.Reachable ⟨0, h⟩ i := by
    intro i
    rw [← root_components_eq_iff ⟨0, h⟩ i, ne_comm]
  simp only [disconnected, zipIdx_aliases, List.filter_map, List.map_map, Function.comp_def, hroot]

/-- The sources left out, with every position looked up in the cells of a partition: the joins are
united one after the other, then the root of each position is searched for in what the search
before has left. -/
def disconnectedInCells (q : Query) : Option (List String) := do
  let p ← (Partition.discrete q.sources.length).unionAllInCells q.pairs
  let (p, root) ← p.findInCells 0
  Partition.apartInCells root p q.aliases.zipIdx

/-- No position is looked up that has no cell, and every search comes to an end. -/
theorem disconnectedInCells_eq (h : 0 < q.sources.length) :
    q.disconnectedInCells = some q.disconnected := by
  obtain ⟨hf, hsize, hunion⟩ :=
    (Partition.forest_discrete q.sources.length).unionAll_spec q.pairs fun _ => pairs_lt_size
  rw [← components_eq_unionAll, Partition.size_discrete] at hsize
  rw [← components_eq_unionAll] at hf hunion
  have hfirst : 0 < q.components.size := by rwa [hsize]
  obtain ⟨hf', hsize', -⟩ := hf.find_spec hfirst
  have hbelow : ∀ a ∈ q.aliases.zipIdx, a.2 < (q.components.find 0).1.size := by
    intro a ha
    have hlt := List.snd_lt_of_mem_zipIdx ha
    rwa [hsize', hsize, ← length_aliases]
  simp only [disconnectedInCells, hunion, Option.bind_eq_bind, Option.bind_some,
    hf.findInCells_eq hfirst, hf'.apartInCells_eq _ _ hbelow, hf.root_find hfirst]
  rfl

/-! ## A source that was just added -/

theorem length_sources_addSource (q : Query) (sourceId : String) (table : Option String) :
    (q.addSource sourceId table).sources.length = q.sources.length + 1 := by
  simp [addSource]

/-- A new source stands alone, since no join has its alias; had an earlier source its alias, it
would stand alone for that. -/
theorem isIsolated_addSource
    (hknown : ∀ j ∈ q.joins, j.left.source ∈ q.aliases ∧ j.right.source ∈ q.aliases)
    (sourceId : String) (table : Option String)
    {k : Fin (q.addSource sourceId table).sources.length} (hk : k.val = q.sources.length) :
    (q.addSource sourceId table).sourceGraph.IsIsolated k := by
  have haliases := q.length_aliases
  have hlast : (q.addSource sourceId table).aliasAt k = aliasOf q.nextOrdinal := by
    rw [← Option.some_inj, ← getElem?_aliases, aliases_addSource, hk, ← haliases,
      List.getElem?_concat_length]
  by_cases hmem : aliasOf q.nextOrdinal ∈ q.aliases
  · obtain ⟨i, hi, heq⟩ := List.getElem_of_mem hmem
    refine isIsolated_of_repeated (i := ⟨i, by omega⟩) (Fin.mk_lt_of_lt_val (by omega)) ?_
    rw [hlast, ← Option.some_inj, ← getElem?_aliases, aliases_addSource,
      List.getElem?_append_left hi, List.getElem?_eq_getElem hi, heq]
  · refine isIsolated_of_not_mentioned fun j hj => ?_
    obtain ⟨hl, hr⟩ := hknown j hj
    rw [hlast]
    exact ⟨ne_of_mem_of_not_mem hl hmem, ne_of_mem_of_not_mem hr hmem⟩

/-- The last of the sources left out is the new one. -/
theorem disconnected_addSource (hsome : q.sources ≠ [])
    (hknown : ∀ j ∈ q.joins, j.left.source ∈ q.aliases ∧ j.right.source ∈ q.aliases)
    (sourceId : String) (table : Option String) :
    ∃ others, (q.addSource sourceId table).disconnected = others ++ [aliasOf q.nextOrdinal] := by
  have hlen := q.length_sources_addSource sourceId table
  have hpos : 0 < q.sources.length := List.length_pos_iff.2 hsome
  have halone := isIsolated_addSource hknown sourceId table
    (k := ⟨q.sources.length, by omega⟩) rfl
  have hroot : (q.addSource sourceId table).components.root q.sources.length ≠
      (q.addSource sourceId table).components.root 0 := by
    intro heq
    refine not_reachable_of_isIsolated halone (i := ⟨0, by omega⟩) ?_
      ((root_components_eq_iff _ _).1 heq.symm)
    exact Fin.ne_of_val_ne hpos.ne
  rw [disconnected, aliases_addSource, List.zipIdx_append, List.filter_append, List.map_append,
    length_aliases, Nat.zero_add]
  exact ⟨_, congrArg _ (by simp [hroot])⟩

end Query

namespace Validation

open Query Document

variable {q : Query}

/-! ## What the report says -/

/-- With enough joins the rule is about the sources left out, and there is one message about all of
them. -/
theorem exists_message_of_disconnected (options : Options) (now : Timestamp)
    (hsources : 2 ≤ q.sources.length) (hjoins : q.sources.length - 1 ≤ q.joins.length)
    {first : String} {rest : List String} (h : q.disconnected = first :: rest) :
    ∃ m, (validate options now q).messages.filter (fun m => m.code = .missingJoins) = [m] ∧
      m.source = some first ∧
      m.member? "disconnected" = some (.arr (q.disconnected.map .str)) := by
  have hrule : sourcesJoined q =
      [notJoined q.sources.length q.joins.length first rest] := by
    simp only [sourcesJoined, if_neg (Nat.not_lt.2 hsources), if_neg (Nat.not_lt.2 hjoins), h]
  refine ⟨_, (filter_code options q .missingJoins).trans hrule, rfl, ?_⟩
  simp [notJoined, member?_withContext, h]

/-- The list of sources left out is exact: with two sources or more and joins enough, it has the
aliases of the positions that no chain of joins connects with the first one, in their order. Sources
under a repeated alias are always among them. The list is the one computed in cells, none of which
is missing, and a report gives it as a whole, under the alias that is first in it. -/
theorem disconnected_lists_unreached (options : Options) (now : Timestamp) (q : Query)
    (hsources : 2 ≤ q.sources.length) (hjoins : q.sources.length - 1 ≤ q.joins.length) :
    (q.disconnected = ((List.finRange q.sources.length).filter fun i =>
      ¬ q.sourceGraph.Reachable ⟨0, Nat.zero_lt_of_lt hsources⟩ i).map q.aliasAt) ∧
    (∀ i k : Fin q.sources.length, i < k → q.aliasAt i = q.aliasAt k →
      ¬ q.sourceGraph.Reachable ⟨0, Nat.zero_lt_of_lt hsources⟩ k) ∧
    q.disconnectedInCells = some q.disconnected ∧
    (q.disconnected = [] → .missingJoins ∉ (validate options now q).codes) ∧
    ∀ first rest, q.disconnected = first :: rest →
      ∃ m, (validate options now q).messages.filter (fun m => m.code = .missingJoins) = [m] ∧
        m.source = some first ∧
        m.member? "disconnected" = some (.arr (q.disconnected.map .str)) := by
  have hpos : 0 < q.sources.length := Nat.zero_lt_of_lt hsources
  refine ⟨disconnected_eq q hpos, fun i k hik heq => ?_, disconnectedInCells_eq hpos,
    fun hnone => ?_, fun first rest => exists_message_of_disconnected options now hsources hjoins⟩
  · refine not_reachable_of_isIsolated (isIsolated_of_repeated hik heq) (Fin.ne_of_val_ne ?_)
    exact ((Nat.zero_le i.val).trans_lt hik).ne
  · rw [mem_codes_iff, rule, not_not, sourcesJoined_eq_nil_iff, ← disconnected_eq_nil_iff]
    exact hnone

/-- Joins enough, but none reaches the second source of a repeated alias, and one leads to a source
that the query does not have. -/
def straggling : Query :=
  let a := Field.plain "a" "id" .number
  let b := Field.plain "b" "id" .number
  let c := Field.plain "c" "id" .number
  let z := Field.plain "z" "id" .number
  { Query.new "q" "straggling" ⟨0, 0⟩ with
    sources := [⟨"w", none, "b"⟩, ⟨"x", none, "a"⟩, ⟨"y", none, "a"⟩, ⟨"z", none, "c"⟩]
    joins := [⟨a, b, .inner⟩, ⟨b, a, .left⟩, ⟨c, z, .inner⟩] }

theorem disconnected_lists_unreached_straggling :
    2 ≤ straggling.sources.length ∧ straggling.sources.length - 1 ≤ straggling.joins.length ∧
      straggling.disconnectedInCells = some ["a", "c"] ∧
      ∃ m, (validate .default ⟨0, 0⟩ straggling).messages.filter
          (fun m => m.code = .missingJoins) = [m] ∧
        m.source = some "a" ∧ m.member? "disconnected" = some (.arr [.str "a", .str "c"]) := by
  have hlist : straggling.disconnected = ["a", "c"] := by decide +kernel
  obtain ⟨-, -, hcells, -, hmessage⟩ :=
    disconnected_lists_unreached .default ⟨0, 0⟩ straggling (by decide) (by decide)
  have hm := hmessage _ _ hlist
  rw [hlist] at hcells hm
  exact ⟨by decide, by decide, hcells, hm⟩

/-- A query to which a source was added asks for joins, as long as all its joins were between
sources that it had, however many there are. If there are joins enough in number, the report lists
the new alias as the last of those left out. How the alias was chosen makes no difference. -/
theorem new_source_has_to_be_joined (options : Options) (now : Timestamp) (q : Query)
    (sourceId : String) (table : Option String) (hsome : q.sources ≠ [])
    (hknown : ∀ j ∈ q.joins, j.left.source ∈ q.aliases ∧ j.right.source ∈ q.aliases) :
    .missingJoins ∈ (validate options now (q.addSource sourceId table)).codes ∧
    (validate options now (q.addSource sourceId table)).isValid = false ∧
    ∃ added, (q.addSource sourceId table).aliases = q.aliases ++ [added] ∧
      (q.sources.length ≤ q.joins.length →
        ∃ m ∈ (validate options now (q.addSource sourceId table)).messages,
          m.code = .missingJoins ∧
          ∃ others, m.member? "disconnected" = some (.arr ((others ++ [added]).map .str))) := by
  obtain ⟨others, hlist⟩ := disconnected_addSource hsome hknown sourceId table
  have hmissing : rule options (q.addSource sourceId table) .missingJoins ≠ [] := by
    rw [rule, ne_eq, sourcesJoined_eq_nil_iff, ← disconnected_eq_nil_iff, hlist]
    simp
  refine ⟨(mem_codes_iff options now _ _).2 hmissing, ?_, _, aliases_addSource q sourceId table,
    fun hjoins => ?_⟩
  · rw [Bool.eq_false_iff, ne_eq, isValid_iff]
    exact fun h => hmissing (h .missingJoins rfl)
  · have hlen := q.length_sources_addSource sourceId table
    have hpos : 0 < q.sources.length := List.length_pos_iff.2 hsome
    obtain ⟨first, rest, hcons⟩ := List.exists_cons_of_ne_nil
      (l := others ++ [aliasOf q.nextOrdinal]) (by simp)
    obtain ⟨m, hm, -, hmember⟩ := exists_message_of_disconnected options now
      (q := q.addSource sourceId table) (by omega)
      (show (q.addSource sourceId table).sources.length - 1 ≤ q.joins.length by omega)
      (hlist.trans hcons)
    have hmem : m ∈ (validate options now (q.addSource sourceId table)).messages.filter
        (fun m => m.code = .missingJoins) := by
      rw [hm]
      exact List.mem_singleton_self m
    obtain ⟨hmem, hcode⟩ := List.mem_filter.1 hmem
    exact ⟨m, hmem, of_decide_eq_true hcode, others, by rw [hmember, hlist]⟩

/-- Two sources with more joins than they need, and a counter that is used up. -/
def overjoined : Query :=
  let first := Field.plain "s1" "id" .number
  let last := Field.plain "s18446744073709551615" "id" .number
  { Query.new "q" "overjoined" ⟨0, 0⟩ with
    sources := [⟨"a", none, "s1"⟩, ⟨"b", none, "s18446744073709551615"⟩]
    selectedFields := [first, last]
    joins := [⟨first, last, .inner⟩, ⟨last, first, .left⟩, ⟨first, last, .full⟩]
    nextAlias := 18446744073709551615 }

theorem new_source_has_to_be_joined_overjoined :
    (∀ j ∈ overjoined.joins,
        j.left.source ∈ overjoined.aliases ∧ j.right.source ∈ overjoined.aliases) ∧
      (validate .default ⟨0, 0⟩ overjoined).isValid = true ∧
      (validate .default ⟨0, 0⟩ (overjoined.addSource "c" none)).isValid = false ∧
      ∃ m ∈ (validate .default ⟨0, 0⟩ (overjoined.addSource "c" none)).messages,
        m.code = .missingJoins ∧
        ∃ others, m.member? "disconnected" = some (.arr ((others ++ ["s2"]).map .str)) := by
  have hknown : ∀ j ∈ overjoined.joins,
      j.left.source ∈ overjoined.aliases ∧ j.right.source ∈ overjoined.aliases := by decide
  obtain ⟨-, hinvalid, added, haliases, hmessage⟩ :=
    new_source_has_to_be_joined .default ⟨0, 0⟩ overjoined "c" none (by decide) hknown
  have hadded : added = "s2" := by
    have hnow : (overjoined.addSource "c" none).aliases = overjoined.aliases ++ ["s2"] := by
      decide +kernel
    simpa [hnow] using haliases.symm
  rw [hadded] at hmessage
  exact ⟨hknown, by decide +kernel, hinvalid, hmessage (by decide)⟩

end Validation

end CrossSource
