import CrossSource.Proofs.References
/-!
# Validation does not see the order of lists

How many messages a rule has depends on what the lists of a query hold, not on where. For the joins
this takes the meaning of the classes that validation builds: other orders give other forests, but
the sources hang together in one order just when they do in any (`Reordered.preconnected_iff`).
Hence a report has the same codes whatever order the lists are in (`verdict_ignores_order`).
-/

namespace CrossSource

namespace Query

variable {q q' : Query}

/-- The lists of `q'` are those of `q` in any other orders. Of two selected fields with the same
source and name the first one counts, so the selected fields are in another order only where there
are no two such fields. Nothing is asked of what else the queries hold. -/
structure Reordered (q q' : Query) : Prop where
  sources : q.sources.Perm q'.sources
  selectedFields : q.selectedFields = q'.selectedFields ∨
    (q.selectedFields.map fun f => (f.source, f.name)).Nodup ∧
      q.selectedFields.Perm q'.selectedFields
  joins : q.joins.Perm q'.joins
  filters : q.filters.Perm q'.filters
  groupBy : q.groupBy.Perm q'.groupBy
  having : q.having.Perm q'.having
  orderBy : q.orderBy.Perm q'.orderBy
  aggregates : q.aggregates.Perm q'.aggregates

namespace Reordered

theorem aliases (h : Reordered q q') : q.aliases.Perm q'.aliases := h.sources.map _

theorem selectedFields_perm (h : Reordered q q') : q.selectedFields.Perm q'.selectedFields := by
  rcases h.selectedFields with heq | ⟨-, hp⟩
  · rw [heq]
  · exact hp

end Reordered

/-! ## Selected fields -/

/-- Where sources and names differ, a field is found just when it is selected and matches. -/
theorem findSelected_eq_some_iff_of_nodup
    (hn : (q.selectedFields.map fun f => (f.source, f.name)).Nodup) {f g : Field} :
    q.findSelected f = some g ↔ g ∈ q.selectedFields ∧ g.sameReference f = true := by
  constructor
  · intro h
    exact ⟨List.mem_of_find?_eq_some h, List.find?_some (p := fun g : Field => g.sameReference f) h⟩
  · rintro ⟨hg, hsame⟩
    obtain ⟨g', hg'⟩ : ∃ g', q.findSelected f = some g' :=
      Option.isSome_iff_exists.1 (List.find?_isSome.2 ⟨g, hg, hsame⟩)
    have hmem := List.mem_of_find?_eq_some hg'
    have hsame' := List.find?_some (p := fun g : Field => g.sameReference f) hg'
    simp only [Field.sameReference, Bool.and_eq_true, decide_eq_true_eq] at hsame hsame'
    have hkey : (g'.source, g'.name) = (g.source, g.name) := by
      rw [hsame.1, hsame.2, hsame'.1, hsame'.2]
    rw [hg', List.inj_on_of_nodup_map hn hmem hg hkey]

theorem Reordered.findSelected_eq (h : Reordered q q') (f : Field) :
    q'.findSelected f = q.findSelected f := by
  rcases h.selectedFields with heq | ⟨hn, hp⟩
  · rw [findSelected, findSelected, heq]
  · have hn' := (hp.map fun f => (f.source, f.name)).nodup_iff.1 hn
    refine Option.ext fun g => ?_
    rw [findSelected_eq_some_iff_of_nodup hn', findSelected_eq_some_iff_of_nodup hn, hp.mem_iff]

/-! ## Connected sources -/

theorem not_reachable_of_isIsolated {i k : Fin q.sources.length} (h : q.sourceGraph.IsIsolated k)
    (hne : i ≠ k) : ¬ q.sourceGraph.Reachable i k := by
  intro hreach
  obtain ⟨w⟩ := hreach.symm
  cases w with
  | nil => exact hne rfl
  | cons hadj _ => exact h _ hadj

/-- No join reaches a source whose alias an earlier one has. -/
theorem isIsolated_of_repeated {i k : Fin q.sources.length} (hik : i < k)
    (heq : q.aliasAt i = q.aliasAt k) : q.sourceGraph.IsIsolated k := by
  intro m hadj
  have hnot : ∀ {a}, ¬ q.FirstAt a k := fun hfirst => hfirst.2 i hik (heq.trans hfirst.1)
  obtain ⟨-, ⟨j, -, hs⟩ | ⟨j, -, hs⟩⟩ := (SimpleGraph.fromRel_adj _ _ _).1 hadj
  · exact hnot hs.1
  · exact hnot hs.2

/-- Sources under one alias never hang together. -/
theorem nodup_of_preconnected (h : q.sourceGraph.Preconnected) : q.aliases.Nodup := by
  by_contra hdup
  rw [List.nodup_iff_getElem?_ne_getElem?] at hdup
  push Not at hdup
  obtain ⟨i, k, hik, hk, heq⟩ := hdup
  have hlen := q.length_aliases
  rw [List.getElem?_eq_getElem (hik.trans hk), List.getElem?_eq_getElem hk,
    Option.some.injEq] at heq
  have hsame : q.aliasAt ⟨i, by omega⟩ = q.aliasAt ⟨k, by omega⟩ := by
    simpa [aliases, aliasAt] using heq
  have hlt : (⟨i, by omega⟩ : Fin q.sources.length) < ⟨k, by omega⟩ := Fin.mk_lt_mk.2 hik
  -- The later of the two sources has no neighbour, so no way leads from the earlier one to it.
  exact not_reachable_of_isIsolated (isIsolated_of_repeated hlt hsame) hlt.ne (h _ _)

/-- Where aliases differ, the graph of aliases decides, and it knows no order. -/
theorem Reordered.preconnected_iff (h : Reordered q q') :
    q.sourceGraph.Preconnected ↔ q'.sourceGraph.Preconnected := by
  by_cases hn : q.aliases.Nodup
  · have hiso : q.aliasGraph ≃g q'.aliasGraph :=
      { toEquiv := Equiv.subtypeEquivRight fun a => h.aliases.mem_iff
        map_rel_iff' := by
          intro a b
          simp [aliasGraph, h.joins.mem_iff, Subtype.ext_iff] }
    rw [preconnected_sourceGraph_iff hn, preconnected_sourceGraph_iff (h.aliases.nodup_iff.1 hn)]
    exact hiso.preconnected_iff
  · have hn' : ¬ q'.aliases.Nodup := fun hq' => hn (h.aliases.nodup_iff.2 hq')
    exact ⟨fun hc => absurd (nodup_of_preconnected hc) hn,
      fun hc => absurd (nodup_of_preconnected hc) hn'⟩

/-! ## References -/

theorem Reordered.references (h : Reordered q q') :
    (q.references.map Prod.snd).Perm (q'.references.map Prod.snd) := by
  rw [map_snd_references, map_snd_references]
  exact ((((((h.selectedFields_perm.append (h.joins.flatMap_right _)).append
    (h.filters.map _)).append h.groupBy).append (h.having.map _)).append
    (h.orderBy.map _)).append (h.aggregates.map _))

end Query

namespace Validation

open Query

variable {q q' : Query}

/-! ## How much a rule has to say -/

/-- A rule that says of each element what does not depend on its position. -/
theorem length_flatMap_zipIdx {α β : Type} {as : List α} {f : α × Nat → List β} {g : α → Nat}
    (h : ∀ a n, (f (a, n)).length = g a) : (as.zipIdx.flatMap f).length = (as.map g).sum := by
  rw [List.length_flatMap]
  conv_rhs => rw [← List.zipIdx_map_fst 0 as, List.map_map]
  exact congrArg List.sum (List.map_congr_left fun a _ => h a.1 a.2)

theorem length_joinsResolve (q : Query) : (joinsResolve q).length = (q.joins.map fun j =>
    (if (q.findSelected j.left).isNone then 1 else 0) +
      (if (q.findSelected j.right).isNone then 1 else 0) +
      (if j.left.source = j.right.source then 1 else 0)).sum := by
  refine length_flatMap_zipIdx fun j n => ?_
  simp only [sideSelected, sidesApart, List.length_append, apply_ite List.length,
    List.length_singleton, List.length_nil]

theorem length_joinsCompatible (q : Query) :
    (joinsCompatible q).length = (q.joins.map fun j => (joinTypes q 0 j).length).sum := by
  refine length_flatMap_zipIdx fun j n => ?_
  simp only [joinTypes]
  split
  · split <;> rfl
  · rfl

theorem length_operatorsAllowed (q : Query) :
    (operatorsAllowed q).length = (q.filters.map fun f => (operatorAllowed 0 f).length).sum := by
  refine length_flatMap_zipIdx fun f n => ?_
  simp only [operatorAllowed]
  split
  · rfl
  · split <;> rfl

theorem length_sourcesKnown (q : Query) : (sourcesKnown q).length = if q.sources.isEmpty then 0 else
    ((q.references.map Prod.snd).map fun f => if f.source ∈ q.aliases then 0 else 1).sum := by
  simp only [sourcesKnown, apply_ite List.length, List.length_nil, List.length_flatMap,
    List.length_singleton, List.map_map, Function.comp_def]

/-- Each alias that is new to the sources before it leaves one message out. -/
theorem length_aliasesDiffer_add (q : Query) :
    (aliasesDiffer q).length + q.aliases.toFinset.card = q.aliases.length := by
  have hform : aliasesDiffer q = q.aliases.zipIdx.flatMap fun x =>
      if x.1 ∈ q.aliases.take x.2 then [aliasRepeated x.2 x.1] else [] := rfl
  rw [hform]
  induction q.aliases using List.reverseRecOn with
  | nil => rfl
  | append_singleton as a ih =>
    -- What is said of the aliases before the last one does not depend on it.
    have hbefore : (as.zipIdx.flatMap fun x : String × Nat =>
        if x.1 ∈ (as ++ [a]).take x.2 then [aliasRepeated x.2 x.1] else []) =
        as.zipIdx.flatMap fun x => if x.1 ∈ as.take x.2 then [aliasRepeated x.2 x.1] else [] := by
      refine List.flatMap_congr fun x hx => ?_
      have hlt := List.snd_lt_of_mem_zipIdx hx
      rw [List.take_append_of_le_length (by omega)]
    have hlast : (([a].zipIdx (0 + as.length)).flatMap fun x : String × Nat =>
        if x.1 ∈ (as ++ [a]).take x.2 then [aliasRepeated x.2 x.1] else []).length =
        if a ∈ as then 1 else 0 := by
      simp [apply_ite List.length]
    have hset : (as ++ [a]).toFinset = insert a as.toFinset := by
      ext x
      simp
    rw [List.zipIdx_append, List.flatMap_append, List.length_append, hbefore, hlast, hset,
      List.length_append, List.length_singleton]
    by_cases ha : a ∈ as
    · rw [if_pos ha, Finset.insert_eq_of_mem (List.mem_toFinset.2 ha)]
      omega
    · rw [if_neg ha, Finset.card_insert_of_notMem (by simpa using ha)]
      omega

/-- The messages of a rule keep their number if lists change their order. -/
theorem length_rule_of_reordered (options : Options) (h : Reordered q q') (c : Code) :
    (rule options q c).length = (rule options q' c).length := by
  have hselected := h.selectedFields_perm.length_eq
  cases c with
  | noSources => simp only [rule, sourcesPresent, List.isEmpty_iff_length_eq_zero, h.sources.length_eq]
  | noFields => simp only [rule, fieldsPresent, List.isEmpty_iff_length_eq_zero, hselected]
  | missingJoins =>
    -- There is one message at most, so it is enough to know when there is none.
    have hnil := (sourcesJoined_eq_nil_iff q).trans
      (h.preconnected_iff.trans (sourcesJoined_eq_nil_iff q').symm)
    have hle := length_sourcesJoined_le q
    have hle' := length_sourcesJoined_le q'
    rw [← List.length_eq_zero_iff, ← List.length_eq_zero_iff] at hnil
    simp only [rule]
    omega
  | invalidJoin =>
    rw [rule, rule, length_joinsResolve, length_joinsResolve]
    simp only [h.findSelected_eq]
    exact (h.joins.map _).sum_eq
  | incompatibleTypes =>
    rw [rule, rule, length_joinsCompatible, length_joinsCompatible]
    simp only [joinTypes, h.findSelected_eq]
    exact (h.joins.map _).sum_eq
  | invalidOperator =>
    rw [rule, rule, length_operatorsAllowed, length_operatorsAllowed]
    exact (h.filters.map _).sum_eq
  | performanceWarning =>
    simp only [rule, costs, hselected, List.isEmpty_iff_length_eq_zero, Bool.and_eq_true,
      h.filters.length_eq, List.length_append, apply_ite List.length, manyFields]
  | duplicateAlias =>
    have hset := List.toFinset_eq_of_perm _ _ h.aliases
    have hlen := length_aliasesDiffer_add q
    have hlen' := length_aliasesDiffer_add q'
    rw [hset, h.aliases.length_eq, ← hlen'] at hlen
    exact Nat.add_right_cancel hlen
  | unknownSource =>
    rw [rule, rule, length_sourcesKnown, length_sourcesKnown]
    simp only [h.aliases.mem_iff, List.isEmpty_iff_length_eq_zero, h.sources.length_eq]
    rw [(h.references.map _).sum_eq]

/-! ## The verdict -/

/-- A report has each code as often as its rule has something to say. -/
theorem codes_eq (options : Options) (now : Timestamp) (q : Query) :
    (validate options now q).codes =
      Code.inOrder.flatMap fun c => List.replicate (rule options q c).length c := by
  have hcodes : (validate options now q).codes = (messages options q).map Message.code := rfl
  rw [hcodes, messages_eq_flatMap_rule, List.map_flatMap]
  refine List.flatMap_congr fun c _ => ?_
  exact List.map_eq_replicate_iff.2 fun m hm => (under_rule options q c m hm).1

/-- Queries whose lists differ in order only get the same codes, in the same order, and are valid
both or neither. -/
theorem verdict_ignores_order (options : Options) (now now' : Timestamp) (h : Reordered q q') :
    (validate options now' q').codes = (validate options now q).codes ∧
      (validate options now' q').isValid = (validate options now q).isValid := by
  have hlen := length_rule_of_reordered options h
  constructor
  · rw [codes_eq, codes_eq]
    simp only [hlen]
  · rw [Bool.eq_iff_iff, isValid_iff, isValid_iff]
    refine forall₂_congr fun c _ => ?_
    rw [← List.length_eq_zero_iff, ← List.length_eq_zero_iff, hlen]

/-- Two sources under one alias, a join of a source with itself and one that leads nowhere. -/
def tangled : Query :=
  let a := Field.plain "a" "id" .number
  let b := Field.plain "b" "id" .string
  let z := Field.plain "z" "id" .number
  { Query.new "q" "tangled" ⟨0, 0⟩ with
    sources := [⟨"x", none, "a"⟩, ⟨"y", none, "b"⟩, ⟨"z", none, "a"⟩]
    selectedFields := [a, b]
    joins := [⟨a, b, .inner⟩, ⟨b, b, .left⟩, ⟨z, a, .full⟩]
    filters := [⟨a, .contains, .null, none⟩, ⟨b, .equals, .null, none⟩]
    orderBy := [⟨z, .ascending⟩, ⟨a, .descending⟩] }

/-- The same lists from their ends. -/
def tangledReversed : Query :=
  { tangled with
    sources := tangled.sources.reverse
    selectedFields := tangled.selectedFields.reverse
    joins := tangled.joins.reverse
    filters := tangled.filters.reverse
    orderBy := tangled.orderBy.reverse }

theorem verdict_ignores_order_tangled :
    Reordered tangled tangledReversed ∧
      (validate .default ⟨0, 0⟩ tangledReversed).codes = [.missingJoins, .invalidJoin, .invalidJoin,
        .incompatibleTypes, .invalidOperator, .duplicateAlias, .unknownSource, .unknownSource] ∧
      (validate .default ⟨0, 0⟩ tangledReversed).isValid = false := by
  have h : Reordered tangled tangledReversed :=
    { sources := (List.reverse_perm _).symm
      selectedFields := .inr ⟨by decide, (List.reverse_perm _).symm⟩
      joins := (List.reverse_perm _).symm
      filters := (List.reverse_perm _).symm
      groupBy := .refl _
      having := .refl _
      orderBy := (List.reverse_perm _).symm
      aggregates := .refl _ }
  obtain ⟨hcodes, hvalid⟩ := verdict_ignores_order .default ⟨0, 0⟩ ⟨0, 0⟩ h
  exact ⟨h, hcodes.trans (by decide +kernel), hvalid.trans (by decide +kernel)⟩

end Validation

end CrossSource
