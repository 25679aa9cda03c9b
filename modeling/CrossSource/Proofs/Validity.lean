import CrossSource.Proofs.Connectivity
/-!
# A query is valid when it is well formed

`WellFormed` says what a query has to be like without a word about messages, counts or the order of
rules: it has content, its aliases differ, chains of joins connect every source with every other
one, both sides of a join are selected, belong to different sources and go together, and each filter
compares as its type allows. Validation finds no error in exactly these queries
(`isValid_iff_wellFormed`), under any options.
-/

namespace CrossSource

namespace Query

variable {q : Query}

/-! ## Well-formed queries -/

/-- The aliases of the sources, with an edge between those that a join names. -/
def aliasGraph (q : Query) : SimpleGraph {a : String // a ∈ q.aliases} :=
  .fromRel fun a b => ∃ j ∈ q.joins, j.left.source = a.1 ∧ j.right.source = b.1

/-- The first selected field with the source and the name of `f`. -/
def FirstSelected (q : Query) (f g : Field) : Prop :=
  ∃ before after, q.selectedFields = before ++ g :: after ∧
    (g.source = f.source ∧ g.name = f.name) ∧
    ∀ h ∈ before, ¬ (h.source = f.source ∧ h.name = f.name)

/-- Equal types go together, and so do any two of numbers and decimals. -/
def TypesFit (s t : FieldType) : Prop :=
  s = t ∨ (s = .number ∨ s = .decimal) ∧ (t = .number ∨ t = .decimal)

/-- Both sides are selected, from different sources and with types that go together. -/
structure JoinFits (q : Query) (j : Join) : Prop where
  apart : j.left.source ≠ j.right.source
  selected : ∃ l r, q.FirstSelected j.left l ∧ q.FirstSelected j.right r ∧ TypesFit l.type r.type

/-- The operators that make sense for a type. -/
inductive Allows : FieldType → Operator → Prop
  | equals (t : FieldType) : Allows t .equals
  | notEquals (t : FieldType) : Allows t .notEquals
  | contains : Allows .string .contains
  | isIn : Allows .string .isIn
  | ordered {t : FieldType} {o : Operator} : t ∈ [.number, .decimal, .date] →
      o ∈ [.greaterThan, .lessThan, .between] → Allows t o
  | unchecked (name : String) (o : Operator) : Allows (.other name) o

structure WellFormed (q : Query) : Prop where
  hasSource : q.sources ≠ []
  hasField : q.selectedFields ≠ []
  aliasesDiffer : q.aliases.Nodup
  connected : q.aliasGraph.Preconnected
  joinsFit : ∀ j ∈ q.joins, q.JoinFits j
  filtersFit : ∀ f ∈ q.filters, Allows f.field.type f.operator

/-! ## Aliases in place of positions -/

theorem firstAt_iff (h : q.aliases.Nodup) {a : String} {i : Fin q.sources.length} :
    q.FirstAt a i ↔ q.aliasAt i = a := by
  constructor
  · exact fun hi => hi.1
  · intro hi
    refine ⟨hi, fun k hk heq => ?_⟩
    have hlen := q.length_aliases
    have hget : q.aliases.get ⟨k, by omega⟩ = q.aliases.get ⟨i, by omega⟩ := by
      simpa [aliases, aliasAt] using heq.trans hi.symm
    have hki := congrArg Fin.val (h.injective_get hget)
    simp only at hki
    omega

/-- The alias at a position, as a vertex of the graph of aliases. -/
def vertexAt (q : Query) (i : Fin q.sources.length) : {a : String // a ∈ q.aliases} :=
  ⟨q.aliasAt i, List.mem_map_of_mem (List.get_mem _ _)⟩

theorem vertexAt_bijective (h : q.aliases.Nodup) : Function.Bijective q.vertexAt := by
  constructor
  · intro i k heq
    have hk : q.FirstAt (q.aliasAt k) k := (firstAt_iff h).2 rfl
    have hi : q.FirstAt (q.aliasAt k) i := (firstAt_iff h).2 (congrArg Subtype.val heq)
    exact hi.unique hk
  · rintro ⟨a, ha⟩
    obtain ⟨s, hs, rfl⟩ := List.mem_map.1 ha
    obtain ⟨n, hn, rfl⟩ := List.getElem_of_mem hs
    exact ⟨⟨n, hn⟩, rfl⟩

/-- Where aliases differ, the graph of positions is that of aliases. -/
theorem preconnected_sourceGraph_iff (h : q.aliases.Nodup) :
    q.sourceGraph.Preconnected ↔ q.aliasGraph.Preconnected := by
  have hspans : ∀ (j : Join) (i k : Fin q.sources.length), q.Spans j i k ↔
      j.left.source = (q.vertexAt i).1 ∧ j.right.source = (q.vertexAt k).1 := by
    intro j i k
    rw [Spans, firstAt_iff h, firstAt_iff h]
    exact and_congr eq_comm eq_comm
  have hiso : q.sourceGraph ≃g q.aliasGraph :=
    { toEquiv := Equiv.ofBijective _ (vertexAt_bijective h)
      map_rel_iff' := by
        intro i k
        simp only [sourceGraph, aliasGraph, SimpleGraph.fromRel_adj, hspans,
          Equiv.ofBijective_apply, ne_eq, (vertexAt_bijective h).1.eq_iff] }
  exact hiso.preconnected_iff

theorem findSelected_eq_some_iff {f g : Field} :
    q.findSelected f = some g ↔ q.FirstSelected f g := by
  simp only [findSelected, FirstSelected, List.find?_eq_some_iff_append, Field.sameReference,
    Bool.and_eq_true, decide_eq_true_eq, Bool.not_eq_true', Bool.and_eq_false_iff,
    decide_eq_false_iff_not, not_and_or]
  constructor
  · rintro ⟨hg, before, after, heq, hb⟩
    exact ⟨before, after, heq, hg, hb⟩
  · rintro ⟨before, after, heq, hg, hb⟩
    exact ⟨hg, before, after, heq, hb⟩

theorem joinable_iff {s t : FieldType} : s.joinable t = true ↔ TypesFit s t := by
  have hnum : ∀ u : FieldType, u.isNumeric = true ↔ u = .number ∨ u = .decimal := by
    intro u
    cases u <;> simp [FieldType.isNumeric]
  simp only [FieldType.joinable, TypesFit, Bool.or_eq_true, Bool.and_eq_true, decide_eq_true_eq,
    hnum]

theorem allows_iff {t : FieldType} {o : Operator} :
    Allows t o ↔ ∀ allowed, Validation.allowedOperators t = some allowed → o ∈ allowed := by
  constructor
  · intro h
    cases h with
    | equals => cases t <;> simp [Validation.allowedOperators]
    | notEquals => cases t <;> simp [Validation.allowedOperators]
    | contains => simp [Validation.allowedOperators]
    | isIn => simp [Validation.allowedOperators]
    | ordered ht ho =>
      simp only [List.mem_cons, List.not_mem_nil, or_false] at ht ho
      rcases ht with rfl | rfl | rfl <;> rcases ho with rfl | rfl | rfl <;>
        simp [Validation.allowedOperators]
    | unchecked => simp [Validation.allowedOperators]
  · intro h
    cases t with
    | other name => exact .unchecked name o
    | string =>
      have := h _ rfl
      simp only [List.mem_cons, List.not_mem_nil, or_false] at this
      rcases this with rfl | rfl | rfl | rfl <;> constructor
    | boolean =>
      have := h _ rfl
      simp only [List.mem_cons, List.not_mem_nil, or_false] at this
      rcases this with rfl | rfl <;> constructor
    | _ =>
      have := h _ rfl
      simp only [List.mem_cons, List.not_mem_nil, or_false] at this
      rcases this with rfl | rfl | rfl | rfl | rfl
      · exact .equals _
      · exact .notEquals _
      all_goals exact .ordered (by simp) (by simp)

end Query

namespace Validation

open Query

variable {q : Query}

/-! ## When a rule has nothing to say -/

/-- A rule that looks at one element after the other is silent if it is on each of them. -/
theorem flatMap_zipIdx_eq_nil_iff {α β : Type} {as : List α} {f : α × Nat → List β} :
    as.zipIdx.flatMap f = [] ↔ ∀ n a, as[n]? = some a → f (a, n) = [] := by
  simp only [List.flatMap_eq_nil_iff, Prod.forall, List.mem_zipIdx_iff_getElem?]
  exact forall_comm

theorem flatMap_zipIdx_eq_nil_iff_forall_mem {α β : Type} {as : List α} {f : α × Nat → List β}
    {P : α → Prop} (h : ∀ a n, f (a, n) = [] ↔ P a) :
    as.zipIdx.flatMap f = [] ↔ ∀ a ∈ as, P a := by
  simp only [flatMap_zipIdx_eq_nil_iff, h]
  constructor
  · intro hall a ha
    obtain ⟨n, hn⟩ := List.mem_iff_getElem?.1 ha
    exact hall n a hn
  · exact fun hall n a hn => hall a (List.mem_of_getElem? hn)

theorem sourcesPresent_eq_nil_iff : sourcesPresent q = [] ↔ q.sources ≠ [] := by
  simp [sourcesPresent]

theorem fieldsPresent_eq_nil_iff : fieldsPresent q = [] ↔ q.selectedFields ≠ [] := by
  simp [fieldsPresent]

theorem aliasesDiffer_eq_nil_iff : aliasesDiffer q = [] ↔ q.aliases.Nodup := by
  simp only [aliasesDiffer, flatMap_zipIdx_eq_nil_iff, ite_eq_right_iff, reduceCtorEq, imp_false,
    List.mem_take_iff_getElem, List.nodup_iff_getElem?_ne_getElem?]
  constructor
  · intro h i n hin hn heq
    refine h n _ (List.getElem?_eq_getElem hn) ⟨i, by omega, ?_⟩
    rw [List.getElem?_eq_getElem (hin.trans hn), List.getElem?_eq_getElem hn] at heq
    simpa using heq
  · rintro h n a hn ⟨i, hi, ha⟩
    have hlt : n < q.aliases.length := (List.getElem?_eq_some_iff.1 hn).1
    refine h i n (by omega) hlt ?_
    rw [hn, ← ha]
    exact List.getElem?_eq_getElem _

theorem joinTypes_eq_nil_iff {n : Nat} {j : Join} : joinTypes q n j = [] ↔
    ∀ l r, q.findSelected j.left = some l → q.findSelected j.right = some r →
      l.type.joinable r.type = true := by
  simp only [joinTypes]
  split
  · next l r hl hr => simp [hl, hr]
  · next hnone =>
    simp only [true_iff]
    exact fun l r hl hr => absurd hr (hnone l r hl)

/-- The rules on sides and on types are silent just when each join fits. -/
theorem joins_eq_nil_iff :
    (joinsResolve q = [] ∧ joinsCompatible q = []) ↔ ∀ j ∈ q.joins, q.JoinFits j := by
  have hresolve : joinsResolve q = [] ↔ ∀ j ∈ q.joins, (q.findSelected j.left).isSome ∧
      (q.findSelected j.right).isSome ∧ j.left.source ≠ j.right.source :=
    flatMap_zipIdx_eq_nil_iff_forall_mem fun j n => by
      simp [sideSelected, sidesApart, ← Option.isSome_iff_ne_none]
  have hcompatible : joinsCompatible q = [] ↔ ∀ j ∈ q.joins, ∀ l r,
      q.findSelected j.left = some l → q.findSelected j.right = some r →
        l.type.joinable r.type = true :=
    flatMap_zipIdx_eq_nil_iff_forall_mem fun j n => joinTypes_eq_nil_iff
  rw [hresolve, hcompatible, ← forall₂_and]
  refine forall₂_congr fun j _ => ?_
  constructor
  · rintro ⟨⟨hl, hr, hapart⟩, htypes⟩
    obtain ⟨l, hl⟩ := Option.isSome_iff_exists.1 hl
    obtain ⟨r, hr⟩ := Option.isSome_iff_exists.1 hr
    exact ⟨hapart, l, r, findSelected_eq_some_iff.1 hl, findSelected_eq_some_iff.1 hr,
      joinable_iff.1 (htypes l r hl hr)⟩
  · rintro ⟨hapart, l, r, hl, hr, hfit⟩
    rw [← findSelected_eq_some_iff] at hl hr
    refine ⟨by simp [hl, hr, hapart], fun l' r' hl' hr' => ?_⟩
    rw [hl, Option.some.injEq] at hl'
    rw [hr, Option.some.injEq] at hr'
    subst hl' hr'
    exact joinable_iff.2 hfit

theorem operatorsAllowed_eq_nil_iff :
    operatorsAllowed q = [] ↔ ∀ f ∈ q.filters, Allows f.field.type f.operator :=
  flatMap_zipIdx_eq_nil_iff_forall_mem fun f n => by
    rw [allows_iff]
    simp only [operatorAllowed]
    split
    · next hnone => simp [hnone]
    · next allowed hsome => simp [hsome]

/-! ## Valid queries -/

/-- Validation finds no error in a query just when it is well formed. -/
theorem isValid_iff_wellFormed (options : Options) (now : Timestamp) (q : Query) :
    (validate options now q).isValid = true ↔ q.WellFormed := by
  rw [isValid_iff]
  constructor
  · intro h
    have hdiffer : q.aliases.Nodup := aliasesDiffer_eq_nil_iff.1 (h .duplicateAlias rfl)
    have hgraph : q.sourceGraph.Preconnected :=
      (sourcesJoined_eq_nil_iff q).1 (h .missingJoins rfl)
    exact
      { hasSource := sourcesPresent_eq_nil_iff.1 (h .noSources rfl)
        hasField := fieldsPresent_eq_nil_iff.1 (h .noFields rfl)
        aliasesDiffer := hdiffer
        connected := (preconnected_sourceGraph_iff hdiffer).1 hgraph
        joinsFit := joins_eq_nil_iff.1 ⟨h .invalidJoin rfl, h .incompatibleTypes rfl⟩
        filtersFit := operatorsAllowed_eq_nil_iff.1 (h .invalidOperator rfl) }
  · intro h c hc
    have hjoins := joins_eq_nil_iff.2 h.joinsFit
    cases c with
    | noSources => exact sourcesPresent_eq_nil_iff.2 h.hasSource
    | noFields => exact fieldsPresent_eq_nil_iff.2 h.hasField
    | missingJoins =>
      exact (sourcesJoined_eq_nil_iff q).2 ((preconnected_sourceGraph_iff h.aliasesDiffer).2 h.connected)
    | invalidJoin => exact hjoins.1
    | incompatibleTypes => exact hjoins.2
    | invalidOperator => exact operatorsAllowed_eq_nil_iff.2 h.filtersFit
    | duplicateAlias => exact aliasesDiffer_eq_nil_iff.2 h.aliasesDiffer
    | performanceWarning | unknownSource => cases hc

end Validation

end CrossSource
