import CrossSource.Proofs.References
import Mathlib.Data.List.Find
/-!
# Validation does not depend on what aliases are called

Sources may go by other aliases as long as different aliases stay different, those of missing
sources among them. Positions, found fields and classes of sources are then the same as before, so
each rule says the same about the same places, under the new aliases (`report_follows_renaming`).
-/

namespace CrossSource

/-! ## Other aliases for the sources -/

def Field.rename (ρ : String → String) (f : Field) : Field := { f with source := ρ f.source }

def QuerySource.rename (ρ : String → String) (s : QuerySource) : QuerySource :=
  { s with aliasName := ρ s.aliasName }

def Join.rename (ρ : String → String) (j : Join) : Join :=
  { j with left := j.left.rename ρ, right := j.right.rename ρ }

def Filter.rename (ρ : String → String) (c : Filter) : Filter :=
  { c with field := c.field.rename ρ }

def SortKey.rename (ρ : String → String) (s : SortKey) : SortKey :=
  { s with field := s.field.rename ρ }

def Aggregate.rename (ρ : String → String) (a : Aggregate) : Aggregate :=
  { a with field := a.field.rename ρ }

namespace Query

/-- The query with other aliases for its sources, wherever they stand. -/
def rename (ρ : String → String) (q : Query) : Query :=
  { q with
    sources := q.sources.map (·.rename ρ)
    selectedFields := q.selectedFields.map (·.rename ρ)
    joins := q.joins.map (·.rename ρ)
    filters := q.filters.map (·.rename ρ)
    groupBy := q.groupBy.map (·.rename ρ)
    having := q.having.map (·.rename ρ)
    orderBy := q.orderBy.map (·.rename ρ)
    aggregates := q.aggregates.map (·.rename ρ) }

/-- The aliases that occur in a query, those of sources that it does not have included. -/
def mentioned (q : Query) : Set String :=
  {a | a ∈ q.aliases ∨ ∃ r ∈ q.references, r.2.source = a}

variable {ρ : String → String} {q : Query}

theorem aliases_rename (ρ : String → String) (q : Query) :
    (q.rename ρ).aliases = q.aliases.map ρ := by
  simp [aliases, rename, QuerySource.rename, Function.comp_def]

theorem placed_map {α β : Type} (name : String) (g : α → β) (as : List α) :
    placed name (as.map g) = (placed name as).map fun r => (r.1, g r.2) := by
  simp [placed, List.zipIdx_map, Function.comp_def]

theorem references_rename (ρ : String → String) (q : Query) :
    (q.rename ρ).references = q.references.map fun r => (r.1, r.2.rename ρ) := by
  simp [references, rename, placed_map, List.map_flatMap, List.flatMap_map, Function.comp_def,
    Join.rename, Filter.rename, SortKey.rename, Aggregate.rename]

/-! ## What occurs in a query -/

theorem mem_mentioned_of_mem_aliases {a : String} (h : a ∈ q.aliases) : a ∈ q.mentioned := .inl h

theorem mem_mentioned_of_referred {f : Field} (h : f ∈ q.references.map Prod.snd) :
    f.source ∈ q.mentioned := by
  obtain ⟨r, hr, rfl⟩ := List.mem_map.1 h
  exact .inr ⟨r, hr, rfl⟩

theorem mem_mentioned_of_selected {f : Field} (h : f ∈ q.selectedFields) :
    f.source ∈ q.mentioned :=
  mem_mentioned_of_referred (by simp [map_snd_references, h])

theorem mem_mentioned_of_join {j : Join} (h : j ∈ q.joins) :
    j.left.source ∈ q.mentioned ∧ j.right.source ∈ q.mentioned := by
  have hside : ∀ f, f = j.left ∨ f = j.right → f ∈ q.references.map Prod.snd := by
    intro f hf
    have hmem : f ∈ q.joins.flatMap fun j => [j.left, j.right] :=
      List.mem_flatMap.2 ⟨j, h, by simpa using hf⟩
    simp only [map_snd_references, List.mem_append, hmem, or_true, true_or]
  exact ⟨mem_mentioned_of_referred (hside _ (.inl rfl)),
    mem_mentioned_of_referred (hside _ (.inr rfl))⟩

/-! ## Lookups under other aliases -/

/-- A selected field is found under its new alias where it was found before. -/
theorem findSelected_rename (h : Set.InjOn ρ q.mentioned) {f : Field}
    (hf : f.source ∈ q.mentioned) :
    (q.rename ρ).findSelected (f.rename ρ) = (q.findSelected f).map (·.rename ρ) := by
  simp only [findSelected, rename, List.find?_map]
  -- Names stay as they are, and sources are the same just when they were before.
  refine congrArg _ (List.find?_congr fun g hg => ?_)
  have hsource := h.eq_iff (mem_mentioned_of_selected hg) hf
  exact congrArg₂ and (decide_eq_decide.2 hsource) rfl

/-- Among the aliases of sources, an alias is found again under its new name only. -/
theorem mem_map_rename_iff (h : Set.InjOn ρ q.mentioned) {a : String} (ha : a ∈ q.mentioned)
    {as : List String} (has : as ⊆ q.aliases) : ρ a ∈ as.map ρ ↔ a ∈ as := by
  rw [List.mem_map]
  constructor
  · rintro ⟨b, hb, heq⟩
    rwa [← h (mem_mentioned_of_mem_aliases (has hb)) ha heq]
  · exact fun hmem => ⟨a, hmem, rfl⟩

theorem findIdx?_congr {α : Type} {p p' : α → Bool} {as : List α} (h : ∀ a ∈ as, p a = p' a) :
    as.findIdx? p = as.findIdx? p' := by
  induction as with
  | nil => rfl
  | cons a as ih =>
    rw [List.findIdx?_cons, List.findIdx?_cons, h a (by simp),
      ih fun b hb => h b (List.mem_cons_of_mem _ hb)]

theorem positionOf_rename (h : Set.InjOn ρ q.mentioned) {a : String} (ha : a ∈ q.mentioned) :
    (q.rename ρ).positionOf (ρ a) = q.positionOf a := by
  simp only [positionOf, aliases_rename, List.idxOf?, List.findIdx?_map]
  refine findIdx?_congr fun b hb => ?_
  simp [h.eq_iff (mem_mentioned_of_mem_aliases hb) ha]

/-- Joins connect the same positions, so the classes are the same. -/
theorem components_rename (h : Set.InjOn ρ q.mentioned) :
    (q.rename ρ).components = q.components := by
  have hpairs : (q.rename ρ).joins.filterMap (q.rename ρ).joinedPositions =
      q.joins.filterMap q.joinedPositions := by
    have hjoins : (q.rename ρ).joins = q.joins.map (·.rename ρ) := rfl
    rw [hjoins, List.filterMap_map]
    refine List.filterMap_congr fun j hj => ?_
    obtain ⟨hl, hr⟩ := mem_mentioned_of_join hj
    simp only [Function.comp_apply, joinedPositions, Join.rename, Field.rename,
      positionOf_rename h hl, positionOf_rename h hr]
  have hlen : (q.rename ρ).sources.length = q.sources.length := List.length_map _
  rw [components, components, hpairs, hlen]

theorem disconnected_rename (h : Set.InjOn ρ q.mentioned) :
    (q.rename ρ).disconnected = q.disconnected.map ρ := by
  simp only [disconnected, components_rename h, aliases_rename, List.zipIdx_map, List.filter_map,
    List.map_map]
  rfl

end Query

namespace Validation

open Query

variable {ρ : String → String} {q : Query}

/-- The second message says of a renamed source what the first one says of the source. Texts and
contexts, in which aliases stand among other words, are left aside. -/
structure Message.Renamed (ρ : String → String) (m m' : Message) : Prop where
  code : m'.code = m.code
  severity : m'.severity = m.severity
  field : m'.field = m.field
  source : m'.source = m.source.map ρ

/-! ## One message for another -/

theorem forall₂_flatMap {α β γ : Type} {R : β → γ → Prop} {as : List α} {f : α → List β}
    {g : α → List γ} (h : ∀ a ∈ as, List.Forall₂ R (f a) (g a)) :
    List.Forall₂ R (as.flatMap f) (as.flatMap g) := by
  induction as with
  | nil => exact .nil
  | cons a as ih =>
    rw [List.flatMap_cons, List.flatMap_cons]
    exact List.rel_append (h a (by simp)) (ih fun b hb => h b (List.mem_cons_of_mem _ hb))

/-- Two rules that look at one element after the other. -/
theorem forall₂_flatMap_zipIdx {α α' β γ : Type} {R : β → γ → Prop} {as : List α} {g : α → α'}
    {f : α × Nat → List β} {f' : α' × Nat → List γ}
    (h : ∀ a ∈ as, ∀ n, List.Forall₂ R (f (a, n)) (f' (g a, n))) :
    List.Forall₂ R (as.zipIdx.flatMap f) ((as.map g).zipIdx.flatMap f') := by
  rw [List.zipIdx_map, List.flatMap_map]
  exact forall₂_flatMap fun a ha => h a.1 (List.fst_mem_of_mem_zipIdx ha) a.2

theorem forall₂_ite {β γ : Type} {R : β → γ → Prop} {b b' : Prop} [Decidable b] [Decidable b']
    {l r : List β} {l' r' : List γ} (hb : b' ↔ b) (hl : List.Forall₂ R l l')
    (hr : List.Forall₂ R r r') :
    List.Forall₂ R (if b then l else r) (if b' then l' else r') := by
  simp only [hb]
  split
  · exact hl
  · exact hr

namespace Message

variable {m m' : Message}

/-- A message that names no source needs no renaming. -/
theorem renamed_self (h : m.source = none) : m.Renamed ρ m := ⟨rfl, rfl, rfl, by rw [h]; rfl⟩

theorem renamed_error (c : Code) (text text' : String) :
    (error c text).Renamed ρ (error c text') := ⟨rfl, rfl, rfl, rfl⟩

theorem renamed_warning (c : Code) (text text' : String) :
    (warning c text).Renamed ρ (warning c text') := ⟨rfl, rfl, rfl, rfl⟩

theorem Renamed.withField (h : m.Renamed ρ m') (name : String) :
    (m.withField name).Renamed ρ (m'.withField name) := ⟨h.code, h.severity, rfl, h.source⟩

theorem Renamed.withSource (h : m.Renamed ρ m') (aliasName : String) :
    (m.withSource aliasName).Renamed ρ (m'.withSource (ρ aliasName)) :=
  ⟨h.code, h.severity, h.field, rfl⟩

theorem Renamed.withContext (h : m.Renamed ρ m') (ms ms' : List (String × Document.Value)) :
    (m.withContext ms).Renamed ρ (m'.withContext ms') := ⟨h.code, h.severity, h.field, h.source⟩

/-- A message on a field of a source. -/
theorem renamed_error_of_field (c : Code) (text text' name aliasName : String)
    (ms ms' : List (String × Document.Value)) :
    ((((error c text).withField name).withSource aliasName).withContext ms).Renamed ρ
      ((((error c text').withField name).withSource (ρ aliasName)).withContext ms') :=
  (((renamed_error c text text').withField name).withSource aliasName).withContext ms ms'

/-- A message on a source. -/
theorem renamed_error_of_source (c : Code) (text text' aliasName : String)
    (ms ms' : List (String × Document.Value)) :
    (((error c text).withSource aliasName).withContext ms).Renamed ρ
      (((error c text').withSource (ρ aliasName)).withContext ms') :=
  ((renamed_error c text text').withSource aliasName).withContext ms ms'

end Message

open Message

/-! ## The rules under other aliases -/

theorem renamed_sourcesJoined (h : Set.InjOn ρ q.mentioned) :
    List.Forall₂ (Message.Renamed ρ) (sourcesJoined q) (sourcesJoined (q.rename ρ)) := by
  have hsources : (q.rename ρ).sources.length = q.sources.length := List.length_map _
  have hjoins : (q.rename ρ).joins.length = q.joins.length := List.length_map _
  simp only [sourcesJoined, hsources, hjoins, disconnected_rename h]
  refine forall₂_ite .rfl .nil (forall₂_ite .rfl (.cons (renamed_self rfl) .nil) ?_)
  cases q.disconnected with
  | nil => exact .nil
  | cons first rest => exact .cons (renamed_error_of_source _ _ _ _ _ _) .nil

theorem renamed_sideSelected (h : Set.InjOn ρ q.mentioned) {f : Field}
    (hf : f.source ∈ q.mentioned) (index : Nat) (side : Side) :
    List.Forall₂ (Message.Renamed ρ) (sideSelected q index side f)
      (sideSelected (q.rename ρ) index side (f.rename ρ)) := by
  refine forall₂_ite ?_ (.cons (renamed_error_of_field _ _ _ _ _ _ _) .nil) .nil
  rw [findSelected_rename h hf, Option.isNone_map]

theorem renamed_sidesApart (h : Set.InjOn ρ q.mentioned) {j : Join} (hj : j ∈ q.joins)
    (index : Nat) : List.Forall₂ (Message.Renamed ρ) (sidesApart index j)
      (sidesApart index (j.rename ρ)) := by
  obtain ⟨hl, hr⟩ := mem_mentioned_of_join hj
  exact forall₂_ite (h.eq_iff hl hr) (.cons (renamed_error_of_source _ _ _ _ _ _) .nil) .nil

theorem renamed_joinsResolve (h : Set.InjOn ρ q.mentioned) :
    List.Forall₂ (Message.Renamed ρ) (joinsResolve q) (joinsResolve (q.rename ρ)) := by
  refine forall₂_flatMap_zipIdx fun j hj n => ?_
  obtain ⟨hl, hr⟩ := mem_mentioned_of_join hj
  have hleft := renamed_sideSelected h hl n .left
  have hright := renamed_sideSelected h hr n .right
  exact List.rel_append (List.rel_append hleft hright) (renamed_sidesApart h hj n)

theorem renamed_joinsCompatible (h : Set.InjOn ρ q.mentioned) :
    List.Forall₂ (Message.Renamed ρ) (joinsCompatible q) (joinsCompatible (q.rename ρ)) := by
  refine forall₂_flatMap_zipIdx fun j hj n => ?_
  obtain ⟨hl, hr⟩ := mem_mentioned_of_join hj
  simp only [joinTypes, Join.rename, findSelected_rename h hl, findSelected_rename h hr]
  cases q.findSelected j.left with
  | none => exact .nil
  | some l =>
    cases q.findSelected j.right with
    | none => exact .nil
    | some r => exact forall₂_ite .rfl .nil (.cons (renamed_error_of_field _ _ _ _ _ _ _) .nil)

theorem renamed_operatorsAllowed (ρ : String → String) (q : Query) :
    List.Forall₂ (Message.Renamed ρ) (operatorsAllowed q) (operatorsAllowed (q.rename ρ)) := by
  refine forall₂_flatMap_zipIdx fun f _ n => ?_
  simp only [operatorAllowed, Filter.rename, Field.rename]
  cases allowedOperators f.field.type with
  | none => exact .nil
  | some allowed => exact forall₂_ite .rfl .nil (.cons (renamed_error_of_field _ _ _ _ _ _ _) .nil)

theorem renamed_costs (options : Options) (ρ : String → String) (q : Query) :
    List.Forall₂ (Message.Renamed ρ) (costs options q) (costs options (q.rename ρ)) := by
  have hselected : (q.rename ρ).selectedFields.length = q.selectedFields.length :=
    List.length_map _
  have hfilters : (q.rename ρ).filters.isEmpty = q.filters.isEmpty := List.isEmpty_map
  simp only [costs, hselected, hfilters]
  exact List.rel_append (forall₂_ite .rfl (.cons (renamed_self rfl) .nil) .nil)
    (forall₂_ite .rfl (.cons (renamed_self rfl) .nil) .nil)

theorem renamed_aliasesDiffer (h : Set.InjOn ρ q.mentioned) :
    List.Forall₂ (Message.Renamed ρ) (aliasesDiffer q) (aliasesDiffer (q.rename ρ)) := by
  unfold aliasesDiffer
  rw [aliases_rename]
  refine forall₂_flatMap_zipIdx fun a ha n => ?_
  refine forall₂_ite ?_ (.cons (renamed_error_of_source _ _ _ _ _ _) .nil) .nil
  rw [← List.map_take]
  exact mem_map_rename_iff h (mem_mentioned_of_mem_aliases ha) (List.take_subset _ _)

theorem renamed_sourcesKnown (h : Set.InjOn ρ q.mentioned) :
    List.Forall₂ (Message.Renamed ρ) (sourcesKnown q) (sourcesKnown (q.rename ρ)) := by
  have hsources : (q.rename ρ).sources.isEmpty = q.sources.isEmpty := List.isEmpty_map
  simp only [sourcesKnown, hsources]
  refine forall₂_ite .rfl .nil ?_
  rw [references_rename, List.flatMap_map]
  refine forall₂_flatMap fun r hr => ?_
  refine forall₂_ite ?_ .nil
    (.cons ((((renamed_warning _ _ _).withField _).withSource _).withContext _ _) .nil)
  rw [aliases_rename]
  exact mem_map_rename_iff h (.inr ⟨r, hr, rfl⟩) (List.Subset.refl _)

/-- Each rule says the same under the new aliases. -/
theorem renamed_rule (options : Options) (h : Set.InjOn ρ q.mentioned) (c : Code) :
    List.Forall₂ (Message.Renamed ρ) (rule options q c) (rule options (q.rename ρ) c) := by
  cases c with
  | noSources =>
    refine forall₂_ite ?_ (.cons (renamed_self rfl) .nil) .nil
    rw [Query.rename, List.isEmpty_map]
  | noFields =>
    refine forall₂_ite ?_ (.cons (renamed_self rfl) .nil) .nil
    rw [Query.rename, List.isEmpty_map]
  | missingJoins => exact renamed_sourcesJoined h
  | invalidJoin => exact renamed_joinsResolve h
  | incompatibleTypes => exact renamed_joinsCompatible h
  | invalidOperator => exact renamed_operatorsAllowed ρ q
  | performanceWarning => exact renamed_costs options ρ q
  | duplicateAlias => exact renamed_aliasesDiffer h
  | unknownSource => exact renamed_sourcesKnown h

/-! ## The report -/

/-- If different aliases stay different, the query under new aliases is valid when the old one is,
and its report says the same of the renamed sources, message by message. -/
theorem report_follows_renaming (options : Options) (now now' : Timestamp)
    (h : Set.InjOn ρ q.mentioned) :
    (validate options now' (q.rename ρ)).isValid = (validate options now q).isValid ∧
      List.Forall₂ (Message.Renamed ρ) (validate options now q).messages
        (validate options now' (q.rename ρ)).messages := by
  have hrules := renamed_rule options h
  constructor
  · rw [Bool.eq_iff_iff, isValid_iff, isValid_iff]
    refine forall₂_congr fun c _ => ?_
    rw [← List.length_eq_zero_iff, ← List.length_eq_zero_iff, (hrules c).length_eq]
  · show List.Forall₂ _ (messages options q) (messages options (q.rename ρ))
    rw [messages_eq_flatMap_rule, messages_eq_flatMap_rule]
    exact forall₂_flatMap fun c _ => hrules c

/-- Aliases that look generated, one of them twice, and a join to a source that is not there. -/
def oddlyNamed : Query :=
  let a := Field.plain "s1" "id" .number
  let b := Field.plain "" "id" .string
  let z := Field.plain "s2" "id" .number
  { Query.new "q" "odd" ⟨0, 0⟩ with
    sources := [⟨"x", none, "s1"⟩, ⟨"y", none, ""⟩, ⟨"z", none, "s1"⟩]
    selectedFields := [a, b]
    joins := [⟨a, b, .inner⟩, ⟨z, a, .full⟩] }

/-- Two aliases trade places, and the missing source gets a new one. -/
def oddRenaming (a : String) : String :=
  if a = "s1" then "" else if a = "" then "s1" else if a = "s2" then "a b" else a

theorem report_follows_renaming_odd : Set.InjOn oddRenaming oddlyNamed.mentioned ∧
    (validate .default ⟨0, 0⟩ (oddlyNamed.rename oddRenaming)).isValid = false ∧
      List.Forall₂ (Renamed oddRenaming) (validate .default ⟨0, 0⟩ oddlyNamed).messages
        (validate .default ⟨0, 0⟩ (oddlyNamed.rename oddRenaming)).messages := by
  have hmem : ∀ a ∈ oddlyNamed.mentioned, a ∈ ["s1", "", "s2"] := by
    rintro a (ha | ⟨r, hr, rfl⟩)
    · revert a
      decide
    · revert r
      decide
  have h : Set.InjOn oddRenaming oddlyNamed.mentioned := by
    have hall : ∀ a ∈ ["s1", "", "s2"], ∀ b ∈ ["s1", "", "s2"],
        oddRenaming a = oddRenaming b → a = b := by decide
    exact fun a ha b hb => hall a (hmem a ha) b (hmem b hb)
  obtain ⟨hvalid, hmessages⟩ := report_follows_renaming .default ⟨0, 0⟩ ⟨0, 0⟩ h
  exact ⟨h, hvalid.trans (by decide +kernel), hmessages⟩

end Validation

end CrossSource
