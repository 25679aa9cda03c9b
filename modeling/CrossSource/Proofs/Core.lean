import CrossSource.Proofs.Rules
/-!
# Errors depend on the core of a query

The rules that find errors look at few parts of a query: the aliases of its sources, the selected
fields with their types, which fields its joins and filters are about, and the operators of the
filters. Its core is the query with everything else blotted out. Such a rule says of the core what
it says of the query (`rule_core`), so queries that have these parts in common get the same errors,
to the letter (`errors_depend_on_core`).
-/

namespace CrossSource

/-! ## What errors are about -/

namespace Field

/-- What a field is found by. -/
def reference (f : Field) : String × String := (f.source, f.name)

/-- What a field is found by, and its type. -/
def typed (f : Field) : String × String × FieldType := (f.source, f.name, f.type)

end Field

/-- The fields that a join pairs. The types that its sides declare are of no account. -/
def Join.references (j : Join) : (String × String) × (String × String) :=
  (j.left.reference, j.right.reference)

/-- The field of a filter and what it is compared by. -/
def Filter.comparison (c : Filter) : (String × String × FieldType) × Operator :=
  (c.field.typed, c.operator)

namespace Query

variable {q q' : Query}

/-- The queries agree in all that errors are about, whatever else they hold. -/
structure SameCore (q q' : Query) : Prop where
  aliases : q'.aliases = q.aliases
  selectedFields : q'.selectedFields.map Field.typed = q.selectedFields.map Field.typed
  joins : q'.joins.map Join.references = q.joins.map Join.references
  filters : q'.filters.map Filter.comparison = q.filters.map Filter.comparison

/-! ## The core of a query -/

/-- A field of which only source, name and type are left. -/
def bareField : String × String × FieldType → Field
  | (source, name, type) => .plain source name type

/-- A side of a join of which only source and name are left. -/
def bareSide : String × String → Field
  | (source, name) => .plain source name (.other "")

def bareJoin : (String × String) × (String × String) → Join
  | (left, right) => ⟨bareSide left, bareSide right, .inner⟩

def bareFilter : (String × String × FieldType) × Operator → Filter
  | (field, operator) => ⟨bareField field, operator, .null, none⟩

/-- The query with only those parts that errors are about. -/
def core (q : Query) : Query :=
  { new "" "" ⟨0, 0⟩ with
    sources := q.aliases.map (⟨"", none, ·⟩)
    selectedFields := (q.selectedFields.map Field.typed).map bareField
    joins := (q.joins.map Join.references).map bareJoin
    filters := (q.filters.map Filter.comparison).map bareFilter }

theorem SameCore.core_eq (h : SameCore q q') : q'.core = q.core := by
  simp only [core, h.aliases, h.selectedFields, h.joins, h.filters]

@[simp] theorem aliases_core (q : Query) : q.core.aliases = q.aliases := by
  simp [aliases, core, Function.comp_def]

@[simp] theorem length_sources_core (q : Query) : q.core.sources.length = q.sources.length := by
  simp [aliases, core]

@[simp] theorem selectedFields_core (q : Query) :
    q.core.selectedFields = q.selectedFields.map fun f => bareField f.typed := List.map_map ..

@[simp] theorem joins_core (q : Query) :
    q.core.joins = q.joins.map fun j => bareJoin j.references := List.map_map ..

@[simp] theorem filters_core (q : Query) :
    q.core.filters = q.filters.map fun c => bareFilter c.comparison := List.map_map ..

/-! ## Lookups in the core -/

/-- The first selected field that matches still is the first one, and it matches the bare side. -/
theorem findSelected_core (q : Query) (f : Field) : q.core.findSelected (bareSide f.reference) =
    (q.findSelected f).map fun g => bareField g.typed := by
  rw [findSelected, selectedFields_core, List.find?_map]
  rfl

theorem joinedPositions_core (q : Query) (j : Join) :
    q.core.joinedPositions (bareJoin j.references) = q.joinedPositions j := by
  simp only [joinedPositions, positionOf, aliases_core]
  rfl

theorem disconnected_core (q : Query) : q.core.disconnected = q.disconnected := by
  have hpairs : q.core.joins.filterMap q.core.joinedPositions =
      q.joins.filterMap q.joinedPositions := by
    simp only [joins_core, List.filterMap_map, Function.comp_def, joinedPositions_core]
  have hcomponents : q.core.components = q.components := by
    rw [components, components, hpairs, length_sources_core]
  simp only [disconnected, hcomponents, aliases_core]

end Query

namespace Validation

open Query

variable {q q' : Query}

/-! ## The rules on the core -/

theorem sourcesJoined_core (q : Query) : sourcesJoined q.core = sourcesJoined q := by
  simp only [sourcesJoined, length_sources_core, joins_core, List.length_map, disconnected_core]

/-- A hint picks from the names of the selected fields. -/
theorem hint_core (q : Query) (f : Field) : hint q.core (bareSide f.reference) = hint q f := by
  have hnames : ∀ a, selectedNames q.core a = selectedNames q a := by
    intro a
    simp only [selectedNames, selectedFields_core, List.filter_map, List.map_map]
    rfl
  simp only [hint, hnames]
  rfl

theorem sideSelected_core (q : Query) (index : Nat) (side : Side) (f : Field) :
    sideSelected q.core index side (bareSide f.reference) = sideSelected q index side f := by
  simp only [sideSelected, findSelected_core, Option.isNone_map, notSelected, hint_core]
  rfl

theorem joinTypes_core (q : Query) (index : Nat) (j : Join) :
    joinTypes q.core index (bareJoin j.references) = joinTypes q index j := by
  simp only [joinTypes, bareJoin, Join.references, findSelected_core]
  cases q.findSelected j.left with
  | none => rfl
  | some l =>
    cases q.findSelected j.right with
    | none => rfl
    | some r => rfl

/-- A rule that looks at one element after the other, and another one that says the same of bare
elements. -/
theorem flatMap_zipIdx_map {α β γ : Type} {as : List α} {bare : α → β} {f : β × Nat → List γ}
    {g : α × Nat → List γ} (h : ∀ a n, f (bare a, n) = g (a, n)) :
    (as.map bare).zipIdx.flatMap f = as.zipIdx.flatMap g := by
  rw [List.zipIdx_map, List.flatMap_map]
  exact List.flatMap_congr fun a _ => h a.1 a.2

/-- A rule on errors says of the core what it says of the query, under any options. -/
theorem rule_core (options options' : Options) (q : Query) {c : Code} (hc : c.severity = .error) :
    rule options' q.core c = rule options q c := by
  cases c with
  | noSources =>
    simp only [rule, sourcesPresent, List.isEmpty_iff_length_eq_zero, length_sources_core]
  | noFields => simp [rule, fieldsPresent]
  | missingJoins => exact sourcesJoined_core q
  | invalidJoin =>
    rw [rule, rule, joinsResolve, joins_core]
    refine flatMap_zipIdx_map fun j n => ?_
    have hleft := sideSelected_core q n .left j.left
    have hright := sideSelected_core q n .right j.right
    exact congrArg₂ (· ++ ·) (congrArg₂ (· ++ ·) hleft hright) rfl
  | incompatibleTypes =>
    rw [rule, rule, joinsCompatible, joins_core]
    exact flatMap_zipIdx_map fun j n => joinTypes_core q n j
  | invalidOperator =>
    rw [rule, rule, operatorsAllowed, filters_core]
    exact flatMap_zipIdx_map fun f n => rfl
  | duplicateAlias => simp only [rule, aliasesDiffer, aliases_core]
  | performanceWarning | unknownSource => cases hc

/-! ## The errors of a report -/

/-- The errors of a report are what the rules on errors say. -/
theorem errors_eq (options : Options) (now : Timestamp) (q : Query) :
    (validate options now q).errors =
      Code.inOrder.flatMap fun c => if c.severity = .error then rule options q c else [] := by
  have herrors : (validate options now q).errors =
      (messages options q).filter Message.isError := rfl
  rw [herrors, messages_eq_flatMap_rule, List.filter_flatMap]
  refine List.flatMap_congr fun c _ => ?_
  split
  · next hc =>
    refine List.filter_eq_self.2 fun m hm => ?_
    simp [Message.isError, (under_rule options q c m hm).2, hc]
  · next hc =>
    refine List.filter_eq_nil_iff.2 fun m hm => ?_
    simp [Message.isError, (under_rule options q c m hm).2, hc]

/-- Queries that agree in their core get the same errors, with the same texts, fields, sources and
contexts and in the same order, under any options, and are valid both or neither. -/
theorem errors_depend_on_core (options options' : Options) (now now' : Timestamp)
    (h : SameCore q q') :
    (validate options' now' q').errors = (validate options now q).errors ∧
      (validate options' now' q').isValid = (validate options now q).isValid := by
  have hrule : ∀ c : Code, c.severity = .error → rule options' q' c = rule options q c := by
    intro c hc
    rw [← rule_core options' options q' hc, h.core_eq, rule_core options options q hc]
  constructor
  · rw [errors_eq, errors_eq]
    refine List.flatMap_congr fun c _ => ?_
    split
    · next hc => exact hrule c hc
    · rfl
  · rw [Bool.eq_iff_iff, isValid_iff, isValid_iff]
    refine forall₂_congr fun c hc => ?_
    rw [hrule c hc]

/-- A misspelled join, one of a text with a number, a filter that makes no sense and an alias that
is used twice. -/
def misspelled : Query :=
  let customer := Field.plain "s1" "customer_id" .string
  let total := Field.plain "s2" "total" .decimal
  { Query.new "q" "orders" ⟨0, 0⟩ with
    sources := [⟨"crm", none, "s1"⟩, ⟨"erp", none, "s2"⟩, ⟨"erp", none, "s2"⟩]
    selectedFields := [customer, total]
    joins := [⟨.plain "s1" "custmer_id" .string, total, .inner⟩, ⟨customer, total, .inner⟩]
    filters := [⟨total, .contains, .str "1", none⟩] }

/-- The same mistakes in a query that has little else in common with the first one. -/
def annotated : Query :=
  let customer := { Field.plain "s1" "customer_id" .string with description := some "the buyer" }
  let total := { Field.plain "s2" "total" .decimal with aliasName := some "sum" }
  { Query.new "p" "copy" ⟨7, 0⟩ with
    sources := [⟨"a", some "customers", "s1"⟩, ⟨"b", none, "s2"⟩, ⟨"c", none, "s2"⟩]
    selectedFields := [customer, total]
    joins := [⟨.plain "s1" "custmer_id" .date, { total with type := .boolean }, .left⟩,
      ⟨{ customer with type := .decimal }, total, .full⟩]
    filters := [⟨total, .contains, .null, some .or⟩]
    groupBy := [.plain "z" "gone" .date]
    orderBy := [⟨customer, .descending⟩]
    limit := some 3
    tags := ["draft"]
    nextAlias := 9 }

theorem errors_depend_on_core_annotated :
    SameCore misspelled annotated ∧
      (validate ⟨1, false⟩ ⟨9, 0⟩ annotated).errors =
        (validate .default ⟨0, 0⟩ misspelled).errors ∧
      (validate .default ⟨0, 0⟩ misspelled).errors.map Message.code = [.missingJoins, .invalidJoin,
        .incompatibleTypes, .invalidOperator, .duplicateAlias] ∧
      (validate ⟨1, false⟩ ⟨9, 0⟩ annotated).isValid = false := by
  have h : SameCore misspelled annotated := ⟨rfl, rfl, rfl, rfl⟩
  obtain ⟨herrors, hvalid⟩ := errors_depend_on_core .default ⟨1, false⟩ ⟨0, 0⟩ ⟨9, 0⟩ h
  exact ⟨h, herrors, by decide +kernel, hvalid.trans (by decide +kernel)⟩

end Validation

end CrossSource
