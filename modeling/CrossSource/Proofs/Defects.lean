import CrossSource.Proofs.Reordering
/-!
# A report lists every defect of a query once

`Defect` names what can be wrong with a query and where, and `Defect.In` says when it is, without a
word about messages. Defects have an order: that of the rules, then that of the parts of a query.
The messages of a report are those of all defects of the query, each once and in this order, and
each message says where its defect is (`report_lists_defects`).
-/

namespace CrossSource

open Document

/-! ## Places -/

namespace Query

/-- A part of a query that holds fields. -/
inductive Part where
  | selectedField
  | joinLeft
  | joinRight
  | filter
  | groupBy
  | having
  | orderBy
  | aggregate
deriving DecidableEq

namespace Part

/-- The list that the part belongs to, as a document calls it. -/
def list : Part → String
  | selectedField => "selectedFields"
  | joinLeft | joinRight => "joins"
  | filter => "filters"
  | groupBy => "groupBy"
  | having => "having"
  | orderBy => "orderBy"
  | aggregate => "aggregates"

/-- What leads from an element of the list to the field. -/
def member : Part → String
  | selectedField | groupBy => ""
  | joinLeft => ".leftField"
  | joinRight => ".rightField"
  | filter | having | orderBy | aggregate => ".field"

/-- The lists in their order. -/
def listRank : Part → Nat
  | selectedField => 0
  | joinLeft | joinRight => 1
  | filter => 2
  | groupBy => 3
  | having => 4
  | orderBy => 5
  | aggregate => 6

/-- The left side of a join comes before its right side. -/
def sideRank : Part → Nat
  | joinRight => 1
  | _ => 0

end Part

/-- Where a field stands in a query. -/
structure Place where
  part : Part
  index : Nat
deriving DecidableEq

namespace Place

def path (p : Place) : String := s!"{p.part.list}[{p.index}]{p.part.member}"

def rank (p : Place) : List Nat := [p.part.listRank, p.index, p.part.sideRank]

end Place

/-- The fields of a part, in their order. -/
def fieldsOf (q : Query) : Part → List Field
  | .selectedField => q.selectedFields
  | .joinLeft => q.joins.map (·.left)
  | .joinRight => q.joins.map (·.right)
  | .filter => q.filters.map (·.field)
  | .groupBy => q.groupBy
  | .having => q.having.map (·.field)
  | .orderBy => q.orderBy.map (·.field)
  | .aggregate => q.aggregates.map (·.field)

def fieldAt (q : Query) (p : Place) : Option Field := (q.fieldsOf p.part)[p.index]?

theorem toList_path (p : Place) : p.path.toList =
    p.part.list.toList ++ '[' :: (Nat.toDigits 10 p.index ++ ']' :: p.part.member.toList) := by
  simp [Place.path, toString, Nat.toList_repr]

/-- A path tells where it leads. -/
theorem path_injective : Function.Injective Place.path := by
  rintro ⟨part, n⟩ ⟨part', n'⟩ heq
  have hlist := congrArg String.toList heq
  simp only [toList_path] at hlist
  have hdigits : ∀ c : Char, c.isDigit = false → c ∉ Nat.toDigits 10 n := by
    intro c hc hmem
    rw [Nat.isDigit_of_mem_toDigits (by decide) (by decide) hmem] at hc
    cases hc
  -- The first brackets of both paths are in the same place, and so are the first closing ones.
  have hopen : '[' ∉ part.list.toList := by cases part <;> decide
  have hopen' : '[' ∉ part.member.toList := by cases part <;> decide
  have hclose : ']' ∉ part.member.toList := by cases part <;> decide
  obtain ⟨hpart, -, hrest⟩ := (List.append_cons_inj_of_notMem hopen
    (by simp [hdigits '[' (by decide), hopen'])).1 hlist
  obtain ⟨hdigits, -, hmember⟩ :=
    (List.append_cons_inj_of_notMem (hdigits ']' (by decide)) hclose).1 hrest
  have hn : n = n' := by
    have := congrArg (fun digits => Nat.ofDigitChars 10 digits 0) hdigits
    simpa using this
  have hparts : part.list = part'.list → part.member = part'.member → part = part' := by
    cases part <;> cases part' <;> decide
  rw [hn, hparts (String.toList_injective hpart) (String.toList_injective hmember)]

end Query

namespace Validation

open Query

/-! ## Defects -/

/-- What can be wrong with a query, or make it costly, and where. -/
inductive Defect where
  | noSources
  | noFields
  | notConnected
  | notSelected (join : Nat) (side : Side)
  | withinSource (join : Nat)
  | typesDiffer (join : Nat)
  | notAllowed (filter : Nat)
  | manyFields
  | noFilters
  | aliasRepeated (source : Nat)
  | sourceUnknown (place : Place)

namespace Defect

/-- Whether the query has the defect. -/
def In (options : Options) (q : Query) : Defect → Prop
  | noSources => q.sources = []
  | noFields => q.selectedFields = []
  | notConnected => ¬ q.sourceGraph.Preconnected
  | notSelected n .left => ∃ j, q.joins[n]? = some j ∧ ¬ ∃ f, q.FirstSelected j.left f
  | notSelected n .right => ∃ j, q.joins[n]? = some j ∧ ¬ ∃ f, q.FirstSelected j.right f
  | withinSource n => ∃ j, q.joins[n]? = some j ∧ j.left.source = j.right.source
  | typesDiffer n => ∃ j, q.joins[n]? = some j ∧ ∃ l r, q.FirstSelected j.left l ∧
      q.FirstSelected j.right r ∧ ¬ TypesFit l.type r.type
  | notAllowed n => ∃ c, q.filters[n]? = some c ∧ ¬ Allows c.field.type c.operator
  | manyFields => options.maxSelectedFields < q.selectedFields.length
  | noFilters => options.warnWithoutFilters = true ∧ q.filters = []
  | aliasRepeated n => ∃ a, q.aliases[n]? = some a ∧ ∃ k < n, q.aliases[k]? = some a
  | sourceUnknown p => q.sources ≠ [] ∧ ∃ f, q.fieldAt p = some f ∧ f.source ∉ q.aliases

def code : Defect → Code
  | noSources => .noSources
  | noFields => .noFields
  | notConnected => .missingJoins
  | notSelected _ _ | withinSource _ => .invalidJoin
  | typesDiffer _ => .incompatibleTypes
  | notAllowed _ => .invalidOperator
  | manyFields | noFilters => .performanceWarning
  | aliasRepeated _ => .duplicateAlias
  | sourceUnknown _ => .unknownSource

/-- The order among the defects of one rule. -/
def rankInRule : Defect → List Nat
  | noSources | noFields | notConnected => []
  | notSelected n .left => [n, 0]
  | notSelected n .right => [n, 1]
  | withinSource n => [n, 2]
  | typesDiffer n | notAllowed n | aliasRepeated n => [n]
  | manyFields => [0]
  | noFilters => [1]
  | sourceUnknown p => p.rank

/-- The order of defects: first that of the rules, then that within a rule. -/
def rank (d : Defect) : List Nat := Code.inOrder.idxOf d.code :: d.rankInRule

/-- What the context of a message says about where a defect is, and what it leaves out. -/
def position (options : Options) : Defect → List (String × Option Value)
  | noSources | noFields | notConnected => []
  | notSelected n side => [("join", some (.int n)), ("side", some (.str side.name))]
  | withinSource n => [("join", some (.int n)), ("side", none)]
  | typesDiffer n => [("join", some (.int n))]
  | notAllowed n => [("filter", some (.int n))]
  | manyFields => [("limit", some (.int options.maxSelectedFields))]
  | noFilters => [("limit", none)]
  | aliasRepeated n => [("index", some (.int n))]
  | sourceUnknown p => [("path", some (.str p.path))]

/-- The field that a defect is about. -/
def field (q : Query) : Defect → Option Field
  | notSelected n .left | typesDiffer n => q.joins[n]?.map (·.left)
  | notSelected n .right => q.joins[n]?.map (·.right)
  | notAllowed n => q.filters[n]?.map (·.field)
  | sourceUnknown p => q.fieldAt p
  | _ => none

/-- The alias that a defect is about. -/
def sourceAlias (q : Query) : Defect → Option String
  | withinSource n => q.joins[n]?.map (·.left.source)
  | aliasRepeated n => q.aliases[n]?
  | d => (d.field q).map (·.source)

end Defect

/-- A member of the context of a message. -/
def Message.member? (m : Message) (name : String) : Option Value :=
  match m.context with
  | some (.obj members) => members.lookup name
  | _ => none

/-- The message is one about the defect of the query. -/
structure Reports (options : Options) (q : Query) (m : Message) (d : Defect) : Prop where
  code : m.code = d.code
  severity : m.severity = d.code.severity
  position : ∀ e ∈ d.position options, m.member? e.1 = e.2
  field : m.field = (d.field q).map (·.name)
  source : ∀ a, d.sourceAlias q = some a → m.source = some a

/-- The messages are those about the defects that `P` holds of, each once and in order. -/
def Lists (options : Options) (q : Query) (ms : List Message) (P : Defect → Prop) : Prop :=
  ∃ ds : List Defect, List.Forall₂ (Reports options q) ms ds ∧
    ds.Pairwise (fun d e => d.rank < e.rank) ∧ ∀ d, d ∈ ds ↔ P d

variable {options : Options} {q : Query} {ms ms' : List Message} {P P' : Defect → Prop}

/-! ## Lists of messages put together -/

theorem Lists.congr (h : Lists options q ms P) (hP : ∀ d, P d ↔ P' d) : Lists options q ms P' := by
  obtain ⟨ds, hreports, hsorted, hmem⟩ := h
  exact ⟨ds, hreports, hsorted, fun d => (hmem d).trans (hP d)⟩

theorem lists_nil (hP : ∀ d, ¬ P d) : Lists options q [] P :=
  ⟨[], .nil, .nil, fun d => by simpa using hP d⟩

theorem lists_singleton {m : Message} {d : Defect} (h : Reports options q m d) :
    Lists options q [m] (· = d) :=
  ⟨[d], .cons h .nil, List.pairwise_singleton _ _, fun _ => List.mem_singleton⟩

/-- Defects of a first list that all come before those of a second one. -/
theorem Lists.append (h : Lists options q ms P) (h' : Lists options q ms' P')
    (hlt : ∀ d e, P d → P' e → d.rank < e.rank) :
    Lists options q (ms ++ ms') fun d => P d ∨ P' d := by
  obtain ⟨ds, hreports, hsorted, hmem⟩ := h
  obtain ⟨ds', hreports', hsorted', hmem'⟩ := h'
  refine ⟨ds ++ ds', List.rel_append hreports hreports', ?_, fun d => ?_⟩
  · refine List.pairwise_append.2 ⟨hsorted, hsorted', fun d hd e he => ?_⟩
    exact hlt d e ((hmem d).1 hd) ((hmem' e).1 he)
  · rw [List.mem_append, hmem, hmem']

/-- A message about a defect that is there under a condition. -/
theorem lists_ite {m : Message} {d : Defect} {b : Prop} [Decidable b]
    (h : b → Reports options q m d) :
    Lists options q (if b then [m] else []) fun e => e = d ∧ b := by
  split
  · next hb => exact (lists_singleton (h hb)).congr fun e => by simp [hb]
  · next hb => exact lists_nil fun e => by simp [hb]

/-- A message about a defect that is there unless a condition holds. -/
theorem lists_ite_not {m : Message} {d : Defect} {b : Prop} [Decidable b]
    (h : ¬ b → Reports options q m d) :
    Lists options q (if b then [] else [m]) fun e => e = d ∧ ¬ b := by
  rw [← ite_not]
  exact lists_ite h

/-- A rule that looks at one element after the other, and says of each what comes before all that
it says of later ones. -/
theorem lists_flatMap_zipIdx {α : Type} {as : List α} {f : α × Nat → List Message}
    {P : Nat → α → Defect → Prop} (h : ∀ n a, as[n]? = some a → Lists options q (f (a, n)) (P n a))
    (hlt : ∀ n k a b d e, n < k → P n a d → P k b e → d.rank < e.rank) :
    Lists options q (as.zipIdx.flatMap f) fun d => ∃ n a, as[n]? = some a ∧ P n a d := by
  induction as using List.reverseRecOn with
  | nil => exact lists_nil (by simp)
  | append_singleton as b ih =>
    have hbefore := ih fun n a ha => h n a <| by
      rwa [List.getElem?_append_left (List.getElem?_eq_some_iff.1 ha).1]
    have hlast := h as.length b (by simp)
    rw [List.zipIdx_append, List.flatMap_append]
    simp only [List.zipIdx_singleton, List.flatMap_singleton, Nat.zero_add]
    refine (hbefore.append hlast ?_).congr fun d => ?_
    · rintro d e ⟨n, a, ha, hd⟩ he
      exact hlt n as.length a b d e (List.getElem?_eq_some_iff.1 ha).1 hd he
    · simp only [List.getElem?_append, List.getElem?_singleton]
      constructor
      · rintro (⟨n, a, ha, hd⟩ | hd)
        · exact ⟨n, a, by rw [if_pos (List.getElem?_eq_some_iff.1 ha).1, ha], hd⟩
        · exact ⟨as.length, b, by simp, hd⟩
      · rintro ⟨n, a, ha, hd⟩
        split at ha
        · exact .inl ⟨n, a, ha, hd⟩
        · split at ha
          · cases ha
            have hn : n = as.length := by omega
            exact .inr (hn ▸ hd)
          · cases ha

/-! ## The message about a defect -/

theorem member?_withContext (m : Message) (members : List (String × Value)) (name : String) :
    (m.withContext members).member? name = members.reverse.lookup name :=
  lookup_sortMembers name members

theorem reports_notSelected {n : Nat} {side : Side} {f : Field}
    (hf : (Defect.notSelected n side).field q = some f) :
    Reports options q (notSelected q n side f) (.notSelected n side) := by
  refine ⟨rfl, rfl, ?_, by rw [hf]; rfl, ?_⟩
  · simp only [Defect.position, List.forall_mem_cons, notSelected, member?_withContext]
    cases hint q f <;> simp [List.lookup_cons]
  · simp only [Defect.sourceAlias, hf, Option.map_some]
    exact fun a ha => ha

theorem reports_withinSource {n : Nat} {j : Join} (hj : q.joins[n]? = some j) :
    Reports options q (withinSource n j) (.withinSource n) := by
  refine ⟨rfl, rfl, ?_, rfl, ?_⟩
  · simp [Defect.position, withinSource, member?_withContext, List.lookup_cons]
  · simp only [Defect.sourceAlias, hj, Option.map_some]
    exact fun a ha => ha

theorem reports_typesDiffer {n : Nat} {j : Join} {l : Field} (hj : q.joins[n]? = some j)
    (hl : q.FirstSelected j.left l) (r : Field) :
    Reports options q (typesDiffer n l r) (.typesDiffer n) := by
  obtain ⟨-, -, -, ⟨hsource, hname⟩, -⟩ := hl
  refine ⟨rfl, rfl, ?_, ?_, ?_⟩
  · simp [Defect.position, typesDiffer, member?_withContext, List.lookup_cons]
  · simp only [Defect.field, hj, Option.map_some, ← hname]
    rfl
  · simp only [Defect.sourceAlias, Defect.field, hj, Option.map_some, ← hsource]
    exact fun a ha => ha

theorem reports_notAllowed {n : Nat} {c : Filter} (hc : q.filters[n]? = some c)
    (allowed : List Operator) : Reports options q (notAllowed n c allowed) (.notAllowed n) := by
  refine ⟨rfl, rfl, ?_, ?_, ?_⟩
  · simp [Defect.position, notAllowed, member?_withContext, List.lookup_cons]
  · simp only [Defect.field, hc, Option.map_some]
    rfl
  · simp only [Defect.sourceAlias, Defect.field, hc, Option.map_some]
    exact fun a ha => ha

theorem reports_manyFields (q : Query) (n : Nat) :
    Reports options q (manyFields n options.maxSelectedFields) .manyFields := by
  refine ⟨rfl, rfl, ?_, rfl, fun a ha => by cases ha⟩
  simp [Defect.position, manyFields, member?_withContext, List.lookup_cons]

theorem reports_noFilters (q : Query) : Reports options q noFilters .noFilters := by
  refine ⟨rfl, rfl, ?_, rfl, fun a ha => by cases ha⟩
  simp [Defect.position, noFilters, Message.member?, Message.warning]

theorem reports_aliasRepeated {n : Nat} {a : String} (ha : q.aliases[n]? = some a) :
    Reports options q (aliasRepeated n a) (.aliasRepeated n) := by
  refine ⟨rfl, rfl, ?_, rfl, ?_⟩
  · simp [Defect.position, aliasRepeated, member?_withContext, List.lookup_cons]
  · simp only [Defect.sourceAlias, ha]
    exact fun b hb => hb

theorem reports_sourceUnknown {p : Place} {f : Field} (hf : q.fieldAt p = some f) :
    Reports options q (sourceUnknown p.path f) (.sourceUnknown p) := by
  refine ⟨rfl, rfl, ?_, ?_, ?_⟩
  · simp [Defect.position, sourceUnknown, member?_withContext, List.lookup_cons]
  · simp only [Defect.field, hf, Option.map_some]
    rfl
  · simp only [Defect.sourceAlias, Defect.field, hf, Option.map_some]
    exact fun a ha => ha

/-! ## The defects that a rule lists -/

theorem findSelected_isNone_iff {f : Field} :
    (q.findSelected f).isNone = true ↔ ¬ ∃ g, q.FirstSelected f g := by
  simp only [← findSelected_eq_some_iff, ← Option.isSome_iff_exists, Option.isNone_iff_eq_none,
    Option.not_isSome_iff_eq_none]

theorem lists_sourcesPresent (q : Query) : Lists options q (sourcesPresent q) fun d =>
    d = .noSources ∧ q.sources.isEmpty = true :=
  lists_ite fun _ => ⟨rfl, rfl, by simp [Defect.position], rfl, fun a ha => by cases ha⟩

theorem lists_fieldsPresent (q : Query) : Lists options q (fieldsPresent q) fun d =>
    d = .noFields ∧ q.selectedFields.isEmpty = true :=
  lists_ite fun _ => ⟨rfl, rfl, by simp [Defect.position], rfl, fun a ha => by cases ha⟩

theorem lists_sourcesJoined (q : Query) : Lists options q (sourcesJoined q) fun d =>
    d = .notConnected ∧ ¬ q.sourceGraph.Preconnected := by
  have hnil := sourcesJoined_eq_nil_iff q
  have hunder := under_sourcesJoined q
  have hfield : ∀ m ∈ sourcesJoined q, m.field = none := by
    unfold sourcesJoined
    dsimp only
    split
    · simp
    · split
      · simp [tooFewJoins, Message.withContext, Message.error]
      · split
        · simp
        · simp [notJoined, Message.withContext, Message.withSource, Message.error]
  have hle := length_sourcesJoined_le q
  -- Whichever of its messages the rule has, there is one at most, and it names no field.
  cases hms : sourcesJoined q with
  | nil => exact lists_nil (by simp [← hnil, hms])
  | cons m ms =>
    rw [hms] at hle hunder
    have hone : ms = [] := List.eq_nil_of_length_eq_zero (by simpa using hle)
    obtain ⟨hcode, hseverity⟩ := hunder m (by simp)
    have hreports : Reports options q m .notConnected :=
      ⟨hcode, hseverity, by simp [Defect.position], hfield m (by simp [hms]), fun a ha => by cases ha⟩
    rw [hone]
    exact (lists_singleton hreports).congr fun d => by simp [← hnil, hms]

theorem lists_joinsResolve (q : Query) : Lists options q (joinsResolve q) fun d =>
    ∃ n j, q.joins[n]? = some j ∧
      (((d = .notSelected n .left ∧ ¬ ∃ f, q.FirstSelected j.left f) ∨
        (d = .notSelected n .right ∧ ¬ ∃ f, q.FirstSelected j.right f)) ∨
        (d = .withinSource n ∧ j.left.source = j.right.source)) := by
  refine lists_flatMap_zipIdx (fun n j hj => ?_) ?_
  · simp only [← findSelected_isNone_iff]
    refine ((lists_ite fun _ => reports_notSelected (by simp [Defect.field, hj])).append
      (lists_ite fun _ => reports_notSelected (by simp [Defect.field, hj])) ?_).append
      (lists_ite fun _ => reports_withinSource hj) ?_
    · rintro d e ⟨rfl, -⟩ ⟨rfl, -⟩
      simp [Defect.rank, Defect.code, Defect.rankInRule, List.cons_lt_cons_iff]
    · rintro d e (⟨rfl, -⟩ | ⟨rfl, -⟩) ⟨rfl, -⟩ <;>
        simp [Defect.rank, Defect.code, Defect.rankInRule, List.cons_lt_cons_iff]
  · rintro n k i j d e hnk ((⟨rfl, -⟩ | ⟨rfl, -⟩) | ⟨rfl, -⟩) ((⟨rfl, -⟩ | ⟨rfl, -⟩) | ⟨rfl, -⟩) <;>
      simp [Defect.rank, Defect.code, Defect.rankInRule, List.cons_lt_cons_iff, hnk]

theorem lists_joinsCompatible (q : Query) : Lists options q (joinsCompatible q) fun d =>
    ∃ n j, q.joins[n]? = some j ∧ d = .typesDiffer n ∧ ∃ l r, q.FirstSelected j.left l ∧
      q.FirstSelected j.right r ∧ ¬ TypesFit l.type r.type := by
  refine lists_flatMap_zipIdx (fun n j hj => ?_) ?_
  · simp only [← findSelected_eq_some_iff, ← joinable_iff, joinTypes]
    split
    · next l r hl hr =>
      have hreports : Reports options q (typesDiffer n l r) (.typesDiffer n) :=
        reports_typesDiffer hj (findSelected_eq_some_iff.1 hl) r
      exact (lists_ite_not fun _ => hreports).congr fun d => by simp [hl, hr]
    · next hnone =>
      refine lists_nil ?_
      rintro d ⟨-, l, r, hl, hr, -⟩
      exact hnone l r hl hr
  · rintro n k i j d e hnk ⟨rfl, -⟩ ⟨rfl, -⟩
    simp [Defect.rank, Defect.code, Defect.rankInRule, List.cons_lt_cons_iff, hnk]

theorem lists_operatorsAllowed (q : Query) : Lists options q (operatorsAllowed q) fun d =>
    ∃ n c, q.filters[n]? = some c ∧ d = .notAllowed n ∧ ¬ Allows c.field.type c.operator := by
  refine lists_flatMap_zipIdx (fun n c hc => ?_) ?_
  · simp only [allows_iff, operatorAllowed]
    split
    · next hnone => exact lists_nil (by simp [hnone])
    · next allowed hsome =>
      exact (lists_ite_not fun _ => reports_notAllowed hc allowed).congr fun d => by simp [hsome]
  · rintro n k b c d e hnk ⟨rfl, -⟩ ⟨rfl, -⟩
    simp [Defect.rank, Defect.code, Defect.rankInRule, List.cons_lt_cons_iff, hnk]

theorem lists_costs (q : Query) : Lists options q (costs options q) fun d =>
    (d = .manyFields ∧ options.maxSelectedFields < q.selectedFields.length) ∨
      (d = .noFilters ∧ (options.warnWithoutFilters && q.filters.isEmpty) = true) := by
  refine (lists_ite fun _ => reports_manyFields q _).append
    (lists_ite fun _ => reports_noFilters q) ?_
  rintro d e ⟨rfl, -⟩ ⟨rfl, -⟩
  simp [Defect.rank, Defect.code, Defect.rankInRule, List.cons_lt_cons_iff]

theorem mem_take_iff {α : Type} {as : List α} {a : α} {n : Nat} :
    a ∈ as.take n ↔ ∃ k < n, as[k]? = some a := by
  simp [List.mem_iff_getElem?, List.getElem?_take]

theorem lists_aliasesDiffer (q : Query) : Lists options q (aliasesDiffer q) fun d =>
    ∃ n a, q.aliases[n]? = some a ∧ d = .aliasRepeated n ∧ a ∈ q.aliases.take n := by
  refine lists_flatMap_zipIdx (fun n a ha => lists_ite fun _ => reports_aliasRepeated ha) ?_
  rintro n k a b d e hnk ⟨rfl, -⟩ ⟨rfl, -⟩
  simp [Defect.rank, Defect.code, Defect.rankInRule, List.cons_lt_cons_iff, hnk]

/-! ## References to unknown sources, part by part -/

/-- What the rule on unknown sources says of a field at a place. -/
def unknownAt (q : Query) (p : Place) (f : Field) : List Message :=
  if f.source ∈ q.aliases then [] else [sourceUnknown p.path f]

/-- What it says of all fields of a part. -/
def unknownIn (q : Query) (part : Part) : List Message :=
  (q.fieldsOf part).zipIdx.flatMap fun x => unknownAt q ⟨part, x.2⟩ x.1

/-- What it says of the joins, side by side. -/
def unknownInJoins (q : Query) : List Message :=
  q.joins.zipIdx.flatMap fun x =>
    unknownAt q ⟨.joinLeft, x.2⟩ x.1.left ++ unknownAt q ⟨.joinRight, x.2⟩ x.1.right

theorem sourcesKnown_eq (q : Query) : sourcesKnown q = if q.sources.isEmpty then [] else
    unknownIn q .selectedField ++ unknownInJoins q ++ unknownIn q .filter ++ unknownIn q .groupBy ++
      unknownIn q .having ++ unknownIn q .orderBy ++ unknownIn q .aggregate := by
  unfold sourcesKnown
  refine if_congr .rfl rfl ?_
  simp [references, placed, unknownIn, unknownInJoins, unknownAt, fieldsOf, List.flatMap_map,
    List.zipIdx_map, List.flatMap_assoc, Place.path, Part.list, Part.member, toString]

/-- The defect is a field of the part that belongs to no source. -/
def Dangling (q : Query) (part : Part) (d : Defect) : Prop :=
  ∃ n f, (q.fieldsOf part)[n]? = some f ∧ d = .sourceUnknown ⟨part, n⟩ ∧ f.source ∉ q.aliases

theorem Dangling.rank_lt {part part' : Part} {d e : Defect} (h : Dangling q part d)
    (h' : Dangling q part' e) (hlt : part.listRank < part'.listRank) : d.rank < e.rank := by
  obtain ⟨n, f, -, rfl, -⟩ := h
  obtain ⟨n', f', -, rfl, -⟩ := h'
  simp [Defect.rank, Defect.code, Defect.rankInRule, Place.rank, List.cons_lt_cons_iff, hlt]

theorem lists_unknownIn (q : Query) (part : Part) :
    Lists options q (unknownIn q part) (Dangling q part) := by
  refine lists_flatMap_zipIdx (fun n f hf => lists_ite_not fun _ => reports_sourceUnknown hf) ?_
  rintro n k f g d e hnk ⟨rfl, -⟩ ⟨rfl, -⟩
  simp [Defect.rank, Defect.code, Defect.rankInRule, Place.rank, List.cons_lt_cons_iff, hnk]

theorem lists_unknownInJoins (q : Query) : Lists options q (unknownInJoins q) fun d =>
    Dangling q .joinLeft d ∨ Dangling q .joinRight d := by
  -- Both sides of a join come before those of the next, so this is one list and not two.
  have hlists : Lists options q (unknownInJoins q) fun d => ∃ n j, q.joins[n]? = some j ∧
      ((d = .sourceUnknown ⟨.joinLeft, n⟩ ∧ j.left.source ∉ q.aliases) ∨
        (d = .sourceUnknown ⟨.joinRight, n⟩ ∧ j.right.source ∉ q.aliases)) := by
    refine lists_flatMap_zipIdx (fun n j hj => ?_) ?_
    · have hleft : q.fieldAt ⟨.joinLeft, n⟩ = some j.left := by simp [fieldAt, fieldsOf, hj]
      have hright : q.fieldAt ⟨.joinRight, n⟩ = some j.right := by simp [fieldAt, fieldsOf, hj]
      refine (lists_ite_not fun _ => reports_sourceUnknown hleft).append
        (lists_ite_not fun _ => reports_sourceUnknown hright) ?_
      rintro d e ⟨rfl, -⟩ ⟨rfl, -⟩
      simp [Defect.rank, Defect.code, Defect.rankInRule, Place.rank, List.cons_lt_cons_iff,
        Part.listRank, Part.sideRank]
    · rintro n k i j d e hnk (⟨rfl, -⟩ | ⟨rfl, -⟩) (⟨rfl, -⟩ | ⟨rfl, -⟩) <;>
        simp [Defect.rank, Defect.code, Defect.rankInRule, Place.rank, List.cons_lt_cons_iff,
          Part.listRank, hnk]
  refine hlists.congr fun d => ?_
  simp only [Dangling, fieldsOf, List.getElem?_map, Option.map_eq_some_iff]
  constructor
  · rintro ⟨n, j, hj, ⟨hd, h⟩ | ⟨hd, h⟩⟩
    · exact .inl ⟨n, j.left, ⟨j, hj, rfl⟩, hd, h⟩
    · exact .inr ⟨n, j.right, ⟨j, hj, rfl⟩, hd, h⟩
  · rintro (⟨n, f, ⟨j, hj, rfl⟩, hd, h⟩ | ⟨n, f, ⟨j, hj, rfl⟩, hd, h⟩)
    · exact ⟨n, j, hj, .inl ⟨hd, h⟩⟩
    · exact ⟨n, j, hj, .inr ⟨hd, h⟩⟩

theorem exists_dangling_iff {d : Defect} : (∃ part, Dangling q part d) ↔
    ∃ p, d = .sourceUnknown p ∧ ∃ f, q.fieldAt p = some f ∧ f.source ∉ q.aliases := by
  constructor
  · rintro ⟨part, n, f, hf, hd, h⟩
    exact ⟨⟨part, n⟩, hd, f, hf, h⟩
  · rintro ⟨⟨part, n⟩, hd, f, hf, h⟩
    exact ⟨part, n, f, hf, hd, h⟩

theorem lists_sourcesKnown (q : Query) : Lists options q (sourcesKnown q) fun d =>
    q.sources ≠ [] ∧ ∃ part, Dangling q part d := by
  rw [sourcesKnown_eq]
  split
  · next hempty => exact lists_nil (by simp [List.isEmpty_iff.1 hempty])
  · next hsome =>
    refine ((((((lists_unknownIn q .selectedField).append (lists_unknownInJoins q) ?_).append
      (lists_unknownIn q .filter) ?_).append (lists_unknownIn q .groupBy) ?_).append
      (lists_unknownIn q .having) ?_).append (lists_unknownIn q .orderBy) ?_).append
      (lists_unknownIn q .aggregate) ?_ |>.congr fun d => ?_
    · rintro d e h (h' | h') <;> exact h.rank_lt h' (by decide)
    · rintro d e (h | h | h) h' <;> exact h.rank_lt h' (by decide)
    · rintro d e ((h | h | h) | h) h' <;> exact h.rank_lt h' (by decide)
    · rintro d e (((h | h | h) | h) | h) h' <;> exact h.rank_lt h' (by decide)
    · rintro d e ((((h | h | h) | h) | h) | h) h' <;> exact h.rank_lt h' (by decide)
    · rintro d e (((((h | h | h) | h) | h) | h) | h) h' <;> exact h.rank_lt h' (by decide)
    · constructor
      · intro h
        refine ⟨by simpa using hsome, ?_⟩
        rcases h with (((((h | h | h) | h) | h) | h) | h) | h <;> exact ⟨_, h⟩
      · rintro ⟨-, part, h⟩
        cases part <;> simp only [h, true_or, or_true]

/-! ## The report -/

/-- The rule of a code lists the defects under its code. -/
theorem lists_rule (options : Options) (q : Query) (c : Code) :
    Lists options q (rule options q c) fun d => d.code = c ∧ d.In options q := by
  cases c with
  | noSources =>
    refine (lists_sourcesPresent q).congr fun d => ?_
    cases d <;> simp [Defect.code, Defect.In]
  | noFields =>
    refine (lists_fieldsPresent q).congr fun d => ?_
    cases d <;> simp [Defect.code, Defect.In]
  | missingJoins =>
    refine (lists_sourcesJoined q).congr fun d => ?_
    cases d <;> simp [Defect.code, Defect.In]
  | invalidJoin =>
    refine (lists_joinsResolve q).congr fun d => ?_
    rcases d with _ | _ | _ | ⟨n, _ | _⟩ <;> simp [Defect.code, Defect.In]
  | incompatibleTypes =>
    refine (lists_joinsCompatible q).congr fun d => ?_
    cases d <;> simp [Defect.code, Defect.In]
  | invalidOperator =>
    refine (lists_operatorsAllowed q).congr fun d => ?_
    cases d <;> simp [Defect.code, Defect.In]
  | performanceWarning =>
    refine (lists_costs q).congr fun d => ?_
    cases d <;> simp [Defect.code, Defect.In]
  | duplicateAlias =>
    refine (lists_aliasesDiffer q).congr fun d => ?_
    cases d <;> simp [Defect.code, Defect.In, mem_take_iff]
  | unknownSource =>
    refine (lists_sourcesKnown q).congr fun d => ?_
    cases d <;> simp [Defect.code, Defect.In, exists_dangling_iff]

/-- Rules in their order list the defects under their codes. -/
theorem lists_flatMap_rule (options : Options) (q : Query) {cs : List Code}
    (hcs : cs.Pairwise fun c c' => Code.inOrder.idxOf c < Code.inOrder.idxOf c') :
    Lists options q (cs.flatMap (rule options q)) fun d => d.code ∈ cs ∧ d.In options q := by
  induction cs with
  | nil => exact lists_nil (by simp)
  | cons c cs ih =>
    obtain ⟨hc, hcs⟩ := List.pairwise_cons.1 hcs
    refine ((lists_rule options q c).append (ih hcs) ?_).congr fun d => ?_
    · rintro d e ⟨rfl, -⟩ ⟨he, -⟩
      exact List.cons_lt_cons_iff.2 (.inl (hc e.code he))
    · rw [List.mem_cons, or_and_right]

theorem lists_messages (options : Options) (q : Query) :
    Lists options q (messages options q) (·.In options q) := by
  rw [messages_eq_flatMap_rule]
  refine (lists_flatMap_rule options q (by decide)).congr fun d => ?_
  simp [Code.mem_inOrder]

/-- What holds of the defects of messages that come one after the other holds of the messages. -/
theorem pairwise_of_reports {ds : List Defect} {R : Message → Message → Prop}
    (h : List.Forall₂ (Reports options q) ms ds) (hds : ds.Pairwise fun d e => d.rank < e.rank)
    (hR : ∀ m m' d e, Reports options q m d → Reports options q m' e → d.rank < e.rank → R m m') :
    ms.Pairwise R := by
  obtain ⟨hlen, hreports⟩ := List.forall₂_iff_get.1 h
  rw [List.pairwise_iff_getElem] at hds ⊢
  intro i k hi hk hik
  exact hR _ _ _ _ (hreports i hi (hlen ▸ hi)) (hreports k hk (hlen ▸ hk)) (hds i k _ _ hik)

/-- Two messages on unknown sources are about different paths, if their defects differ. -/
theorem path_ne_of_reports {m m' : Message} {d e : Defect} (hm : Reports options q m d)
    (hm' : Reports options q m' e) (hlt : d.rank < e.rank) (hcode : m.code = .unknownSource)
    (hcode' : m'.code = .unknownSource) : m.member? "path" ≠ m'.member? "path" := by
  rw [hm.code] at hcode
  rw [hm'.code] at hcode'
  cases d with
  | sourceUnknown p =>
    cases e with
    | sourceUnknown p' =>
      rw [hm.position ("path", _) (by simp [Defect.position]; rfl),
        hm'.position ("path", _) (by simp [Defect.position]; rfl)]
      intro heq
      have hpp : p = p' := path_injective (by simpa using heq)
      rw [hpp] at hlt
      exact absurd hlt (List.lt_irrefl _)
    | _ => cases hcode'
  | _ => cases hcode

/-- A report says of every defect of the query exactly once that it is there and where, in the order
of the rules and of the parts of the query. A source is reported as repeated for each position
whose alias an earlier one has, and no path is reported twice. -/
theorem report_lists_defects (options : Options) (now : Timestamp) (q : Query) :
    Lists options q (validate options now q).messages (·.In options q) ∧
      (validate options now q).codes.count .duplicateAlias =
        q.sources.length - q.aliases.toFinset.card ∧
      (validate options now q).messages.Pairwise fun m m' => m.code = .unknownSource →
        m'.code = .unknownSource → m.member? "path" ≠ m'.member? "path" := by
  have hlists := lists_messages options q
  refine ⟨hlists, ?_, ?_⟩
  · have hlen := length_aliasesDiffer_add q
    have hsources : q.aliases.length = q.sources.length := List.length_map _
    rw [count_codes, rule]
    omega
  · obtain ⟨ds, hreports, hsorted, -⟩ := hlists
    refine pairwise_of_reports hreports hsorted fun m m' d e hm hm' hlt hcode hcode' => ?_
    exact path_ne_of_reports hm hm' hlt hcode hcode'

end Validation

end CrossSource
