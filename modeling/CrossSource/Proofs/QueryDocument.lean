import CrossSource.Proofs.Records
/-!
# Query documents tell all of a query

Each part of a query is read back from its document, if the names of its types tell the types and
its instants are in range (`Query.restores`). A query that is read from any document at all is of
that kind (`Query.ensures_encodable`), so reading, writing and reading again comes to the same
(`Query.decode_undoes_encode`).
-/

namespace CrossSource

open Document
open Document.Decoder (Restores restores_any restores_bool restores_list restores_string
  restores_timestamp restores_uint64 ensures_map ensures_timestamp)
open Document.Fields (decode_object exists_read_map exists_read_seq read_required read_defaulting
  read_optional read_optional_string read_nonempty ensures_decode ensures_required
  ensures_defaulting)

namespace FieldType

/-- The types that have a name of their own. -/
def known : List FieldType := [string, number, decimal, date, boolean]

/-- No other type goes by the name of a known one. -/
def Proper (t : FieldType) : Prop := ∀ s, t = .other s → s ∉ known.map name

theorem ofName_name {t : FieldType} (h : t.Proper) : ofName t.name = t := by
  cases t with
  | other s =>
    have hs := h s rfl
    simp only [known, List.map_cons, List.map_nil, name, List.mem_cons, List.not_mem_nil, or_false,
      not_or] at hs
    simp [ofName, name, hs]
  | _ => rfl

theorem proper_ofName (s : String) : (ofName s).Proper := by
  unfold ofName
  repeat' split
  case isFalse.isFalse.isFalse.isFalse.isFalse =>
    rintro _ ⟨⟩
    simp_all [known, name]
  all_goals nofun

theorem restores {t : FieldType} (h : t.Proper) : Restores decode encode t :=
  congrArg Except.ok (ofName_name h)

theorem ensures_proper : decode.Ensures Proper := ensures_map proper_ofName

end FieldType

namespace Field

/-- The name of the type tells the type. -/
def Proper (f : Field) : Prop := f.type.Proper

theorem restores {f : Field} (h : f.Proper) : Restores decode encode f := by
  refine decode_object ?_
  unfold fields
  simp only [exists_read_seq, exists_read_map]
  refine ⟨f.name, read_required ?_ (restores_string f.name),
    f.type, read_required ?_ (FieldType.restores h),
    f.source, read_required ?_ (restores_string f.source),
    f.table, read_optional_string ?_, f.aliasName, read_optional_string ?_,
    f.description, read_optional_string ?_, f.expression, read_optional_string ?_, rfl⟩
  all_goals simp [List.lookup_append, lookup_member]

theorem ensures_proper : decode.Ensures Proper := by
  refine ensures_decode (fun parts f h => ?_) _
  unfold fields at h
  simp only [exists_read_seq, exists_read_map] at h
  obtain ⟨name, -, type, htype, source, -, table, -, aliasName, -, description, -, expression, -,
    rfl⟩ := h
  show type.Proper
  exact ensures_required htype FieldType.ensures_proper

end Field

theorem QuerySource.restores (s : QuerySource) : Restores decode encode s := by
  refine decode_object ?_
  unfold fields
  simp only [exists_read_seq, exists_read_map]
  refine ⟨s.sourceId, read_required ?_ (restores_string s.sourceId),
    s.table, read_optional_string ?_,
    s.aliasName, read_required ?_ (restores_string s.aliasName), rfl⟩
  all_goals simp [List.lookup_append, lookup_member]

/-! ## Names from a fixed set -/

theorem JoinKind.restores (k : JoinKind) : Restores decode encode k := by cases k <;> rfl

theorem Operator.restores (o : Operator) : Restores decode encode o := by cases o <;> rfl

theorem Connective.restores (c : Connective) : Restores decode encode c := by cases c <;> rfl

theorem Direction.restores (d : Direction) : Restores decode encode d := by cases d <;> rfl

theorem Summary.restores (s : Summary) : Restores decode encode s := by cases s <;> rfl

/-! ## Joins, filters, sorting and summaries

They are proper if their fields are.
-/

namespace Join

def Proper (j : Join) : Prop := j.left.Proper ∧ j.right.Proper

theorem restores {j : Join} (h : j.Proper) : Restores decode encode j := by
  refine decode_object ?_
  unfold fields
  simp only [exists_read_seq, exists_read_map]
  refine ⟨j.left, read_required ?_ (Field.restores h.1),
    j.right, read_required ?_ (Field.restores h.2),
    j.kind, read_required ?_ (JoinKind.restores j.kind), rfl⟩
  all_goals simp [lookup_member]

theorem ensures_proper : decode.Ensures Proper := by
  refine ensures_decode (fun parts j h => ?_) _
  unfold fields at h
  simp only [exists_read_seq, exists_read_map] at h
  obtain ⟨left, hleft, right, hright, kind, -, rfl⟩ := h
  exact ⟨ensures_required hleft Field.ensures_proper,
    ensures_required hright Field.ensures_proper⟩

end Join

namespace Filter

def Proper (f : Filter) : Prop := f.field.Proper

theorem restores {f : Filter} (h : f.Proper) : Restores decode encode f := by
  refine decode_object ?_
  unfold fields
  simp only [exists_read_seq, exists_read_map]
  refine ⟨f.field, read_required ?_ (Field.restores h),
    f.operator, read_required ?_ (Operator.restores f.operator),
    f.value, read_defaulting ?_ (restores_any f.value),
    f.connective, read_optional ?_ (fun c _ => Connective.restores c) fun _ => nofun, rfl⟩
  all_goals simp [List.lookup_append, lookup_member]

theorem ensures_proper : decode.Ensures Proper := by
  refine ensures_decode (fun parts f h => ?_) _
  unfold fields at h
  simp only [exists_read_seq, exists_read_map] at h
  obtain ⟨field, hfield, operator, -, value, -, connective, -, rfl⟩ := h
  show field.Proper
  exact ensures_required hfield Field.ensures_proper

end Filter

namespace SortKey

def Proper (s : SortKey) : Prop := s.field.Proper

theorem restores {s : SortKey} (h : s.Proper) : Restores decode encode s := by
  refine decode_object ?_
  unfold fields
  simp only [exists_read_seq, exists_read_map]
  refine ⟨s.field, read_required ?_ (Field.restores h),
    s.direction, read_required ?_ (Direction.restores s.direction), rfl⟩
  all_goals simp [lookup_member]

theorem ensures_proper : decode.Ensures Proper := by
  refine ensures_decode (fun parts s h => ?_) _
  unfold fields at h
  simp only [exists_read_seq, exists_read_map] at h
  obtain ⟨field, hfield, direction, -, rfl⟩ := h
  show field.Proper
  exact ensures_required hfield Field.ensures_proper

end SortKey

namespace Aggregate

def Proper (a : Aggregate) : Prop := a.field.Proper

theorem restores {a : Aggregate} (h : a.Proper) : Restores decode encode a := by
  refine decode_object ?_
  unfold fields
  simp only [exists_read_seq, exists_read_map]
  refine ⟨a.field, read_required ?_ (Field.restores h),
    a.summary, read_required ?_ (Summary.restores a.summary),
    a.aliasName, read_required ?_ (restores_string a.aliasName), rfl⟩
  all_goals simp [lookup_member]

theorem ensures_proper : decode.Ensures Proper := by
  refine ensures_decode (fun parts a h => ?_) _
  unfold fields at h
  simp only [exists_read_seq, exists_read_map] at h
  obtain ⟨field, hfield, summary, -, aliasName, -, rfl⟩ := h
  show field.Proper
  exact ensures_required hfield Field.ensures_proper

end Aggregate

/-! ## Queries -/

namespace Query

/-- The names of all types tell the types, and both instants are in range. -/
structure Encodable (q : Query) : Prop where
  selected : ∀ f ∈ q.selectedFields, f.Proper
  joins : ∀ j ∈ q.joins, j.Proper
  filters : ∀ f ∈ q.filters, f.Proper
  groupBy : ∀ f ∈ q.groupBy, f.Proper
  having : ∀ f ∈ q.having, f.Proper
  orderBy : ∀ s ∈ q.orderBy, s.Proper
  aggregates : ∀ a ∈ q.aggregates, a.Proper
  createdAt : q.createdAt.InRange
  updatedAt : q.updatedAt.InRange

theorem restores {q : Query} (h : q.Encodable) : Restores decode encode q := by
  refine decode_object ?_
  unfold fields
  simp only [exists_read_seq, exists_read_map]
  -- Field by field, which leaves to show where each one stands among the members.
  refine ⟨q.id, read_required ?_ (restores_string q.id),
    q.name, read_required ?_ (restores_string q.name),
    q.description, read_optional_string ?_,
    q.sources, read_defaulting ?_ (restores_list fun s _ => s.restores),
    q.selectedFields, read_defaulting ?_ (restores_list fun f hf =>
      Field.restores (h.selected f hf)),
    q.joins, read_defaulting ?_ (restores_list fun j hj => Join.restores (h.joins j hj)),
    q.filters, read_defaulting ?_ (restores_list fun f hf => Filter.restores (h.filters f hf)),
    q.groupBy, read_nonempty ?_ fun f hf => Field.restores (h.groupBy f hf),
    q.having, read_nonempty ?_ fun f hf => Filter.restores (h.having f hf),
    q.orderBy, read_nonempty ?_ fun s hs => SortKey.restores (h.orderBy s hs),
    q.aggregates, read_nonempty ?_ fun a ha => Aggregate.restores (h.aggregates a ha),
    q.limit, read_optional ?_ (fun n _ => restores_uint64 n) fun _ => nofun,
    q.createdAt, read_required ?_ (restores_timestamp h.createdAt),
    q.updatedAt, read_required ?_ (restores_timestamp h.updatedAt),
    q.createdBy, read_optional_string ?_,
    q.isTemplate, read_defaulting ?_ (restores_bool q.isTemplate),
    q.tags, read_nonempty ?_ fun s _ => restores_string s,
    q.nextAlias, read_defaulting ?_ (restores_uint64 q.nextAlias), rfl⟩
  all_goals simp [List.lookup_append, lookup_member]

theorem ensures_encodable : decode.Ensures Encodable := by
  refine ensures_decode (fun parts q h => ?_) _
  unfold fields at h
  simp only [exists_read_seq, exists_read_map] at h
  obtain ⟨id, -, name, -, description, -, sources, -, selected, hselected, joins, hjoins,
    filters, hfilters, groupBy, hgroupBy, having', hhaving, orderBy, horderBy, aggregates,
    haggregates, limit, -, createdAt, hcreatedAt, updatedAt, hupdatedAt, createdBy, -,
    isTemplate, -, tags, -, nextAlias, -, rfl⟩ := h
  exact {
    selected := ensures_defaulting hselected Field.ensures_proper.list (by simp)
    joins := ensures_defaulting hjoins Join.ensures_proper.list (by simp)
    filters := ensures_defaulting hfilters Filter.ensures_proper.list (by simp)
    groupBy := ensures_defaulting hgroupBy Field.ensures_proper.list (by simp)
    having := ensures_defaulting hhaving Filter.ensures_proper.list (by simp)
    orderBy := ensures_defaulting horderBy SortKey.ensures_proper.list (by simp)
    aggregates := ensures_defaulting haggregates Aggregate.ensures_proper.list (by simp)
    createdAt := ensures_required hcreatedAt ensures_timestamp
    updatedAt := ensures_required hupdatedAt ensures_timestamp }

/-- Decoding undoes encoding for every query that can be encoded, and so for every query that comes
from a document. -/
theorem decode_undoes_encode :
    (∀ q : Query, q.Encodable → decode .value (.ofValue q.encode) = .ok q) ∧
      ∀ (v : Value) (q : Query), decode .value (.ofValue v) = .ok q →
        decode .value (.ofValue q.encode) = .ok q :=
  ⟨fun _ h => restores h, fun _ q h => restores (ensures_encodable _ _ q h)⟩

/-- A query made in a leap second, with a type in a spelling of its own, a condition without a
value and lists and options without content. -/
def madeInLeapSecond : Query :=
  let size := { Field.plain "s1" "size" (.other "Number") with expression := some "" }
  { Query.new "q" "leap" ⟨1483228799, 1500000000⟩ with
    sources := [⟨"x", none, "s1"⟩]
    selectedFields := [size]
    filters := [⟨size, .isIn, .null, some .or⟩, ⟨size, .between, .arr [.float 0.5, .obj []], none⟩]
    limit := some 18446744073709551615
    updatedAt := ⟨-62198755200, 1⟩
    nextAlias := 2 }

/-- A document that leaves most to the defaults and gives its instants in other ways than they are
written in. -/
def shortDocument : Value :=
  .object [("name", .str "short"), ("id", .str ""), ("limit", .null), ("sort", .bool true),
    ("createdAt", .str "2016-12-31 23:59:60.25z"), ("updatedAt", .str "+12000-2-9T0:5:3-0130")]

theorem decode_undoes_encode_leapSecond : madeInLeapSecond.Encodable ∧
    decode .value (.ofValue madeInLeapSecond.encode) = .ok madeInLeapSecond ∧
      ∃ q, decode .value (.ofValue shortDocument) = .ok q ∧ q.createdAt.isLeap = true ∧
        decode .value (.ofValue q.encode) = .ok q := by
  have hsize : (FieldType.other "Number").Proper := by
    rintro _ ⟨⟩
    decide
  have h : madeInLeapSecond.Encodable :=
    { selected := List.forall_mem_singleton.2 hsize
      joins := List.forall_mem_nil _
      filters := List.forall_mem_cons.2 ⟨hsize, List.forall_mem_singleton.2 hsize⟩
      groupBy := List.forall_mem_nil _
      having := List.forall_mem_nil _
      orderBy := List.forall_mem_nil _
      aggregates := List.forall_mem_nil _
      createdAt := by decide +kernel
      updatedAt := by decide +kernel }
  have hshort : decode .value (.ofValue shortDocument) =
      .ok { Query.new "" "short" ⟨1483228799, 1250000000⟩ with
        updatedAt := ⟨316519580103, 0⟩ } := rfl
  exact ⟨h, decode_undoes_encode.1 _ h, _, hshort, rfl, decode_undoes_encode.2 _ _ hshort⟩

end Query

end CrossSource
