import CrossSource.Catalog.Document
import CrossSource.Proofs.Records
import CrossSource.Proofs.Spellings
/-!
# Catalog documents tell all of a data source

The settings of a connection are read back from among the members of the data source that they are
written with, whatever stands beside them (`Connection.ofMembers_ofValues`). A data source is read
back from its document if its column types are settled, which those that are read from a document
always are, so reading a catalog once settles it (`DataSource.reading_settles`).
-/

namespace CrossSource.Catalog

open Document
open Document.Decoder (Restores string_ofValue bool_ofValue below_ofValue option_ofValue
  object_ofValue restores_bool restores_list restores_string ensures_map)
open Document.Fields (decode_object exists_read_map exists_read_seq ofMembers_ofValues
  read_field_ofValues read_required read_defaulting read_optional_string read_of_readAfter
  ensures_decode ensures_required ensures_defaulting)

/-! ## Names from a fixed set -/

theorem Status.restores (s : Status) : Restores Status.decode Status.encode s := by
  cases s <;> rfl

theorem Kind.nameOf_encode (source : Source) (k : Kind) :
    Decoder.nameOf Kind.names source (.ofValue k.encode) = .ok k := by
  cases k <;> rfl

/-! ## Settings of a connection

They are read from members that are put aside, of which some may belong to others.
-/

variable {source : Source} {ms : List (String × Value)}

theorem word16_ofValue (n : UInt16) :
    (Decoder.word16.map UInt16.ofNat) source (.ofValue (.nat n.toNat)) = .ok n := by
  have hlt : n.toNat < Number.twoTo 16 := n.toNat_lt
  rw [Decoder.map, Decoder.word16, below_ofValue hlt]
  exact congrArg Except.ok UInt16.ofNat_toNat

theorem character_ofValue (c : Char) :
    Decoder.character source (.ofValue (.str c.toString)) = .ok c := by
  have hlist : c.toString.toList = [c] := by simp
  simp only [Node.ofValue, Decoder.character, hlist]

theorem FileFormat.decode_ofValue (f : FileFormat) : decode source (.ofValue f.encode) = .ok f := by
  cases f <;> cases source <;> rfl

theorem Method.decode_ofValue (m : Method) : decode source (.ofValue m.encode) = .ok m := by
  cases m <;> cases source <;> rfl

/-- A value is read back that is written as null if it is absent. -/
theorem option_nullable {α : Type} {d : Decoder α} {encode : α → Value}
    (h : ∀ a, d source (.ofValue (encode a)) = .ok a) (hnull : ∀ a, encode a ≠ .null)
    (o : Option α) : d.option source (.ofValue (nullable (o.map encode))) = .ok o := by
  cases o with
  | none => rfl
  | some a => exact option_ofValue (hnull a) (h a)

/-- A member among others of distinct names is found by its name. -/
theorem lookup_of_subset {members : List (String × Value)} (hms : (ms.map Prod.fst).Nodup)
    (h : members ⊆ ms) {name : String} {v : Value} (hm : (name, v) ∈ members) :
    ms.lookup name = some v := (Keyed.lookup_eq_some_iff hms).2 (h hm)

theorem Database.decode_ofValues (d : Database) (hms : (ms.map Prod.fst).Nodup)
    (h : d.members ⊆ ms) : decode source (.map (membersOfValues ms) none) = .ok d := by
  refine ofMembers_ofValues hms ?_
  unfold fields
  simp only [exists_read_seq, exists_read_map]
  refine ⟨d.driver, read_field_ofValues ?_ (string_ofValue d.driver),
    d.host, read_field_ofValues ?_ (string_ofValue d.host),
    d.port, read_field_ofValues ?_ (option_nullable word16_ofValue (fun _ => nofun) d.port),
    d.database, read_field_ofValues ?_ (string_ofValue d.database), rfl⟩
  all_goals exact lookup_of_subset hms h (by simp [members])

theorem FileSettings.decode_ofValues (f : FileSettings) (hms : (ms.map Prod.fst).Nodup)
    (h : f.members ⊆ ms) : decode source (.map (membersOfValues ms) none) = .ok f := by
  refine ofMembers_ofValues hms ?_
  unfold fields
  simp only [exists_read_seq, exists_read_map]
  refine ⟨f.format, read_field_ofValues ?_ (FileFormat.decode_ofValue f.format),
    f.path, read_field_ofValues ?_ (string_ofValue f.path),
    f.delimiter, read_field_ofValues ?_
      (option_nullable character_ofValue (fun _ => nofun) f.delimiter),
    f.hasHeader, read_field_ofValues ?_ (bool_ofValue f.hasHeader), rfl⟩
  all_goals exact lookup_of_subset hms h (by simp [members])

theorem Api.decode_ofValues (hordered : source.ordered = true) (a : Api)
    (hms : (ms.map Prod.fst).Nodup) (h : a.members ⊆ ms) :
    decode source (.map (membersOfValues ms) none) = .ok a := by
  refine ofMembers_ofValues hms ?_
  unfold fields
  simp only [exists_read_seq, exists_read_map]
  refine ⟨a.baseUrl, read_field_ofValues ?_ (string_ofValue a.baseUrl),
    a.method, read_field_ofValues ?_ (Method.decode_ofValue a.method),
    a.headers, read_field_ofValues ?_
      (object_ofValue hordered fun e _ => string_ofValue e.2), rfl⟩
  all_goals exact lookup_of_subset hms h (by simp [members])

/-! ## The tag among the members -/

namespace Connection

theorem splitTag_of_missing (h : "type" ∉ ms.map Prod.fst) :
    splitTag source (membersOfValues ms) = .ok (none, membersOfValues ms) := by
  induction ms with
  | nil => rfl
  | cons m ms ih =>
    obtain ⟨k, v⟩ := m
    rw [List.map_cons, List.mem_cons, not_or] at h
    rw [membersOfValues, splitTag, if_neg (Ne.symm h.1), ih h.2]
    rfl

/-- The tag is found wherever it stands, and the other members keep their order. -/
theorem splitTag_ofValues {k : Kind} (hms : (ms.map Prod.fst).Nodup) (h : ("type", k.encode) ∈ ms) :
    splitTag source (membersOfValues ms) =
      .ok (some k, membersOfValues (ms.filter (·.1 ≠ "type"))) := by
  induction ms with
  | nil => cases h
  | cons m ms ih =>
    obtain ⟨n, v⟩ := m
    obtain ⟨hn, hms⟩ := List.nodup_cons.1 hms
    rw [membersOfValues, splitTag]
    by_cases htag : n = "type"
    -- The names are distinct, so there is no other tag behind this one.
    · subst htag
      have hrest : ms.filter (·.1 ≠ "type") = ms := by
        refine List.filter_eq_self.2 fun m hm => ?_
        simp only [ne_eq, decide_eq_true_eq]
        exact fun heq => hn (List.mem_map.2 ⟨m, hm, heq⟩)
      have hv : v = k.encode := by
        rcases List.mem_cons.1 h with heq | hmem
        · cases heq
          rfl
        · exact absurd (List.mem_map_of_mem hmem) hn
      subst hv
      rw [if_pos rfl, Kind.nameOf_encode, splitTag_of_missing hn,
        List.filter_cons_of_neg (by simp), hrest]
      rfl
    · have hmem : ("type", k.encode) ∈ ms :=
        (List.mem_cons.1 h).resolve_left fun heq => htag (congrArg Prod.fst heq).symm
      rw [if_neg htag, ih hms hmem, List.filter_cons_of_pos (by simpa using htag)]
      rfl

theorem decodeSettings_ofValues (hordered : source.ordered = true) (c : Connection)
    (hms : (ms.map Prod.fst).Nodup) (h : c.settings ⊆ ms) :
    decodeSettings c.kind source (.map (membersOfValues ms) none) = .ok c := by
  -- The settings were put aside, which leaves the order of the members as it is in the source.
  cases c with
  | database d => exact congrArg (Except.map database) (d.decode_ofValues hms h)
  | file f => exact congrArg (Except.map file) (f.decode_ofValues hms h)
  | api a =>
    have haside : (Source.aside source).ordered = true := hordered
    exact congrArg (Except.map api) (a.decode_ofValues haside hms h)

theorem tag_not_mem_settings (c : Connection) : "type" ∉ c.settings.map Prod.fst := by
  cases c <;> simp [settings, Database.members, FileSettings.members, Api.members]

/-- A connection is read back from its members wherever they stand among others. -/
theorem ofMembers_ofValues (hordered : source.ordered = true) (c : Connection)
    (hms : (ms.map Prod.fst).Nodup) (h : c.members ⊆ ms) :
    ofMembers source (membersOfValues ms) = .ok c := by
  obtain ⟨htag, hsettings⟩ := List.cons_subset.1 h
  have hrest : c.settings ⊆ ms.filter (·.1 ≠ "type") := by
    intro m hm
    refine List.mem_filter.2 ⟨hsettings hm, ?_⟩
    simp only [ne_eq, decide_eq_true_eq]
    exact fun heq => c.tag_not_mem_settings (List.mem_map.2 ⟨m, hm, heq⟩)
  rw [ofMembers, splitTag_ofValues hms htag]
  exact decodeSettings_ofValues hordered c (Keyed.nodup_filter _ hms) hrest

end Connection

/-! ## Tables

They are settled if the types of their columns are.
-/

namespace Column

def Settled (c : Column) : Prop := c.type.Settled

theorem restores {c : Column} (h : c.Settled) : Restores decode encode c := by
  have htype : Restores (Decoder.string.map FieldType.ofSpelling) FieldType.encode c.type :=
    congrArg Except.ok h
  refine decode_object ?_
  unfold fields
  simp only [exists_read_seq, exists_read_map]
  refine ⟨c.name, read_required ?_ (restores_string c.name), c.type, read_required ?_ htype,
    c.nullable, read_defaulting ?_ (restores_bool c.nullable), rfl⟩
  all_goals simp [lookup_member]

theorem ensures_settled : decode.Ensures Settled := by
  refine ensures_decode (fun parts c h => ?_) _
  unfold fields at h
  simp only [exists_read_seq, exists_read_map] at h
  obtain ⟨name, -, type, htype, nullable, -, rfl⟩ := h
  show type.Settled
  exact ensures_required htype (ensures_map FieldType.settled_ofSpelling)

end Column

namespace Table

def Settled (t : Table) : Prop := ∀ c ∈ t.columns, c.Settled

theorem restores {t : Table} (h : t.Settled) : Restores decode encode t := by
  refine decode_object ?_
  unfold fields
  simp only [exists_read_seq, exists_read_map]
  refine ⟨t.name, read_required ?_ (restores_string t.name), t.schema, read_optional_string ?_,
    t.columns, read_defaulting ?_ (restores_list fun c hc => Column.restores (h c hc)), rfl⟩
  all_goals simp [List.lookup_append, lookup_member]

theorem ensures_settled : decode.Ensures Settled := by
  refine ensures_decode (fun parts t h => ?_) _
  unfold fields at h
  simp only [exists_read_seq, exists_read_map] at h
  obtain ⟨name, -, schema, -, columns, hcolumns, rfl⟩ := h
  show ∀ c ∈ columns, c.Settled
  exact ensures_defaulting hcolumns Column.ensures_settled.list (by simp)

end Table

theorem restores_tables {ts : List Table} (h : ∀ t ∈ ts, t.Settled) :
    Restores decodeTables encodeTables ts := by
  have hlist := restores_list fun t ht => Table.restores (h t ht)
  exact decode_object ⟨ts, read_defaulting (by simp) hlist, rfl⟩

theorem ensures_settled_tables : decodeTables.Ensures fun ts => ∀ t ∈ ts, t.Settled := by
  refine ensures_decode (fun parts ts h => ?_) _
  obtain ⟨_, h, rfl⟩ := h
  exact ensures_defaulting h Table.ensures_settled.list (by simp)

/-! ## Data sources -/

namespace DataSource

/-- The types of all columns are read back from their own names. -/
def Settled (d : DataSource) : Prop := ∀ t ∈ d.tables, t.Settled

/-- The members of a data source, those of its connection among them. -/
def members (d : DataSource) : List (String × Value) :=
  [("id", .str d.id), ("name", .str d.name), ("status", d.status.encode)] ++
    d.connection.members ++ [("metadata", encodeTables d.tables)]

theorem nodup_members (d : DataSource) : (d.members.map Prod.fst).Nodup := by
  obtain ⟨id, name, status, connection, tables⟩ := d
  cases connection <;>
    simp [members, Connection.members, Connection.settings, Database.members, FileSettings.members,
      Api.members]

/-- No member of a connection goes by the name of a field that stands beside it. -/
theorem not_mem_names (c : Connection) : ∀ m ∈ c.members, m.1 ∉ fields.names := by
  have hnames : fields.names = ["id", "name", "status", "metadata"] := rfl
  rw [hnames]
  cases c <;>
    simp [Connection.members, Connection.settings, Database.members, FileSettings.members,
      Api.members]

/-- A value that is put aside has no fault to come up. -/
theorem setAside_ofValues (ms : List (String × Value)) :
    (membersOfValues ms).map (setAside .value) = membersOfValues ms := by
  rw [membersOfValues_eq, List.map_map]
  refine List.map_congr_left fun m _ => ?_
  simp only [Function.comp, setAside, toValue_ofValue, ite_self]

theorem restores {d : DataSource} (h : d.Settled) : Restores decode encode d := by
  have hms : ((sortMembers d.members).map Prod.fst).Nodup := nodup_sortMembers d.members
  have hsubset : d.members ⊆ sortMembers d.members := subset_sortMembers d.nodup_members
  have hbuild : fields.ofMembers .value (membersOfValues (sortMembers d.members)) none =
      .ok fun connection => { d with connection } := by
    refine ofMembers_ofValues hms ?_
    unfold fields
    simp only [exists_read_seq, exists_read_map]
    refine ⟨d.id, read_field_ofValues ?_ (restores_string d.id),
      d.name, read_field_ofValues ?_ (restores_string d.name),
      d.status, read_field_ofValues ?_ (Status.restores d.status),
      d.tables, read_field_ofValues ?_ (restores_tables h), rfl⟩
    all_goals exact lookup_of_subset hms hsubset (by simp [members])
  -- What belongs to the connection is among the members that are left for it.
  have hconnection : Connection.ofMembers (.aside .value)
      (membersOfValues ((sortMembers d.members).filter (·.1 ∉ fields.names))) =
        .ok d.connection := by
    refine Connection.ofMembers_ofValues rfl _ (Keyed.nodup_filter _ hms) fun m hm => ?_
    have hmem : m ∈ d.members := by simp [members, hm]
    exact List.mem_filter.2 ⟨hsubset hmem, by simpa using not_mem_names _ m hm⟩
  show (do
    let build ← fields.ofMembers .value
      ((membersOfValues (sortMembers d.members)).map (setAside .value)) none
    let connection ← Connection.ofMembers (.aside .value)
      (((membersOfValues (sortMembers d.members)).map (setAside .value)).filter
        (·.1 ∉ fields.names))
    return build connection) = _
  rw [setAside_ofValues, filter_membersOfValues (· ∉ fields.names), hbuild, hconnection]
  rfl

theorem ensures_settled : decode.Ensures Settled := by
  intro source n d h
  unfold decode at h
  split at h
  · obtain ⟨build, hbuild, h⟩ := exists_of_bind_eq_ok h
    obtain ⟨connection, -, h⟩ := exists_of_bind_eq_ok h
    cases h
    have hread : ∃ b, fields.read _ = .ok b ∧ b = build := ⟨_, read_of_readAfter hbuild, rfl⟩
    unfold fields at hread
    simp only [exists_read_seq, exists_read_map] at hread
    obtain ⟨id, -, name, -, status, -, tables, htables, rfl⟩ := hread
    show ∀ t ∈ tables, t.Settled
    exact ensures_defaulting htables ensures_settled_tables (by simp)
  · exact absurd h (Node.mismatch_ne_ok _ _)

/-- A data source whose types are settled is read back from its document, and whatever data source
was read from any document is of that kind. -/
theorem reading_settles :
    (∀ d : DataSource, d.Settled → decode .value (.ofValue d.encode) = .ok d) ∧
      ∀ (v : Value) (d : DataSource), decode .value (.ofValue v) = .ok d →
        decode .value (.ofValue d.encode) = .ok d :=
  ⟨fun _ h => restores h, fun _ d h => restores (ensures_settled _ _ d h)⟩

/-- A file without a delimiter, with a column of a type that no database spells. -/
def ledger : DataSource where
  id := "s1"
  name := "Ledger"
  status := .error
  connection := .file { format := .fixed, path := "/ledger", delimiter := none, hasHeader := false }
  tables := [⟨"entries", some "", [⟨"amount", .other "money[]", true⟩, ⟨"day", .date, false⟩]⟩]

/-- A database with most of its settings left out, members that mean nothing and types in
spellings of databases. -/
def shortDocument : Value :=
  .object [("type", .str "database"), ("port", .int 5432), ("name", .str "Shop"), ("id", .str "s2"),
    ("owner", .arr [.null]), ("path", .bool true),
    ("metadata", .object [("tables", .arr [.object [("name", .str "orders"), ("fields",
      .arr [.object [("name", .str "total"), ("type", .str " NUMERIC (12, 2)")],
        .object [("name", .str "area"), ("type", .str "\tGeometry(Point)"),
          ("nullable", .bool false)]])]])])]

theorem reading_settles_ledger : ledger.Settled ∧
    decode .value (.ofValue ledger.encode) = .ok ledger ∧
      ∃ d, decode .value (.ofValue shortDocument) = .ok d ∧
        d.tables = [⟨"orders", none,
          [⟨"total", .decimal, true⟩, ⟨"area", .other "geometry(point)", false⟩]⟩] ∧
        decode .value (.ofValue d.encode) = .ok d := by
  have h : ledger.Settled := by
    unfold Settled Table.Settled Column.Settled FieldType.Settled
    decide +kernel
  have hshort : decode .value (.ofValue shortDocument) =
      .ok ⟨"s2", "Shop", .active,
        .database { driver := "", host := "", port := some 5432, database := "" },
        [⟨"orders", none,
          [⟨"total", .decimal, true⟩, ⟨"area", .other "geometry(point)", false⟩]⟩]⟩ := by
    rfl
  exact ⟨h, reading_settles.1 _ h, _, hshort, rfl, reading_settles.2 _ _ hshort⟩

end DataSource

end CrossSource.Catalog
