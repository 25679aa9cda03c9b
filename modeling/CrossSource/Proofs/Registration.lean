import CrossSource.Catalog.Registry
import Mathlib.Data.List.Induction
import Mathlib.Data.List.Nodup
/-!
# A registry is an ordered map of data sources

Each source stands under its own id, so the list of the sources tells all about a registry: a source
of a new id goes to its end, and a removal filters one out (`Indexed.list_register`,
`Indexed.list_remove`). A registry built from a list shows the last source of each id, one that the
same sources are registered with one by one shows the first, and both show them in the order in
which their ids come up first (`registry_is_ordered_map`).
-/

namespace CrossSource.Catalog.Registry

/-! ## Operations -/

inductive Operation where
  | register (d : DataSource)
  | remove (id : String)

inductive Answer where
  | registered (failure : Option RegistryError)
  | removed (existed : Bool)
deriving DecidableEq

/-- A registration that fails leaves the registry as it is. -/
def perform (r : Registry) : Operation → Registry × Answer
  | .register d =>
    match r.register d with
    | .ok r' => (r', .registered none)
    | .error e => (r, .registered (some e))
  | .remove id => ((r.remove id).1, .removed (r.remove id).2)

/-- The registry after one operation and the next. -/
def after (r : Registry) (ops : List Operation) : Registry :=
  ops.foldl (fun r op => (r.perform op).1) r

theorem after_concat (r : Registry) (ops : List Operation) (op : Operation) :
    r.after (ops ++ [op]) = ((r.after ops).perform op).1 := by
  simp [after]

/-! ## Sources under their own ids -/

variable {r : Registry} {d : DataSource} {ds : List DataSource} {id : String}

/-- The ids of the sources, in their order. -/
def ids (r : Registry) : List String := r.list.map (·.id)

/-- Every source stands under its own id. -/
def Indexed (r : Registry) : Prop := r.sources.IndexedBy DataSource.id

/-- The registry with a source written under its id. -/
def put (r : Registry) (d : DataSource) : Registry := ⟨r.sources.put d.id d⟩

theorem Indexed.keys_eq (h : r.Indexed) : r.sources.keys = r.ids := Keyed.IndexedBy.keys_eq h

theorem Indexed.nodup_ids (h : r.Indexed) : r.ids.Nodup := h.keys_eq ▸ r.sources.distinct

theorem Indexed.contains_iff (h : r.Indexed) : r.sources.contains id = true ↔ id ∈ r.ids := by
  rw [Keyed.contains_iff, h.keys_eq]

theorem Indexed.get?_eq_some_iff (h : r.Indexed) : r.get? id = some d ↔ d ∈ r.list ∧ d.id = id :=
  Keyed.IndexedBy.get?_eq_some_iff h

/-- Looking a source up finds the one of the id in the list. -/
theorem Indexed.get?_eq_find? (h : r.Indexed) (id : String) :
    r.get? id = r.list.find? (·.id = id) := Keyed.IndexedBy.get?_eq_find? h id

/-- The ids in their order and the source of each tell all. -/
theorem Indexed.eq_of_get? {r' : Registry} (h : r.Indexed) (h' : r'.Indexed)
    (hids : r.ids = r'.ids) (hget : ∀ id, r.get? id = r'.get? id) : r = r' :=
  congrArg Registry.mk (Keyed.ext_get? (by rw [h.keys_eq, h'.keys_eq, hids]) hget)

theorem Indexed.put (h : r.Indexed) (d : DataSource) : (r.put d).Indexed :=
  Keyed.IndexedBy.put h d

theorem Indexed.ids_put (h : r.Indexed) (d : DataSource) :
    (r.put d).ids = if d.id ∈ r.ids then r.ids else r.ids ++ [d.id] := by
  rw [← (h.put d).keys_eq, ← h.keys_eq]
  exact Keyed.keys_put ..

theorem get?_put (r : Registry) (d : DataSource) (id : String) :
    (r.put d).get? id = if id = d.id then some d else r.get? id := Keyed.get?_put ..

/-! ## What operations do -/

theorem Indexed.register_of_taken (h : r.Indexed) (hid : d.id ∈ r.ids) :
    r.register d = .error (.alreadyExists d.id) := by
  rw [register, if_pos (h.contains_iff.2 hid)]

theorem Indexed.register_of_new (h : r.Indexed) (hid : d.id ∉ r.ids) :
    r.register d = .ok (r.put d) := by
  rw [register, if_neg fun hc => hid (h.contains_iff.1 hc)]
  rfl

theorem Indexed.register_eq_error_iff (h : r.Indexed) :
    r.register d = .error (.alreadyExists d.id) ↔ d.id ∈ r.ids := by
  refine ⟨fun herror => ?_, h.register_of_taken⟩
  by_contra hid
  rw [h.register_of_new hid] at herror
  cases herror

/-- A source of a new id goes to the end, and another one changes nothing. -/
theorem Indexed.perform_register (h : r.Indexed) (d : DataSource) :
    (r.perform (.register d)).1 = if d.id ∈ r.ids then r else r.put d := by
  by_cases hid : d.id ∈ r.ids
  · rw [perform, h.register_of_taken hid, if_pos hid]
  · rw [perform, h.register_of_new hid, if_neg hid]

theorem Indexed.list_put_new (h : r.Indexed) (hid : d.id ∉ r.ids) :
    (r.put d).list = r.list ++ [d] := Keyed.IndexedBy.values_put_new h hid

theorem Indexed.list_remove (h : r.Indexed) (id : String) :
    (r.remove id).1.list = r.list.filter (·.id ≠ id) := Keyed.IndexedBy.values_erase h id

theorem Indexed.perform (h : r.Indexed) (op : Operation) : (r.perform op).1.Indexed := by
  cases op with
  | register d =>
    rw [h.perform_register]
    split
    · exact h
    · exact h.put d
  | remove id => exact Keyed.IndexedBy.erase h id

theorem Indexed.after (h : r.Indexed) (ops : List Operation) : (r.after ops).Indexed := by
  induction ops using List.reverseRecOn with
  | nil => exact h
  | append_singleton ops op ih =>
    rw [after_concat]
    exact ih.perform op

/-! ## A registry built from a list -/

theorem indexed_empty : empty.Indexed := fun _ he => absurd he List.not_mem_nil

theorem ofSources_concat (ds : List DataSource) (d : DataSource) :
    ofSources (ds ++ [d]) = (ofSources ds).put d := by
  simp [ofSources, put, Keyed.ofList]

theorem indexed_ofSources (ds : List DataSource) : (ofSources ds).Indexed := by
  induction ds using List.reverseRecOn with
  | nil => exact indexed_empty
  | append_singleton ds d ih =>
    rw [ofSources_concat]
    exact ih.put d

theorem eraseDups_concat (ids : List String) (id : String) :
    (ids ++ [id]).eraseDups = if id ∈ ids then ids.eraseDups else ids.eraseDups ++ [id] := by
  rw [List.eraseDups_append]
  by_cases hid : id ∈ ids
  · simp [List.removeAll, hid]
  · simp [List.removeAll, hid, List.eraseDups_cons]

/-- The ids stand in the order in which they come up first. -/
theorem ids_ofSources (ds : List DataSource) :
    (ofSources ds).ids = (ds.map (·.id)).eraseDups := by
  induction ds using List.reverseRecOn with
  | nil => rfl
  | append_singleton ds d ih =>
    rw [ofSources_concat, (indexed_ofSources ds).ids_put, ih, List.map_append, List.map_singleton,
      eraseDups_concat]
    simp only [List.mem_eraseDups]

/-- The last source of each id counts. -/
theorem get?_ofSources (ds : List DataSource) (id : String) :
    (ofSources ds).get? id = ds.findRev? (·.id = id) := by
  induction ds using List.reverseRecOn with
  | nil => rfl
  | append_singleton ds d ih =>
    rw [List.findRev?_eq_find?_reverse] at ih ⊢
    rw [ofSources_concat, get?_put, ih, List.reverse_append, List.reverse_singleton,
      List.singleton_append, List.find?_cons]
    by_cases hid : id = d.id
    · simp [hid]
    · simp [hid, Ne.symm hid]

/-! ## Sources registered one by one -/

/-- The registry that the sources are registered with one by one, whether that succeeds or not. -/
def registering (ds : List DataSource) : Registry := empty.after (ds.map .register)

theorem indexed_registering (ds : List DataSource) : (registering ds).Indexed :=
  indexed_empty.after _

theorem registering_concat (ds : List DataSource) (d : DataSource) :
    registering (ds ++ [d]) =
      if d.id ∈ (registering ds).ids then registering ds else (registering ds).put d := by
  rw [registering, List.map_append, List.map_singleton, after_concat]
  exact (indexed_registering ds).perform_register d

theorem ids_registering (ds : List DataSource) :
    (registering ds).ids = (ds.map (·.id)).eraseDups := by
  induction ds using List.reverseRecOn with
  | nil => rfl
  | append_singleton ds d ih =>
    rw [List.map_append, List.map_singleton, eraseDups_concat, registering_concat, ih]
    by_cases hid : d.id ∈ ds.map (·.id)
    · rw [if_pos (List.mem_eraseDups.2 hid), if_pos hid, ih]
    · rw [if_neg (mt List.mem_eraseDups.1 hid), if_neg hid, (indexed_registering ds).ids_put, ih,
        if_neg (mt List.mem_eraseDups.1 hid)]

/-- The first source of each id counts. -/
theorem get?_registering (ds : List DataSource) (id : String) :
    (registering ds).get? id = ds.find? (·.id = id) := by
  induction ds using List.reverseRecOn with
  | nil => rfl
  | append_singleton ds d ih =>
    rw [List.find?_append, List.find?_singleton, ← ih, registering_concat]
    -- A taken id has its source already; a new one has none, so the last source is its first.
    by_cases hid : d.id ∈ (registering ds).ids
    · rw [if_pos hid]
      by_cases hsame : d.id = id
      · have hsome : ((registering ds).get? id).isSome := by
          rw [← hsame]
          exact (indexed_registering ds).contains_iff.2 hid
        rw [Option.or_of_isSome hsome]
      · simp [hsame]
    · rw [if_neg hid, get?_put]
      by_cases hsame : d.id = id
      · have hnone : (registering ds).get? id = none := by
          rw [← hsame, ← Option.not_isSome_iff_eq_none]
          exact fun hsome => hid ((indexed_registering ds).contains_iff.1 hsome)
        simp [hsame, hnone]
      · simp [hsame, Ne.symm hsame]

/-- Every registration succeeds just when the ids are distinct. -/
theorem foldlM_register (ds : List DataSource) :
    ((ds.map (·.id)).Nodup → ds.foldlM register empty = .ok (ofSources ds)) ∧
    (¬ (ds.map (·.id)).Nodup →
      ∃ d ∈ ds, ds.foldlM register empty = .error (.alreadyExists d.id)) := by
  induction ds using List.reverseRecOn with
  | nil => exact ⟨fun _ => rfl, fun h => absurd List.nodup_nil h⟩
  | append_singleton ds d ih =>
    have hmem : d.id ∈ (ofSources ds).ids ↔ d.id ∈ ds.map (·.id) := by
      rw [ids_ofSources, List.mem_eraseDups]
    rw [List.map_append, List.map_singleton, List.foldlM_append, ← List.concat_eq_append,
      List.nodup_concat]
    -- So far all went well and the last id decides, or a registration failed already.
    by_cases hds : (ds.map (·.id)).Nodup
    · rw [ih.1 hds]
      by_cases hid : d.id ∈ ds.map (·.id)
      · refine ⟨fun h => absurd hid h.1, fun _ => ⟨d, by simp, ?_⟩⟩
        show (ofSources ds).register d >>= pure = _
        rw [(indexed_ofSources ds).register_of_taken (hmem.2 hid)]
        rfl
      · refine ⟨fun _ => ?_, fun h => absurd ⟨hid, hds⟩ h⟩
        show (ofSources ds).register d >>= pure = _
        rw [(indexed_ofSources ds).register_of_new (mt hmem.1 hid), ofSources_concat]
        rfl
    · obtain ⟨e, he, herror⟩ := ih.2 hds
      refine ⟨fun h => absurd h.2 hds, fun _ => ⟨e, List.mem_append_left _ he, ?_⟩⟩
      rw [herror]
      rfl

/-! ## The registry as an ordered map -/

/-- After a registry is built from a list and sources are registered and removed:
the ids in the list are distinct, and looking an id up finds its source in the list;
registering fails just when the id is taken, and then changes nothing, and else adds at the end;
a removal tells whether there was a source of the id, and keeps the order of the rest.
A registry built from a list shows the distinct ids in the order in which they come up first, each
with its last source. It is what comes of registering the sources one by one if the ids are
distinct. If they are not, some registration fails, and going on after failures shows the same ids
in the same order, each with its first source. -/
theorem registry_is_ordered_map (ds : List DataSource) (ops : List Operation) :
    let r := (ofSources ds).after ops
    (r.ids.Nodup ∧ ∀ id, r.get? id = r.list.find? (·.id = id)) ∧
    (∀ d, (r.register d = .error (.alreadyExists d.id) ↔ d.id ∈ r.ids) ∧
      (d.id ∈ r.ids → (r.perform (.register d)).1 = r) ∧
      (d.id ∉ r.ids → (r.perform (.register d)).1.list = r.list ++ [d])) ∧
    (∀ id, ((r.remove id).2 = true ↔ id ∈ r.ids) ∧
      (r.remove id).1.list = r.list.filter (·.id ≠ id)) ∧
    ((ofSources ds).ids = (ds.map (·.id)).eraseDups ∧
      ∀ d ∈ (ofSources ds).list, ds.findRev? (·.id = d.id) = some d) ∧
    ((ds.map (·.id)).Nodup → ds.foldlM register empty = .ok (ofSources ds)) ∧
    (¬ (ds.map (·.id)).Nodup →
      ∃ d ∈ ds, ds.foldlM register empty = .error (.alreadyExists d.id)) ∧
    ((registering ds).ids = (ds.map (·.id)).eraseDups ∧
      ∀ d ∈ (registering ds).list, ds.find? (·.id = d.id) = some d) ∧
    (registering ds = ofSources ds ↔ ∀ id, ds.find? (·.id = id) = ds.findRev? (·.id = id)) := by
  intro r
  have hbuilt := indexed_ofSources ds
  have hregistered := indexed_registering ds
  have hr : r.Indexed := hbuilt.after ops
  obtain ⟨hdistinct, hrepeated⟩ := foldlM_register ds
  refine ⟨⟨hr.nodup_ids, hr.get?_eq_find?⟩, fun d => ⟨hr.register_eq_error_iff, ?_, ?_⟩,
    fun id => ⟨hr.contains_iff, hr.list_remove id⟩, ⟨ids_ofSources ds, ?_⟩, hdistinct, hrepeated,
    ⟨ids_registering ds, ?_⟩, ?_⟩
  · intro hid
    rw [hr.perform_register, if_pos hid]
  · intro hid
    rw [hr.perform_register, if_neg hid, hr.list_put_new hid]
  · intro d hd
    rw [← get?_ofSources, hbuilt.get?_eq_some_iff]
    exact ⟨hd, rfl⟩
  · intro d hd
    rw [← get?_registering, hregistered.get?_eq_some_iff]
    exact ⟨hd, rfl⟩
  · simp only [← get?_registering, ← get?_ofSources]
    refine ⟨fun heq id => by rw [heq], hregistered.eq_of_get? hbuilt ?_⟩
    rw [ids_registering, ids_ofSources]

def ledger : DataSource :=
  ⟨"ledger", "Ledger", .active, .file ⟨.csv, "/in/ledger.csv", none, true⟩, []⟩

/-- A source that comes under the id of the ledger, from another place. -/
def movedLedger : DataSource :=
  ⟨"ledger", "Ledger", .active, .api ⟨"https://ledger", .get, []⟩, []⟩

def rates : DataSource :=
  ⟨"rates", "Rates", .inactive, .api ⟨"https://rates", .post, []⟩, []⟩

theorem registry_is_ordered_map_moved :
    let r := (ofSources [ledger, rates, movedLedger]).after [.register ledger, .remove "rates"]
    (ledger.id ∈ r.ids ∧ (r.perform (.register ledger)).1 = r) ∧
    (rates.id ∉ r.ids ∧ (r.perform (.register rates)).1.list = r.list ++ [rates]) ∧
    (([ledger, rates].map (·.id)).Nodup ∧
      [ledger, rates].foldlM register empty = .ok (ofSources [ledger, rates])) ∧
    ¬ ([ledger, rates, movedLedger].map (·.id)).Nodup ∧
      ∃ d ∈ [ledger, rates, movedLedger],
        [ledger, rates, movedLedger].foldlM register empty = .error (.alreadyExists d.id) := by
  intro r
  obtain ⟨-, hregister, -, -, -, hrepeated, -⟩ :=
    registry_is_ordered_map [ledger, rates, movedLedger] [.register ledger, .remove "rates"]
  have hdistinct := (registry_is_ordered_map [ledger, rates] []).2.2.2.2.1
  have hledger : ledger.id ∈ r.ids := by decide +kernel
  have hrates : rates.id ∉ r.ids := by decide +kernel
  have hnodup : ([ledger, rates].map (·.id)).Nodup := by decide +kernel
  have htwice : ¬ ([ledger, rates, movedLedger].map (·.id)).Nodup := by decide +kernel
  exact ⟨⟨hledger, (hregister ledger).2.1 hledger⟩, ⟨hrates, (hregister rates).2.2 hrates⟩,
    ⟨hnodup, hdistinct hnodup⟩, htwice, hrepeated htwice⟩

end CrossSource.Catalog.Registry
