import CrossSource.Keyed
import CrossSource.Proofs.Instants
import CrossSource.Query.Document
/-!
# What is written is read back

An object keeps its members in ascending order, so each of them is found by its name and no name is
met twice. A record is read from such an object field by field (`Fields.decode_object`), and its
fields are the values that are read one after the other (`exists_read_seq`). What a decoder gives,
from any document at all, has the properties that its leaves see to (`Decoder.Ensures`).
-/

namespace CrossSource.Document

variable {α β : Type}

theorem exists_of_bind_eq_ok {ε : Type} {x : Except ε α} {f : α → Except ε β} {b : β}
    (h : x >>= f = .ok b) : ∃ a, x = .ok a ∧ f a = .ok b := by
  cases x with
  | error e => cases h
  | ok a => exact ⟨a, rfl, h⟩

/-! ## Documents of any kind -/

mutual
/-- A document that is a value is read as that value. -/
theorem toValue_ofValue : ∀ v : Value, (Node.ofValue v).toValue .value = .ok v
  | .null | .bool _ | .int _ | .float _ | .str _ => rfl
  | .arr items => by
    simp only [Node.ofValue, Node.toValue, valuesOfItems_itemsOfValues items]
    rfl
  | .obj members => by
    simp only [Node.ofValue, Node.toValue, valuesOfMembers_membersOfValues members]
    rfl

theorem valuesOfItems_itemsOfValues :
    ∀ vs : List Value, valuesOfItems .value (itemsOfValues vs) = .ok vs
  | [] => rfl
  | v :: vs => by
    simp only [itemsOfValues, valuesOfItems, toValue_ofValue v, valuesOfItems_itemsOfValues vs]
    rfl

theorem valuesOfMembers_membersOfValues :
    ∀ ms : List (String × Value), valuesOfMembers .value (membersOfValues ms) = .ok ms
  | [] => rfl
  | (k, v) :: ms => by
    simp only [membersOfValues, valuesOfMembers, toValue_ofValue v,
      valuesOfMembers_membersOfValues ms]
    rfl
end

theorem Node.mismatch_ne_ok (n : Node) (expected : Expected) {a : α} :
    n.mismatch expected ≠ .ok a := by
  unfold Node.mismatch
  split <;> nofun

/-! ## Members in order -/

theorem mem_keys_insertMember {k n : String} {a : α} {ms : List (String × α)}
    (h : n ∈ (insertMember k a ms).map Prod.fst) : n = k ∨ n ∈ ms.map Prod.fst := by
  induction ms with
  | nil => simpa [insertMember] using h
  | cons m ms ih =>
    simp only [insertMember] at h
    split at h
    · next hk => exact .inr (by simpa [hk] using h)
    · split at h
      · simpa using h
      · rw [List.map_cons, List.mem_cons] at h ⊢
        rcases h with h | h
        · exact .inr (.inl h)
        · exact (ih h).imp_right .inr

theorem pairwise_insertMember (k : String) (a : α) {ms : List (String × α)}
    (h : (ms.map Prod.fst).Pairwise (· < ·)) :
    ((insertMember k a ms).map Prod.fst).Pairwise (· < ·) := by
  induction ms with
  | nil => simp [insertMember]
  | cons m ms ih =>
    obtain ⟨hm, hms⟩ := List.pairwise_cons.1 h
    simp only [insertMember]
    split
    · next hk => exact List.pairwise_cons.2 ⟨hk ▸ hm, hms⟩
    · next hne =>
      split
      · next hlt =>
        refine List.pairwise_cons.2 ⟨fun n hn => ?_, h⟩
        rcases List.mem_cons.1 hn with rfl | hn
        · exact hlt
        · exact String.lt_trans hlt (hm n hn)
      · next hle =>
        refine List.pairwise_cons.2 ⟨fun n hn => ?_, ih hms⟩
        rcases mem_keys_insertMember hn with rfl | hn
        · exact Std.lt_of_le_of_ne (String.not_lt.1 hle) (Ne.symm hne)
        · exact hm n hn

/-- The members of an object stand in ascending order of their names. -/
theorem pairwise_sortMembers (ms : List (String × α)) :
    ((sortMembers ms).map Prod.fst).Pairwise (· < ·) := by
  suffices hfold : ∀ sorted : List (String × α), (sorted.map Prod.fst).Pairwise (· < ·) →
      ((ms.foldl (fun sorted m => insertMember m.1 m.2 sorted) sorted).map Prod.fst).Pairwise
        (· < ·) from hfold [] .nil
  induction ms with
  | nil => exact fun _ h => h
  | cons m ms ih => exact fun _ h => ih _ (pairwise_insertMember m.1 m.2 h)

theorem nodup_sortMembers (ms : List (String × α)) : ((sortMembers ms).map Prod.fst).Nodup := by
  refine (pairwise_sortMembers ms).imp ?_
  rintro k _ hlt rfl
  exact String.lt_irrefl k hlt

/-- Members of distinct names are all among the members in order. -/
theorem subset_sortMembers {ms : List (String × α)} (h : (ms.map Prod.fst).Nodup) :
    ms ⊆ sortMembers ms := by
  rintro ⟨k, a⟩ hmem
  have hreverse : (ms.reverse.map Prod.fst).Nodup :=
    ((List.reverse_perm ms).map Prod.fst).nodup_iff.2 h
  rw [← Keyed.lookup_eq_some_iff (nodup_sortMembers ms), lookup_sortMembers,
    Keyed.lookup_eq_some_iff hreverse]
  exact List.mem_reverse.2 hmem

theorem membersOfValues_eq (ms : List (String × Value)) :
    membersOfValues ms = ms.map fun m => (m.1, .ofValue m.2, none) := by
  induction ms with
  | nil => rfl
  | cons m ms ih =>
    obtain ⟨k, v⟩ := m
    rw [membersOfValues, ih]
    rfl

theorem filter_membersOfValues (p : String → Bool) (ms : List (String × Value)) :
    (membersOfValues ms).filter (fun m => p m.1) = membersOfValues (ms.filter fun m => p m.1) := by
  rw [membersOfValues_eq, membersOfValues_eq, List.filter_map]
  rfl

/-! ## Members that may be left out -/

@[simp]
theorem lookup_reverse_given (name k : String) (v : Option Value) :
    (given name v).reverse.lookup k = if k = name then v else none := by
  cases v with
  | none => simp [given]
  | some v =>
    rw [given, List.reverse_singleton, lookup_member]
    rfl

@[simp]
theorem lookup_reverse_nonempty (name k : String) (vs : List Value) :
    (nonempty name vs).reverse.lookup k =
      if k = name then if vs.isEmpty then none else some (.arr vs) else none := by
  unfold nonempty
  split
  · simp
  · rw [List.reverse_singleton, lookup_member]
    rfl

/-! ## Records -/

/-- What a record is read from whose members have the given values. -/
def Parts.ofValues (source : Source) (ms : List (String × Value)) : Parts where
  source := source
  entries := ms.map fun m => (m.1, .ofValue m.2)
  absent := .missingField

/-- What a record is read from that is written with the given members. -/
def written (ms : List (String × Value)) : Parts where
  source := .value
  entries := (sortMembers ms).map fun m => (m.1, .ofValue m.2)
  absent := .missingField

namespace Fields

theorem disorder_eq_none {ms : List (String × Value)} (h : (ms.map Prod.fst).Nodup)
    (names seen : List String) (hseen : ∀ k ∈ seen, k ∉ ms.map Prod.fst) (i : Nat) :
    disorder names seen i (membersOfValues ms) = none := by
  induction ms generalizing seen i with
  | nil => rfl
  | cons m ms ih =>
    obtain ⟨k, v⟩ := m
    obtain ⟨hk, hms⟩ := List.nodup_cons.1 h
    have hfresh : k ∉ seen := fun hmem => hseen k hmem (List.mem_cons_self ..)
    have hrest : ∀ n ∈ seen, n ∉ ms.map Prod.fst :=
      fun n hn hmem => hseen n hn (List.mem_cons_of_mem _ hmem)
    simp only [membersOfValues, disorder, hfresh, if_false]
    split
    -- A name that is seen now is not among those that are still to come.
    · refine ih hms _ (fun n hn => ?_) _
      rcases List.mem_cons.1 hn with rfl | hn
      · exact hk
      · exact hrest n hn
    · exact ih hms _ hrest _

/-- Members of distinct names are read as a record if the fields are read from them. -/
theorem ofMembers_ofValues {p : Fields α} {source : Source} {ms : List (String × Value)} {a : α}
    (hms : (ms.map Prod.fst).Nodup) (h : ∃ b, p.read (.ofValues source ms) = .ok b ∧ b = a) :
    p.ofMembers source (membersOfValues ms) none = .ok a := by
  obtain ⟨_, h, rfl⟩ := h
  have hentries : (membersOfValues ms).map (fun m => (m.1, m.2.1)) =
      (Parts.ofValues source ms).entries := by
    rw [membersOfValues_eq, List.map_map]
    rfl
  have hdisorder : disorder p.names [] 0 (membersOfValues ms) = none :=
    disorder_eq_none hms _ _ (by simp) _
  simp only [ofMembers, hdisorder, Option.map_none, hentries, readAfter]
  show (combine (.ok id) (p.read (.ofValues source ms))).mapError Prod.snd = _
  rw [h]
  rfl

/-- An object is read as a record if the fields are read from its members. -/
theorem decode_object {p : Fields α} {name : String} {ms : List (String × Value)} {a : α}
    (h : ∃ b, p.read (written ms) = .ok b ∧ b = a) :
    p.decode name .value (.ofValue (.object ms)) = .ok a :=
  ofMembers_ofValues (nodup_sortMembers ms) h

theorem read_of_readAfter {p : Fields α} {fault : Option Located} {parts : Parts} {a : α}
    (h : p.readAfter fault parts = .ok a) : p.read parts = .ok a := by
  unfold readAfter at h
  cases hp : p.read parts with
  | error e =>
    rw [hp] at h
    cases fault <;> cases h
  | ok b =>
    rw [hp] at h
    cases fault with
    | none =>
      cases h
      rfl
    | some e => cases h

/-- What is read as a record is read field by field. -/
theorem exists_read_of_decode {p : Fields α} {name : String} {source : Source} {n : Node} {a : α}
    (h : p.decode name source n = .ok a) : ∃ parts, p.read parts = .ok a := by
  have hmembers : ∀ ms stop, p.ofMembers source ms stop = .ok a → ∃ parts, p.read parts = .ok a :=
    fun ms stop h => ⟨_, read_of_readAfter h⟩
  unfold decode at h
  split at h
  · exact hmembers _ _ h
  · split at h
    · exact absurd h (Node.mismatch_ne_ok _ _)
    · obtain ⟨b, hb, h⟩ := exists_of_bind_eq_ok h
      obtain ⟨-, -, h⟩ := exists_of_bind_eq_ok h
      cases h
      exact ⟨_, read_of_readAfter hb⟩
  · split at h
    · exact hmembers _ _ h
    · exact absurd h (Node.mismatch_ne_ok _ _)

/-! ## One field after the other -/

theorem exists_read_map {g : α → β} {p : Fields α} {parts : Parts} {K : β → Prop} :
    (∃ b, (g <$> p).read parts = .ok b ∧ K b) ↔ ∃ a, p.read parts = .ok a ∧ K (g a) := by
  show (∃ b, (p.read parts).map g = .ok b ∧ K b) ↔ _
  cases p.read parts with
  | error e => simp [Except.map]
  | ok a => simp [Except.map]

theorem exists_read_seq {f : Fields (α → β)} {p : Fields α} {parts : Parts} {K : β → Prop} :
    (∃ b, (f <*> p).read parts = .ok b ∧ K b) ↔
      ∃ g, f.read parts = .ok g ∧ ∃ a, p.read parts = .ok a ∧ K (g a) := by
  show (∃ b, combine (f.read parts) (p.read parts) = .ok b ∧ K b) ↔ _
  cases f.read parts <;> cases p.read parts <;> simp [combine]

section

variable {d : Decoder α} {absent : Parts → Except Located α} {name : String}
  {ms : List (String × Value)}

theorem locate_map (name : String) (i : Nat) (ms : List (String × Value)) :
    (locate name i (ms.map fun m => (m.1, .ofValue m.2))).map Prod.snd =
      (ms.lookup name).map .ofValue := by
  induction ms generalizing i with
  | nil => rfl
  | cons m ms ih =>
    obtain ⟨k, v⟩ := m
    rw [lookup_member, List.map_cons, locate]
    by_cases h : k = name
    · simp [h]
    · rw [if_neg h, if_neg (Ne.symm h)]
      exact ih _

theorem read_field_ofValues {source : Source} {v : Value} {a : α} (hv : ms.lookup name = some v)
    (ha : d source (.ofValue v) = .ok a) :
    (field name d absent).read (.ofValues source ms) = .ok a := by
  have hlocate := locate_map name 0 ms
  rw [hv, Option.map_some, Option.map_eq_some_iff] at hlocate
  obtain ⟨⟨i, n⟩, hlocate, rfl⟩ := hlocate
  simp only [field, Parts.ofValues, hlocate, ha]
  rfl

theorem read_absent_ofValues {source : Source} (hv : ms.lookup name = none) :
    (field name d absent).read (.ofValues source ms) = absent (.ofValues source ms) := by
  have hlocate := locate_map name 0 ms
  rw [hv, Option.map_none, Option.map_eq_none_iff] at hlocate
  simp only [field]
  rw [show locate name 0 (Parts.ofValues source ms).entries = none from hlocate]

theorem read_field {v : Value} {a : α} (hv : ms.reverse.lookup name = some v)
    (ha : d .value (.ofValue v) = .ok a) : (field name d absent).read (written ms) = .ok a :=
  read_field_ofValues (by rw [lookup_sortMembers, hv]) ha

theorem read_absent (hv : ms.reverse.lookup name = none) :
    (field name d absent).read (written ms) = absent (written ms) :=
  read_absent_ofValues (by rw [lookup_sortMembers, hv])

end

end Fields

/-! ## Decoders that undo an encoding -/

namespace Decoder

/-- The value is read back from the document that it is written as. -/
def Restores (d : Decoder α) (encode : α → Value) (a : α) : Prop :=
  d .value (.ofValue (encode a)) = .ok a

theorem restores_any (v : Value) : any.Restores id v := toValue_ofValue v

theorem string_ofValue {source : Source} (s : String) :
    string source (.ofValue (.str s)) = .ok s := rfl

theorem restores_string (s : String) : string.Restores .str s := string_ofValue s

theorem bool_ofValue {source : Source} (b : Bool) : bool source (.ofValue (.bool b)) = .ok b := rfl

theorem restores_bool (b : Bool) : bool.Restores .bool b := bool_ofValue b

theorem below_ofValue {bound n : Nat} (h : n < bound) (expected : Expected) (source : Source) :
    below bound expected source (.ofValue (.nat n)) = .ok n := by
  show bounded bound expected n = _
  rw [bounded, if_pos ⟨Int.natCast_nonneg n, Int.ofNat_lt.2 h⟩, Int.toNat_natCast]

theorem restores_uint64 (n : UInt64) : uint64.Restores (fun n => .nat n.toNat) n := by
  have hlt : n.toNat < Number.wordBound := n.toNat_lt
  show (word64 .value (.ofValue (.nat n.toNat))).map UInt64.ofNat = _
  rw [word64, below_ofValue hlt]
  exact congrArg Except.ok UInt64.ofNat_toNat

theorem restores_timestamp {t : Timestamp} (h : t.InRange) :
    timestamp.Restores (fun t => .str t.text) t := by
  simp only [Restores, timestamp, string_ofValue, Timestamp.read?_text h]

variable {d : Decoder α} {encode : α → Value}

theorem restores_list {as : List α} (h : ∀ a ∈ as, d.Restores encode a) :
    (list d).Restores (fun as => .arr (as.map encode)) as := by
  have hitems : items d .value (itemsOfValues (as.map encode)) = .ok as := by
    induction as with
    | nil => rfl
    | cons a as ih =>
      have ha : d .value (.ofValue (encode a)) = .ok a := h a (List.mem_cons_self ..)
      simp only [List.map_cons, itemsOfValues, items, ha,
        ih fun b hb => h b (List.mem_cons_of_mem _ hb)]
      rfl
  show (do
    let as ← items d .value (itemsOfValues (as.map encode))
    meet none
    return as) = _
  rw [hitems]
  rfl

/-- An object with any names is read back from members that stand in order. -/
theorem object_ofValue {source : Source} {es : List (String × α)} (hordered : source.ordered = true)
    (h : ∀ e ∈ es, d source (.ofValue (encode e.2)) = .ok e.2) :
    object d source (.ofValue (.obj (es.map fun e => (e.1, encode e.2)))) = .ok es := by
  have hmembers : members d source (membersOfValues (es.map fun e => (e.1, encode e.2))) =
      .ok es := by
    induction es with
    | nil => rfl
    | cons e es ih =>
      simp only [List.map_cons, membersOfValues, members, h e (List.mem_cons_self ..),
        ih fun e he => h e (List.mem_cons_of_mem _ he)]
      rfl
  show (do
    let as ← members d source (membersOfValues (es.map fun e : String × α => (e.1, encode e.2)))
    meet none
    return if source.ordered then as else sortMembers as) = _
  rw [hmembers, hordered]
  rfl

theorem option_ofValue {source : Source} {v : Value} {a : α} (hnull : v ≠ .null)
    (h : d source (.ofValue v) = .ok a) : d.option source (.ofValue v) = .ok (some a) := by
  have habsent : (Node.ofValue v).isAbsent = .ok false := by
    cases v with
    | null => exact absurd rfl hnull
    | _ => rfl
  show (do
    if ← (Node.ofValue v).isAbsent then return none
    else return some (← d source (.ofValue v))) = _
  rw [habsent, h]
  rfl

theorem restores_option {a : α} (hnull : encode a ≠ .null) (h : d.Restores encode a) :
    d.option .value (.ofValue (encode a)) = .ok (some a) := option_ofValue hnull h

end Decoder

namespace Fields

open Decoder

variable {d : Decoder α} {encode : α → Value} {name : String} {ms : List (String × Value)}

theorem read_required {a : α} (hv : ms.reverse.lookup name = some (encode a))
    (h : d.Restores encode a) : (required name d).read (written ms) = .ok a := read_field hv h

theorem read_defaulting {a b : α} (hv : ms.reverse.lookup name = some (encode a))
    (h : d.Restores encode a) : (defaulting name d b).read (written ms) = .ok a := read_field hv h

theorem read_optional {o : Option α} (hv : ms.reverse.lookup name = o.map encode)
    (h : ∀ a ∈ o, d.Restores encode a) (hnull : ∀ a, encode a ≠ .null) :
    (optional name d).read (written ms) = .ok o := by
  cases o with
  | none => exact read_absent hv
  | some a => exact read_field hv (restores_option (hnull a) (h a rfl))

theorem read_optional_string {o : Option String} (hv : ms.reverse.lookup name = o.map .str) :
    (optional name .string).read (written ms) = .ok o :=
  read_optional hv (fun s _ => restores_string s) fun _ => nofun

theorem read_nonempty {as : List α} (hv : ms.reverse.lookup name =
      if (as.map encode).isEmpty then none else some (.arr (as.map encode)))
    (h : ∀ a ∈ as, d.Restores encode a) :
    (defaulting name (.list d) []).read (written ms) = .ok as := by
  cases as with
  | nil => exact read_absent hv
  | cons a as => exact read_field hv (restores_list h)

end Fields

/-! ## What a decoder sees to -/

namespace Decoder

/-- Whatever the decoder gives has the property. -/
def Ensures (d : Decoder α) (P : α → Prop) : Prop :=
  ∀ source n a, d source n = .ok a → P a

theorem ensures_timestamp : timestamp.Ensures Timestamp.InRange := by
  intro source n t h
  unfold timestamp at h
  split at h
  · split at h
    · next hread =>
      cases h
      exact Timestamp.inRange_of_read? hread
    · cases h
  · exact absurd h (Node.mismatch_ne_ok _ _)

theorem ensures_map {d : Decoder α} {f : α → β} {P : β → Prop} (h : ∀ a, P (f a)) :
    (d.map f).Ensures P := by
  intro source n b hb
  cases ha : d source n with
  | error e => rw [Decoder.map, ha] at hb; cases hb
  | ok a =>
    rw [Decoder.map, ha] at hb
    cases hb
    exact h a

theorem Ensures.list {d : Decoder α} {P : α → Prop} (h : d.Ensures P) :
    (list d).Ensures fun as => ∀ a ∈ as, P a := by
  have hitems : ∀ source ns as, items d source ns = .ok as → ∀ a ∈ as, P a := by
    intro source ns
    induction ns with
    | nil =>
      rintro as ⟨⟩
      simp
    | cons n ns ih =>
      intro as has
      obtain ⟨a, ha, has⟩ := exists_of_bind_eq_ok has
      obtain ⟨rest, hrest, has⟩ := exists_of_bind_eq_ok has
      cases has
      exact List.forall_mem_cons.2 ⟨h _ _ _ ha, ih _ hrest⟩
  intro source n as has
  unfold Decoder.list at has
  split at has
  · obtain ⟨bs, hbs, has⟩ := exists_of_bind_eq_ok has
    obtain ⟨-, -, has⟩ := exists_of_bind_eq_ok has
    cases has
    exact hitems _ _ _ hbs
  · split at has
    · cases has
      simp
    · exact absurd has (Node.mismatch_ne_ok _ _)

end Decoder

namespace Fields

variable {d : Decoder α} {P : α → Prop} {name : String} {parts : Parts} {a : α}

theorem ensures_field {absent : Parts → Except Located α}
    (h : (field name d absent).read parts = .ok a) (hd : d.Ensures P)
    (habsent : absent parts = .ok a → P a) : P a := by
  simp only [field] at h
  split at h
  · next i n _ =>
    cases hn : d parts.source n with
    | error e => rw [hn] at h; cases h
    | ok b =>
      rw [hn] at h
      cases h
      exact hd _ _ _ hn
  · exact habsent h

theorem ensures_required (h : (required name d).read parts = .ok a) (hd : d.Ensures P) : P a :=
  ensures_field h hd nofun

theorem ensures_defaulting {b : α} (h : (defaulting name d b).read parts = .ok a)
    (hd : d.Ensures P) (hb : P b) : P a := by
  refine ensures_field h hd ?_
  rintro ⟨⟩
  exact hb

theorem ensures_decode {p : Fields α}
    (h : ∀ parts a, (∃ b, p.read parts = .ok b ∧ b = a) → P a) (name : String) :
    (p.decode name).Ensures P := by
  intro source n a ha
  obtain ⟨parts, hread⟩ := exists_read_of_decode ha
  exact h parts a ⟨a, hread, rfl⟩

end Fields

end CrossSource.Document
