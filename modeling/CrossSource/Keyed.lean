/-!
# Entries in the order they were first written

`Keyed α` holds values under distinct names. Writing under a name that is already there keeps the
entry's place, a new name goes to the end, and erasing keeps the order of the rest. The names are
distinct by construction (`Keyed.distinct`).
-/

namespace CrossSource

/-- Values under distinct names, in the order in which the names were first written. -/
structure Keyed (α : Type) where
  entries : List (String × α)
  distinct : (entries.map Prod.fst).Nodup

namespace Keyed

variable {α : Type}

/-! ## Writing into a list of entries -/

/-- Writes in place if the name is there, else at the end. -/
def write (k : String) (a : α) : List (String × α) → List (String × α)
  | [] => [(k, a)]
  | e :: es => if e.1 = k then (k, a) :: es else e :: write k a es

theorem map_fst_write (k : String) (a : α) (es : List (String × α)) :
    (write k a es).map Prod.fst =
      if k ∈ es.map Prod.fst then es.map Prod.fst else es.map Prod.fst ++ [k] := by
  induction es with
  | nil => simp [write]
  | cons e es ih =>
    by_cases h : e.1 = k
    · simp [write, h]
    · have h' : ¬ k = e.1 := fun h' => h h'.symm
      simp only [write, h, if_false, List.map_cons, ih, List.mem_cons, h', false_or]
      split <;> simp

theorem nodup_write (k : String) (a : α) {es : List (String × α)}
    (h : (es.map Prod.fst).Nodup) : ((write k a es).map Prod.fst).Nodup := by
  rw [map_fst_write]
  split
  · exact h
  · next hk =>
    rw [List.nodup_append]
    refine ⟨h, by simp, ?_⟩
    intro x hx y hy
    simp only [List.mem_singleton] at hy
    subst hy
    exact fun e => hk (e ▸ hx)

theorem write_of_not_mem {k : String} (a : α) {es : List (String × α)}
    (h : k ∉ es.map Prod.fst) : write k a es = es ++ [(k, a)] := by
  induction es with
  | nil => rfl
  | cons e es ih =>
    rw [List.map_cons, List.mem_cons, not_or] at h
    rw [write, if_neg (Ne.symm h.1), ih h.2, List.cons_append]

/-- Writing under a name that is there changes its entry and no other. -/
theorem write_of_mem {k : String} (a : α) {es : List (String × α)} (hd : (es.map Prod.fst).Nodup)
    (h : k ∈ es.map Prod.fst) : write k a es = es.map fun e => if e.1 = k then (k, a) else e := by
  induction es with
  | nil => cases h
  | cons e es ih =>
    rw [List.map_cons, List.nodup_cons] at hd
    rw [List.map_cons]
    by_cases he : e.1 = k
    · subst he
      have hrest : es.map (fun e' => if e'.1 = e.1 then (e.1, a) else e') = es := by
        refine (List.map_congr_left fun e' he' => if_neg fun heq => hd.1 ?_).trans (List.map_id es)
        exact heq ▸ List.mem_map_of_mem he'
      rw [write, if_pos rfl, if_pos rfl, hrest]
    · have hk : k ∈ es.map Prod.fst := by
        rw [List.map_cons, List.mem_cons] at h
        exact h.resolve_left fun heq => he heq.symm
      rw [write, if_neg he, if_neg he, ih hd.2 hk]

theorem nodup_filter (p : String × α → Bool) {es : List (String × α)}
    (h : (es.map Prod.fst).Nodup) : ((es.filter p).map Prod.fst).Nodup :=
  h.sublist (List.filter_sublist.map _)

theorem lookup_eq_some_iff {k : String} {a : α} {es : List (String × α)}
    (hd : (es.map Prod.fst).Nodup) : es.lookup k = some a ↔ (k, a) ∈ es := by
  induction es with
  | nil => simp
  | cons e es ih =>
    obtain ⟨k', a'⟩ := e
    rw [List.map_cons, List.nodup_cons] at hd
    by_cases hk : k = k'
    · subst hk
      have hnot : (k, a) ∉ es := fun hmem => hd.1 (List.mem_map.2 ⟨_, hmem, rfl⟩)
      simp [hnot, eq_comm]
    · have hne : (k == k') = false := beq_eq_false_iff_ne.2 hk
      rw [List.lookup_cons, hne, List.mem_cons, Prod.mk.injEq]
      simp [hk, ih hd.2]

theorem lookup_write (k k' : String) (a : α) (es : List (String × α)) :
    (write k a es).lookup k' = if k' = k then some a else es.lookup k' := by
  induction es with
  | nil => grind [write]
  | cons e es ih => grind [write]

theorem lookup_filter_ne {κ : Type} [BEq κ] [LawfulBEq κ] [DecidableEq κ] (k k' : κ)
    (es : List (κ × α)) :
    (es.filter (fun e => e.1 != k)).lookup k' = if k' = k then none else es.lookup k' := by
  induction es with
  | nil => simp
  | cons e es ih =>
    obtain ⟨n, a⟩ := e
    by_cases hn : n = k
    · subst hn
      rw [List.filter_cons_of_neg (by simp), ih, List.lookup_cons]
      by_cases hk : k' = n
      · rw [if_pos hk, if_pos hk]
      · rw [if_neg hk, if_neg hk, beq_eq_false_iff_ne.2 hk]
    · rw [List.filter_cons_of_pos (by simpa using hn), List.lookup_cons, List.lookup_cons, ih]
      by_cases hk : k' = n
      · subst hk
        simp [hn]
      · rw [beq_eq_false_iff_ne.2 hk]

/-! ## Operations -/

def empty : Keyed α := ⟨[], by simp⟩

/-- The names, in the order in which they were first written. -/
def keys (t : Keyed α) : List String := t.entries.map Prod.fst

/-- The values, in the order of their names. -/
def values (t : Keyed α) : List α := t.entries.map Prod.snd

def size (t : Keyed α) : Nat := t.entries.length

def isEmpty (t : Keyed α) : Bool := t.entries.isEmpty

def get? (t : Keyed α) (k : String) : Option α := t.entries.lookup k

def contains (t : Keyed α) (k : String) : Bool := (t.get? k).isSome

def put (t : Keyed α) (k : String) (a : α) : Keyed α :=
  ⟨write k a t.entries, nodup_write k a t.distinct⟩

/-- Writes only under a name that is not there yet. -/
def putNew (t : Keyed α) (k : String) (a : α) : Keyed α :=
  if t.contains k then t else t.put k a

def erase (t : Keyed α) (k : String) : Keyed α :=
  ⟨t.entries.filter (fun e => e.1 != k), nodup_filter _ t.distinct⟩

/-- Later values replace earlier ones of the same name, in the earlier one's place. -/
def ofList (es : List (String × α)) : Keyed α :=
  es.foldl (fun t e => t.put e.1 e.2) empty

/-! ## What operations do to the entries -/

variable {t : Keyed α} {k : String} {a : α}

theorem ext {t u : Keyed α} (h : t.entries = u.entries) : t = u := by
  cases t
  cases u
  cases h
  rfl

theorem entries_put_of_not_mem (h : k ∉ t.keys) : (t.put k a).entries = t.entries ++ [(k, a)] :=
  write_of_not_mem a h

theorem entries_put_of_mem (h : k ∈ t.keys) :
    (t.put k a).entries = t.entries.map fun e => if e.1 = k then (k, a) else e :=
  write_of_mem a t.distinct h

/-- An entry of a written list is the one written or was there before. -/
theorem mem_entries_put {e : String × α} (h : e ∈ (t.put k a).entries) :
    e = (k, a) ∨ e ∈ t.entries := by
  by_cases hk : k ∈ t.keys
  · rw [entries_put_of_mem hk] at h
    obtain ⟨e', he', rfl⟩ := List.mem_map.1 h
    split
    · exact .inl rfl
    · exact .inr he'
  · rw [entries_put_of_not_mem hk, List.mem_append, List.mem_singleton] at h
    exact h.symm

theorem erase_of_not_mem (h : k ∉ t.keys) : t.erase k = t := by
  refine ext (List.filter_eq_self.2 fun e he => ?_)
  simp only [bne_iff_ne, ne_eq]
  exact fun heq => h (heq ▸ List.mem_map_of_mem he)

theorem get?_eq_some_iff : t.get? k = some a ↔ (k, a) ∈ t.entries :=
  lookup_eq_some_iff t.distinct

theorem get?_eq_none_iff : t.get? k = none ↔ k ∉ t.keys := by
  rw [Option.eq_none_iff_forall_ne_some]
  constructor
  · intro h hk
    obtain ⟨e, he, rfl⟩ := List.mem_map.1 hk
    exact h e.2 (get?_eq_some_iff.2 he)
  · intro h a ha
    exact h (List.mem_map_of_mem (get?_eq_some_iff.1 ha))

theorem contains_iff : t.contains k = true ↔ k ∈ t.keys := by
  rw [contains, Option.isSome_iff_ne_none, ne_eq, get?_eq_none_iff, Decidable.not_not]

theorem map_get?_keys (t : Keyed α) :
    t.keys.map (fun k => (k, t.get? k)) = t.entries.map fun e => (e.1, some e.2) := by
  rw [keys, List.map_map]
  refine List.map_congr_left fun e he => ?_
  rw [Function.comp, get?_eq_some_iff.2 (show (e.1, e.2) ∈ t.entries from he)]

/-- The names in their order and the value of each tell all. -/
theorem ext_get? {t u : Keyed α} (hkeys : t.keys = u.keys) (hget : ∀ k, t.get? k = u.get? k) :
    t = u := by
  have hentries : t.entries.map (fun e => (e.1, some e.2)) =
      u.entries.map fun e => (e.1, some e.2) := by
    rw [← map_get?_keys, ← map_get?_keys, hkeys]
    exact List.map_congr_left fun k _ => by rw [hget]
  refine ext ((List.map_inj_right ?_).1 hentries)
  rintro ⟨k, a⟩ ⟨l, b⟩ h
  simpa using h

theorem keys_put (t : Keyed α) (k : String) (a : α) :
    (t.put k a).keys = if k ∈ t.keys then t.keys else t.keys ++ [k] := map_fst_write k a t.entries

theorem get?_put (t : Keyed α) (k k' : String) (a : α) :
    (t.put k a).get? k' = if k' = k then some a else t.get? k' := lookup_write k k' a t.entries

theorem get?_erase (t : Keyed α) (k k' : String) :
    (t.erase k).get? k' = if k' = k then none else t.get? k' := lookup_filter_ne k k' t.entries

theorem get?_putNew (t : Keyed α) (k k' : String) (a : α) :
    (t.putNew k a).get? k' = (t.get? k').or (if k' = k then some a else none) := by
  unfold putNew
  split
  · next hk =>
    split
    · next heq => rw [heq, Option.or_of_isSome hk]
    · rw [Option.or_none]
  · next hk =>
    rw [get?_put]
    split
    · next heq => rw [heq, Option.not_isSome_iff_eq_none.1 hk, Option.none_or]
    · rw [Option.or_none]

/-! ## Values that bear their names -/

/-- Every value stands under the name that it bears itself. -/
def IndexedBy (name : α → String) (t : Keyed α) : Prop := ∀ e ∈ t.entries, name e.2 = e.1

namespace IndexedBy

variable {name : α → String}

theorem keys_eq (h : t.IndexedBy name) : t.keys = t.values.map name := by
  rw [values, List.map_map]
  exact List.map_congr_left fun e he => (h e he).symm

theorem get?_eq_some_iff (h : t.IndexedBy name) :
    t.get? k = some a ↔ a ∈ t.values ∧ name a = k := by
  rw [Keyed.get?_eq_some_iff]
  constructor
  · exact fun hmem => ⟨List.mem_map.2 ⟨_, hmem, rfl⟩, h _ hmem⟩
  · rintro ⟨ha, rfl⟩
    obtain ⟨e, he, rfl⟩ := List.mem_map.1 ha
    rw [h e he]
    exact he

/-- Looking a name up finds the value that bears it. -/
theorem get?_eq_find? (h : t.IndexedBy name) (k : String) :
    t.get? k = t.values.find? (name · = k) := by
  cases hfind : t.values.find? (name · = k) with
  | none =>
    rw [get?_eq_none_iff, h.keys_eq]
    rw [List.find?_eq_none] at hfind
    intro hk
    obtain ⟨a, ha, hname⟩ := List.mem_map.1 hk
    exact hfind a ha (by simpa using hname)
  | some a =>
    rw [h.get?_eq_some_iff]
    exact ⟨List.mem_of_find?_eq_some hfind, by simpa using List.find?_some hfind⟩

/-- A value of a new name goes to the end. -/
theorem values_put_new (h : t.IndexedBy name) (hnew : name a ∉ t.values.map name) :
    (t.put (name a) a).values = t.values ++ [a] := by
  rw [← h.keys_eq] at hnew
  simp [values, entries_put_of_not_mem hnew]

/-- A value of a name that is there takes the place of the one that bore it. -/
theorem values_put_old (h : t.IndexedBy name) (hold : name a ∈ t.values.map name) :
    (t.put (name a) a).values = t.values.map fun b => if name b = name a then a else b := by
  rw [← h.keys_eq] at hold
  simp only [values, entries_put_of_mem hold, List.map_map]
  refine List.map_congr_left fun e he => ?_
  simp only [Function.comp, h e he]
  split <;> rfl

theorem values_erase (h : t.IndexedBy name) (k : String) :
    (t.erase k).values = t.values.filter (name · ≠ k) := by
  simp only [values, erase, List.filter_map]
  refine congrArg (List.map Prod.snd) (List.filter_congr fun e he => ?_)
  rw [Function.comp, h e he, Bool.eq_iff_iff, bne_iff_ne, decide_eq_true_eq]

theorem put (h : t.IndexedBy name) (a : α) : (t.put (name a) a).IndexedBy name := by
  intro e he
  rcases mem_entries_put he with rfl | he
  · rfl
  · exact h e he

theorem erase (h : t.IndexedBy name) (k : String) : (t.erase k).IndexedBy name :=
  fun e he => h e (List.mem_filter.1 he).1

end IndexedBy

end Keyed

end CrossSource
