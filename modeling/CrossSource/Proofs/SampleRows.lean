import CrossSource.Preview.Rows
import CrossSource.Proofs.Calendar
import CrossSource.Proofs.Records
import CrossSource.Validation.Rules
import Mathlib.Data.List.Dedup
import Mathlib.Data.List.Induction
/-!
# What the rows of a preview show

A row has one value for each name, that of the last selected field of the name (`lookup_row`). So it
shows sample values of a column's own type where names are distinct. Where two sources have a field
of one name, both columns show the sample values of the later one, and the row has fewer values than
there are columns (`columns_show_last_of_name`). Nothing but the names and the types of the fields
counts for the rows, and asking for more rows changes none of the first ones
(`rows_tell_last_of_name`).
-/

namespace CrossSource

open Document

/-! ## The last of some elements -/

section

variable {α β : Type} {p : α → Prop} {as : List α} {a b : α}

/-- The last element of the list that has the property. -/
def IsLast (p : α → Prop) (as : List α) (a : α) : Prop :=
  p a ∧ ∃ before after, as = before ++ a :: after ∧ ∀ b ∈ after, ¬ p b

theorem not_isLast_nil : ¬ IsLast p [] a := by
  rintro ⟨-, before, after, heq, -⟩
  simp at heq

/-- What follows an element of a list with a last one is nothing, or it has the same last one. -/
theorem concat_eq_append_cons {before after : List α} (h : as ++ [a] = before ++ b :: after) :
    b = a ∧ after = [] ∨ ∃ rest, after = rest ++ [a] ∧ as = before ++ b :: rest := by
  rcases List.eq_nil_or_concat after with rfl | ⟨rest, last, rfl⟩
  · exact .inl ⟨(List.singleton_inj.1 (List.append_inj_right' h rfl)).symm, rfl⟩
  · rw [List.concat_eq_append, ← List.cons_append, ← List.append_assoc] at h
    obtain rfl : a = last := List.singleton_inj.1 (List.append_inj_right' h rfl)
    exact .inr ⟨rest, List.concat_eq_append, List.append_inj_left' h rfl⟩

theorem isLast_concat_of_pos (ha : p a) : IsLast p (as ++ [a]) b ↔ b = a := by
  constructor
  · rintro ⟨-, before, after, heq, hafter⟩
    rcases concat_eq_append_cons heq with ⟨rfl, -⟩ | ⟨rest, rfl, -⟩
    · rfl
    · exact absurd ha (hafter a (by simp))
  · rintro rfl
    exact ⟨ha, as, [], rfl, by simp⟩

theorem isLast_concat_of_neg (ha : ¬ p a) : IsLast p (as ++ [a]) b ↔ IsLast p as b := by
  constructor
  · rintro ⟨hb, before, after, heq, hafter⟩
    rcases concat_eq_append_cons heq with ⟨rfl, -⟩ | ⟨rest, rfl, rfl⟩
    · exact absurd hb ha
    · exact ⟨hb, before, rest, rfl, fun c hc => hafter c (List.mem_append_left _ hc)⟩
  · rintro ⟨hb, before, after, rfl, hafter⟩
    refine ⟨hb, before, after ++ [a], by simp, fun c hc => ?_⟩
    rcases List.mem_append.1 hc with hc | hc
    · exact hafter c hc
    · rwa [List.mem_singleton.1 hc]

/-- After an element with the property, or at it, is the last one. -/
theorem exists_isLast (ha : p a) (before after : List α) :
    ∃ b ∈ a :: after, IsLast p (before ++ a :: after) b := by
  induction after using List.reverseRecOn with
  | nil => exact ⟨a, List.mem_singleton_self a, ha, before, [], rfl, by simp⟩
  | append_singleton after c ih =>
    rw [← List.cons_append, ← List.append_assoc]
    by_cases hc : p c
    · exact ⟨c, by simp, (isLast_concat_of_pos hc).2 rfl⟩
    · obtain ⟨b, hb, hlast⟩ := ih
      exact ⟨b, List.mem_append_left _ hb, (isLast_concat_of_neg hc).2 hlast⟩

theorem exists_isLast_of_mem (h : a ∈ as) (ha : p a) : ∃ b, IsLast p as b := by
  obtain ⟨before, after, rfl⟩ := List.append_of_mem h
  obtain ⟨b, -, hb⟩ := exists_isLast ha before after
  exact ⟨b, hb⟩

theorem isLast_map {f : α → β} {q : β → Prop} {c : β} :
    IsLast q (as.map f) c ↔ ∃ a, IsLast (fun a => q (f a)) as a ∧ f a = c := by
  induction as using List.reverseRecOn with
  | nil => simp [not_isLast_nil]
  | append_singleton as a ih =>
    rw [List.map_append, List.map_singleton]
    by_cases ha : q (f a)
    · simp only [isLast_concat_of_pos ha, isLast_concat_of_pos (p := fun a => q (f a)) ha,
        exists_eq_left]
      exact eq_comm
    · simp only [isLast_concat_of_neg ha, isLast_concat_of_neg (p := fun a => q (f a)) ha, ih]

/-- If all elements differ by a function, each is the last one of its value. -/
theorem isLast_of_nodup {f : α → β} (h : (as.map f).Nodup) (ha : a ∈ as) :
    IsLast (fun b => f b = f a) as a := by
  obtain ⟨before, after, rfl⟩ := List.append_of_mem ha
  refine ⟨rfl, before, after, rfl, fun b hb heq => ?_⟩
  rw [List.map_append, List.map_cons] at h
  have hrest := (List.nodup_cons.1 (List.Nodup.of_append_right h)).1
  exact hrest (heq ▸ List.mem_map_of_mem hb)

end

/-! ## Members in order -/

namespace Document

variable {α : Type} {k : String} {a : α} {ms : List (String × α)}

theorem lookup_reverse_eq_some_iff :
    ms.reverse.lookup k = some a ↔ IsLast (fun m => m.1 = k) ms (k, a) := by
  induction ms using List.reverseRecOn with
  | nil => simp [not_isLast_nil]
  | append_singleton ms m ih =>
    obtain ⟨n, b⟩ := m
    rw [List.reverse_append, List.reverse_singleton, List.singleton_append, lookup_member]
    by_cases hk : k = n
    · subst hk
      rw [if_pos rfl, isLast_concat_of_pos (p := fun m : String × α => m.1 = k) rfl]
      simp [eq_comm]
    · rw [if_neg hk, ih]
      exact (isLast_concat_of_neg (p := fun m : String × α => m.1 = k) (Ne.symm hk)).symm

/-- In order the members have the names that they have out of order. -/
theorem mem_keys_sortMembers : k ∈ (sortMembers ms).map Prod.fst ↔ k ∈ ms.map Prod.fst := by
  constructor
  · intro h
    obtain ⟨⟨k, a⟩, hmem, rfl⟩ := List.mem_map.1 h
    rw [← Keyed.lookup_eq_some_iff (nodup_sortMembers ms), lookup_sortMembers,
      lookup_reverse_eq_some_iff] at hmem
    obtain ⟨-, before, after, rfl, -⟩ := hmem
    simp
  · intro h
    obtain ⟨m, hmem, rfl⟩ := List.mem_map.1 h
    obtain ⟨⟨n, a⟩, hlast⟩ := exists_isLast_of_mem (p := fun n => n.1 = m.1) hmem rfl
    obtain rfl : n = m.1 := hlast.1
    rw [← lookup_reverse_eq_some_iff, ← lookup_sortMembers,
      Keyed.lookup_eq_some_iff (nodup_sortMembers ms)] at hlast
    exact List.mem_map.2 ⟨_, hlast, rfl⟩

end Document

namespace Preview

variable {fields : List Field} {name : String} {v : Value} {q : Query} {count elapsed n : Nat}

/-! ## Rows -/

/-- Under a name stands the sample of the last field of the name. -/
theorem lookup_row : (row fields n).lookup name = some v ↔
    ∃ f, IsLast (fun f => f.name = name) fields f ∧ sample f.type n = v := by
  rw [row, lookup_sortMembers, lookup_reverse_eq_some_iff, isLast_map]
  constructor
  · rintro ⟨f, hf, heq⟩
    cases heq
    exact ⟨f, hf, rfl⟩
  · rintro ⟨f, hf, rfl⟩
    exact ⟨f, hf, by rw [hf.1]⟩

theorem mem_keys_row : name ∈ (row fields n).map Prod.fst ↔ name ∈ fields.map (·.name) := by
  rw [row, mem_keys_sortMembers, List.map_map]
  rfl

/-- A row has one value for each name. -/
theorem length_row (fields : List Field) (n : Nat) :
    (row fields n).length = (fields.map (·.name)).dedup.length := by
  have hperm : ((row fields n).map Prod.fst).Perm (fields.map (·.name)).dedup := by
    refine (List.perm_ext_iff_of_nodup (nodup_sortMembers _) (List.nodup_dedup _)).2 fun name => ?_
    rw [List.mem_dedup]
    exact mem_keys_row
  simpa using hperm.length_eq

theorem length_row_eq_iff :
    (row fields n).length = fields.length ↔ (fields.map (·.name)).Nodup := by
  rw [length_row, ← List.dedup_eq_self]
  constructor
  · intro h
    exact (List.dedup_sublist _).eq_of_length (by rw [h, List.length_map])
  · intro h
    rw [h, List.length_map]

theorem length_rows (fields : List Field) (count : Nat) : (rows fields count).length = count := by
  simp [rows]

theorem rows_getElem? (h : n < count) : (rows fields count)[n]? = some (row fields (n + 1)) := by
  simp [rows, h]

theorem getElem?_rows (h : n < count) :
    (synthesize q count elapsed).rows[n]? = some (row q.selectedFields (n + 1)) := rows_getElem? h

/-- Fewer rows are the first ones of more. -/
theorem rows_eq_take {m : Nat} (h : m ≤ count) : rows fields m = (rows fields count).take m := by
  rw [rows, rows, ← List.map_take, List.take_range, Nat.min_eq_left h]

/-- What rows can tell of a field. -/
def shape (f : Field) : String × FieldType := (f.name, f.type)

/-- Fields of the same names and types make the same rows. -/
theorem rows_congr {others : List Field} (h : others.map shape = fields.map shape) (count : Nat) :
    rows others count = rows fields count := by
  have hrow : ∀ (fields : List Field) n,
      row fields n = sortMembers ((fields.map shape).map fun s => (s.1, sample s.2 n)) := by
    intro fields n
    rw [row, List.map_map]
    rfl
  rw [rows, rows]
  exact List.map_congr_left fun i _ => by rw [hrow, hrow, h]

/-! ## Samples -/

/-- What a value of a type has to be in a row. The row's day is the calendar's, unless it is in a
year beyond the greatest that dates may have. -/
def Shows (type : FieldType) (n : Nat) (v : Value) : Prop :=
  match type with
  | .string => v = .str ("Sample" ++ toString n)
  | .number => v = .int (100 * n)
  | .decimal => v = .float (Float.ofNat n * 100 + 0.5)
  | .date => ∃ d : Date, d.exists? = true ∧ d.dayNumber = firstDay.dayNumber + (n - 1) ∧
    v = if d.year ≤ Date.greatestYear then .str d.text else .null
  | .boolean | .other _ => v = .null

theorem sample_date (n : Nat) : sample .date n =
    if (Date.ofDayNumber (firstDay.dayNumber + (n - 1))).year ≤ Date.greatestYear then
      .str (Date.ofDayNumber (firstDay.dayNumber + (n - 1))).text
    else .null := by
  rw [sample.eq_def, dayOfRow]
  split_ifs <;> rfl

theorem shows_sample (type : FieldType) (n : Nat) : Shows type n (sample type n) := by
  cases type with
  | number => exact congrArg Value.int (Int.mul_comm _ _)
  | date =>
    exact ⟨.ofDayNumber (firstDay.dayNumber + (n - 1)), Date.exists_ofDayNumber _,
      Date.dayNumber_ofDayNumber _, sample_date n⟩
  | _ => rfl

/-! ## Columns -/

theorem names_columns (q : Query) :
    (columns q).map (·.name) = q.selectedFields.map (·.name) := by
  rw [columns, List.map_map]
  rfl

theorem lookup_row_of_isLast {c : Column} (h : IsLast (fun c => c.name = name) (columns q) c) :
    (row q.selectedFields n).lookup name = some (sample c.type n) := by
  rw [columns, isLast_map] at h
  obtain ⟨f, hf, rfl⟩ := h
  exact lookup_row.2 ⟨f, hf, rfl⟩

/-- A preview has the rows asked for. In each row there stands under the name of a column a sample
value of the last column of the name; that is of the column itself if all names differ. A row has as
many values as there are names, and so as many as there are columns just when all names differ. -/
theorem columns_show_last_of_name (q : Query) (count elapsed : Nat) :
    let r := synthesize q count elapsed
    r.rows.length = count ∧
    ∀ n < count, ∃ row, r.rows[n]? = some row ∧
      (∀ c ∈ r.columns, ∃ d v, IsLast (fun d => d.name = c.name) r.columns d ∧
        row.lookup c.name = some v ∧ Shows d.type (n + 1) v) ∧
      ((r.columns.map (·.name)).Nodup → ∀ c ∈ r.columns, ∃ v,
        row.lookup c.name = some v ∧ Shows c.type (n + 1) v) ∧
      row.length = (r.columns.map (·.name)).dedup.length ∧
      (row.length = r.columns.length ↔ (r.columns.map (·.name)).Nodup) := by
  intro r
  refine ⟨length_rows _ _, fun n hn => ⟨row q.selectedFields (n + 1), getElem?_rows hn,
    fun c hc => ?_, fun hnames c hc => ?_, ?_, ?_⟩⟩
  · obtain ⟨d, hd⟩ := exists_isLast_of_mem (p := fun d => d.name = c.name) hc rfl
    exact ⟨d, _, hd, lookup_row_of_isLast hd, shows_sample d.type (n + 1)⟩
  · have hlast : IsLast (fun d => d.name = c.name) (columns q) c := isLast_of_nodup hnames hc
    exact ⟨_, lookup_row_of_isLast hlast, shows_sample c.type (n + 1)⟩
  · rw [length_row]
    exact congrArg (fun names => names.dedup.length) (names_columns q).symm
  · have hcolumns : r.columns.length = q.selectedFields.length := List.length_map _
    have hnames : r.columns.map (·.name) = q.selectedFields.map (·.name) := names_columns q
    rw [hcolumns, hnames]
    exact length_row_eq_iff

/-- Both sources have a field `id`. -/
def customerOrders : Query :=
  let id := Field.plain "s1" "id" .number
  let customer := Field.plain "s2" "customer" .number
  { Query.new "q" "orders of customers" ⟨0, 0⟩ with
    sources := [⟨"customers", none, "s1"⟩, ⟨"orders", none, "s2"⟩]
    selectedFields := [id, .plain "s2" "id" .string, customer]
    joins := [⟨id, customer, .inner⟩] }

def invoices : Query :=
  { Query.new "p" "invoices" ⟨0, 0⟩ with
    sources := [⟨"invoices", none, "s1"⟩]
    selectedFields := [.plain "s1" "due" .date, .plain "s1" "total" .number] }

theorem columns_show_last_of_name_shared :
    (∃ row, (synthesize customerOrders 2 0).rows[1]? = some row ∧
      row.lookup "id" = some (.str "Sample2") ∧ row.length = 2) ∧
    ∃ row, (synthesize invoices 3 0).rows[2]? = some row ∧
      row.lookup "total" = some (.int 300) ∧ row.length = 2 := by
  constructor
  · obtain ⟨row, hrow, hlast, -, hlength, -⟩ :=
      (columns_show_last_of_name customerOrders 2 0).2 1 (by decide)
    obtain ⟨d, v, hd, hv, hshows⟩ := hlast ⟨"id", .number⟩ (by decide)
    have hcolumns : (synthesize customerOrders 2 0).columns =
        [⟨"id", .number⟩] ++ [⟨"id", .string⟩] ++ [⟨"customer", .number⟩] := rfl
    rw [hcolumns, isLast_concat_of_neg (by decide)] at hd
    obtain rfl := (isLast_concat_of_pos (p := fun d : Column => d.name = "id") rfl).1 hd
    exact ⟨row, hrow, hv.trans (congrArg some hshows), hlength⟩
  · obtain ⟨row, hrow, -, hown, -, hlength⟩ :=
      (columns_show_last_of_name invoices 3 0).2 2 (by decide)
    have hnames : ((synthesize invoices 3 0).columns.map (·.name)).Nodup := by decide
    obtain ⟨v, hv, hshows⟩ := hown hnames ⟨"total", .number⟩ (by decide)
    exact ⟨row, hrow, hv.trans (congrArg some hshows), hlength.2 hnames⟩

/-- The column `id` of numbers shows texts, and a row has two values for three columns. A day that
is too far away is not shown. -/
theorem column_shows_other_type :
    ((Validation.validate .default ⟨0, 0⟩ customerOrders).isValid = true ∧
      ⟨"id", .number⟩ ∈ (synthesize customerOrders 1 0).columns ∧
      ∃ row, (synthesize customerOrders 1 0).rows[0]? = some row ∧
        (∀ v, row.lookup "id" = some v → ¬ Shows .number 1 v) ∧
        row.length ≠ (synthesize customerOrders 1 0).columns.length) ∧
    (Validation.validate .default ⟨0, 0⟩ invoices).isValid = true ∧
      ∃ row, (synthesize invoices 100000000 0).rows[99999999]? = some row ∧
        row.lookup "due" = some .null := by
  refine ⟨⟨by decide +kernel, by decide, _, getElem?_rows (by omega), fun v hv hshows => ?_, ?_⟩,
    by decide +kernel, _, getElem?_rows (by omega), ?_⟩
  · have hlast : IsLast (fun c => c.name = "id") (columns customerOrders) ⟨"id", .string⟩ :=
      ⟨rfl, [⟨"id", .number⟩], [⟨"customer", .number⟩], rfl, by decide⟩
    rw [lookup_row_of_isLast hlast] at hv
    cases hshows
    cases hv
  · rw [length_row]
    decide
  · have hlast : IsLast (fun c => c.name = "due") (columns invoices) ⟨"due", .date⟩ :=
      ⟨rfl, [], [⟨"total", .number⟩], rfl, by decide⟩
    rw [lookup_row_of_isLast hlast, sample_date, if_neg (by decide +kernel)]

/-! ## Rows of any fields -/

/-- There are as many rows as are asked for. A row has each name of the fields once and no other,
and under a name the sample value for the row of the type of the last field of the name. Fewer rows
are the first ones of more, and fields of the same names and types make the same rows. -/
theorem rows_tell_last_of_name (fields : List Field) (count : Nat) :
    (rows fields count).length = count ∧
    (∀ n, 1 ≤ n → n ≤ count → ∃ row, (rows fields count)[n - 1]? = some row ∧
      (row.map Prod.fst).Nodup ∧
      (∀ name, name ∈ row.map Prod.fst ↔ name ∈ fields.map (·.name)) ∧
      ∀ name v, row.lookup name = some v ↔
        ∃ f, IsLast (fun f => f.name = name) fields f ∧ sample f.type n = v) ∧
    (∀ m ≤ count, rows fields m = (rows fields count).take m) ∧
    ∀ others : List Field, others.map shape = fields.map shape →
      rows others count = rows fields count := by
  refine ⟨length_rows fields count, fun n hn hle => ?_, fun m hm => rows_eq_take hm,
    fun others h => rows_congr h count⟩
  have hrow : (rows fields count)[n - 1]? = some (row fields (n - 1 + 1)) :=
    rows_getElem? (by omega)
  rw [Nat.sub_add_cancel hn] at hrow
  exact ⟨row fields n, hrow, nodup_sortMembers _, fun name => mem_keys_row,
    fun name v => lookup_row⟩

/-- The orders come first and their fields have other annotations, but the same names and types. -/
def orderCustomers : List Field :=
  [.plain "s2" "id" .number, { Field.plain "s1" "id" .string with table := some "customers" },
    .plain "s2" "customer" .number]

theorem rows_tell_last_of_name_shared :
    (∃ row, (rows customerOrders.selectedFields 4)[2]? = some row ∧
      row.lookup "id" = some (.str "Sample3") ∧ "total" ∉ row.map Prod.fst) ∧
    rows customerOrders.selectedFields 2 = (rows customerOrders.selectedFields 4).take 2 ∧
    rows orderCustomers 4 = rows customerOrders.selectedFields 4 := by
  obtain ⟨-, hrows, hfewer, hothers⟩ := rows_tell_last_of_name customerOrders.selectedFields 4
  obtain ⟨row, hrow, -, hnames, hlookup⟩ := hrows 3 (by decide) (by decide)
  have hlast : IsLast (fun f => f.name = "id") customerOrders.selectedFields
      (.plain "s2" "id" .string) :=
    ⟨rfl, [.plain "s1" "id" .number], [.plain "s2" "customer" .number], rfl, by decide⟩
  exact ⟨⟨row, hrow, (hlookup _ _).2 ⟨_, hlast, rfl⟩, (hnames "total").not.2 (by decide)⟩,
    hfewer 2 (by decide), hothers orderCustomers (by decide)⟩

end Preview

end CrossSource
