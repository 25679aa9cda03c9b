import CrossSource.Catalog.Registry
import Mathlib.Data.List.Induction
/-!
# Which table a name leads to

A catalog is filled table by table. A name with a schema overwrites what stands under it and a bare
name does not, so a name leads to the last table that has it as its qualified name, or else to the
first table that has it as its own (`TableCatalog.get?_ofTables`). A registered source exposes the
columns of that table (`Registry.fields_of_resolved_table`). So the first table of a name may be
hidden by a table that has the name as its qualified name (`TableCatalog.first_named_is_found_iff`).
-/

namespace CrossSource.Catalog

namespace TableCatalog

/-! ## The names of a table -/

/-- The table has the name as its own, whatever the letter case and the blanks around. -/
def isNamed (name : String) (t : Table) : Bool := key name = key t.name

/-- The table has the name together with its schema, whatever the letter case and the blanks
around. -/
def isQualified (name : String) (t : Table) : Bool :=
  match t.schema with
  | some schema => key name = key (schema ++ "." ++ t.name)
  | none => false

/-- The last table of the qualified name, or else the first table of the name. -/
def resolved (ts : List Table) (name : String) : Option Table :=
  (ts.findRev? (isQualified name)).or (ts.find? (isNamed name))

/-! ## Filling a catalog -/

theorem ofTables_concat (ts : List Table) (t : Table) :
    ofTables (ts ++ [t]) = (ofTables ts).insert t := by
  simp [ofTables]

/-- An inserted table is found by its qualified name, and by its own if that led to none before. -/
theorem get?_insert (c : TableCatalog) (t : Table) (name : String) :
    (c.insert t).get? name =
      if isQualified name t then some t
      else (c.get? name).or (if isNamed name t then some t else none) := by
  simp only [get?, insert, qualifiedName, Keyed.get?_putNew, isNamed, isQualified,
    decide_eq_true_eq]
  cases t.schema with
  | none => simp
  | some schema =>
    simp only [Option.map_some, Keyed.get?_put, decide_eq_true_eq]
    split
    · rw [Option.some_or]
    · rfl

/-- A name leads to the last table that has it as its qualified name, or else to the first table
that has it as its own. -/
theorem get?_ofTables (ts : List Table) (name : String) :
    (ofTables ts).get? name = resolved ts name := by
  -- By induction from the end, where a catalog takes in its next table.
  induction ts using List.reverseRecOn with
  | nil => rfl
  | append_singleton ts t ih =>
    rw [ofTables_concat, get?_insert, ih]
    simp only [resolved, List.findRev?_eq_find?_reverse, List.reverse_append,
      List.reverse_singleton, List.singleton_append, List.find?_cons, List.find?_append,
      List.find?_nil]
    cases isQualified name t with
    | true => simp
    | false => cases isNamed name t <;> simp

/-! ## The first table of a name -/

/-- The first table of a name is found just when no table has it as its qualified name, or when the
last one that has is that first table itself. -/
theorem first_named_is_found_iff (ts : List Table) (name : String) :
    (ofTables ts).get? name = ts.find? (isNamed name) ↔
      ∀ t, ts.findRev? (isQualified name) = some t → ts.find? (isNamed name) = some t := by
  rw [get?_ofTables, resolved]
  cases ts.findRev? (isQualified name) with
  | none => simp
  | some t => simp [eq_comm]

/-- A table whose own name has a point in it. -/
def dottedOrders : Table := ⟨"Sales.Orders", none, [⟨"year", .number, false⟩]⟩

/-- A table whose qualified name is the name of the other one. -/
def salesOrders : Table := ⟨"orders", some "sales", [⟨"amount", .decimal, true⟩]⟩

/-- The first table of a name is hidden by a table that has the name as its qualified name. -/
theorem first_named_is_not_always_found : ¬ ∀ (ts : List Table) (name : String),
    (∃ t ∈ ts, key t.name = key name) →
      (ofTables ts).get? name = ts.find? fun t => key t.name = key name := by
  intro h
  have hdotted : key dottedOrders.name = key "sales.orders" := by decide +kernel
  have hfound := h [dottedOrders, salesOrders] "sales.orders"
    ⟨dottedOrders, List.mem_cons_self .., hdotted⟩
  revert hfound
  decide +kernel

end TableCatalog

/-! ## The fields that a query source exposes -/

namespace Registry

open TableCatalog (resolved)

variable {r : Registry} {s : QuerySource} {d : DataSource}

theorem fieldsOf_of_missing (h : r.get? s.sourceId = none) :
    r.fieldsOf s = .error (.notFound s.sourceId) := by
  rw [fieldsOf, catalogOf, h]
  rfl

theorem fieldsOf_of_found (h : r.get? s.sourceId = some d) :
    r.fieldsOf s = .ok ((TableCatalog.ofTables d.tables).fieldsOf s) := by
  rw [fieldsOf, catalogOf, h]
  rfl

/-- A query source exposes fields just when its data source is registered: none if it has no table
or the name of its table leads to none, and else the columns of that table in their order, under
the alias of the source and the name of the table as it is spelled there. -/
theorem fields_of_resolved_table (r : Registry) (s : QuerySource) :
    (r.fieldsOf s = .error (.notFound s.sourceId) ↔ r.get? s.sourceId = none) ∧
    ∀ d, r.get? s.sourceId = some d →
      (s.table = none → r.fieldsOf s = .ok []) ∧
      ∀ name, s.table = some name →
        (resolved d.tables name = none → r.fieldsOf s = .ok []) ∧
        ∀ t, resolved d.tables name = some t →
          r.fieldsOf s = .ok (t.columns.map fun c =>
            { name := c.name, type := c.type, source := s.aliasName, table := some name,
              aliasName := none, description := none, expression := none }) := by
  constructor
  · constructor
    · intro herror
      cases hget : r.get? s.sourceId with
      | none => rfl
      | some d =>
        rw [fieldsOf_of_found hget] at herror
        cases herror
    · exact fieldsOf_of_missing
  · intro d hget
    rw [fieldsOf_of_found hget]
    refine ⟨fun htable => by rw [TableCatalog.fieldsOf, htable], fun name htable => ?_⟩
    simp only [TableCatalog.fieldsOf, htable, TableCatalog.get?_ofTables]
    refine ⟨fun hnone => by rw [hnone], fun t hsome => ?_⟩
    rw [hsome]
    rfl

/-- A source with two tables of one qualified name, which is also the name of the first and of the
last one. -/
def enterprise : DataSource where
  id := "erp"
  name := "ERP"
  status := .active
  connection := .file ⟨.csv, "/in/erp.csv", none, true⟩
  tables := [TableCatalog.dottedOrders, ⟨"ORDERS", some "Sales", [⟨"id", .number, false⟩]⟩,
    TableCatalog.salesOrders, ⟨"sales.orders", some "old", []⟩]

theorem fields_of_resolved_table_overwritten :
    (ofSources [enterprise]).get? "erp" = some enterprise ∧
    resolved enterprise.tables " SALES.orders" = some TableCatalog.salesOrders ∧
    (ofSources [enterprise]).fieldsOf ⟨"erp", some " SALES.orders", "s2"⟩ =
      .ok [{ Field.plain "s2" "amount" .decimal with table := some " SALES.orders" }] := by
  have hget : (ofSources [enterprise]).get? "erp" = some enterprise := by decide +kernel
  have htable : resolved enterprise.tables " SALES.orders" = some TableCatalog.salesOrders := by
    decide +kernel
  exact ⟨hget, htable, (((fields_of_resolved_table (ofSources [enterprise])
    ⟨"erp", some " SALES.orders", "s2"⟩).2 enterprise hget).2 " SALES.orders" rfl).2 _ htable⟩

end Registry

end CrossSource.Catalog
