import CrossSource.Catalog.DataSource
import CrossSource.Field
import CrossSource.Keyed

/-!
# Finding tables by name

A catalog finds a table by its name, or by its schema and name with a point between them, whatever
the letter case and the blanks around. Of several tables of one name the first is found; a name with
a schema leads to the last table that has it.
-/

namespace CrossSource.Catalog

structure TableCatalog where
  tables : Keyed Table

namespace TableCatalog

/-- The form in which names are compared. -/
def key (name : String) : String := Text.lower (Text.trim name)

def empty : TableCatalog := ⟨.empty⟩

def isEmpty (c : TableCatalog) : Bool := c.tables.isEmpty

/-- The name of a table with its schema, if it has one. -/
def qualifiedName (t : Table) : Option String := t.schema.map fun s => s ++ "." ++ t.name

def insert (c : TableCatalog) (t : Table) : TableCatalog :=
  let tables :=
    match qualifiedName t with
    | some name => c.tables.put (key name) t
    | none => c.tables
  ⟨tables.putNew (key t.name) t⟩

def ofTables (ts : List Table) : TableCatalog := ts.foldl insert empty

def get? (c : TableCatalog) (name : String) : Option Table := c.tables.get? (key name)

/-- The columns that the table of a query source exposes, as fields of that source. -/
def fieldsOf (c : TableCatalog) (s : QuerySource) : List Field :=
  match s.table with
  | none => []
  | some name =>
    match c.get? name with
    | none => []
    | some t =>
      t.columns.map fun col => { Field.plain s.aliasName col.name col.type with table := some name }

end TableCatalog

end CrossSource.Catalog
