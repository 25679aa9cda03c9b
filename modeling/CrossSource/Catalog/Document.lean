import CrossSource.Catalog.Registry
import CrossSource.Query.Document

/-!
# Catalog documents

How data sources are written as documents and read back. The settings of a connection stand beside
the other members of a data source and are told apart by the member `type`. Column types are read
in any spelling that databases use.
-/

namespace CrossSource.Catalog

open Document

/-! ## Names -/

namespace Status

def encode (s : Status) : Value := .str s.name

def names : List (String × Status) := named name [active, inactive, error]

def decode : Decoder Status := .oneOf names

end Status

namespace Kind

def encode (k : Kind) : Value := .str k.name

def names : List (String × Kind) := named name [database, file, api]

def decode : Decoder Kind := .oneOf names

end Kind

namespace FileFormat

def encode (f : FileFormat) : Value := .str f.name

def names : List (String × FileFormat) := named name [csv, json, parquet, fixed]

def decode : Decoder FileFormat := .oneOf names

end FileFormat

namespace Method

def encode (m : Method) : Value := .str m.name

def names : List (String × Method) := named name [get, post]

def decode : Decoder Method := .oneOf names

end Method

/-! ## Connections -/

/-- A value that is written even if it is absent. -/
def nullable (v : Option Value) : Value := v.getD .null

namespace Database

def members (d : Database) : List (String × Value) :=
  [("driver", .str d.driver), ("host", .str d.host),
    ("port", nullable (d.port.map fun p => .nat p.toNat)), ("database", .str d.database)]

def encode (d : Database) : Value := .object d.members

def fields : Fields Database :=
  Database.mk <$> .defaulting "driver" .string "" <*> .defaulting "host" .string "" <*>
    .optional "port" (Decoder.word16.map UInt16.ofNat) <*> .defaulting "database" .string ""

def decode : Decoder Database := fields.decode "DatabaseConfig"

end Database

namespace FileSettings

def members (f : FileSettings) : List (String × Value) :=
  [("format", f.format.encode), ("path", .str f.path),
    ("delimiter", nullable (f.delimiter.map fun c => .str c.toString)),
    ("has_header", .bool f.hasHeader)]

def encode (f : FileSettings) : Value := .object f.members

def fields : Fields FileSettings :=
  FileSettings.mk <$> .defaulting "format" FileFormat.decode .csv <*>
    .defaulting "path" .string "" <*> .optional "delimiter" .character <*>
    .defaulting "has_header" .bool true

def decode : Decoder FileSettings := fields.decode "FileConfig"

end FileSettings

namespace Api

def members (a : Api) : List (String × Value) :=
  [("base_url", .str a.baseUrl), ("method", a.method.encode),
    ("headers", .obj (a.headers.map fun h => (h.1, .str h.2)))]

def encode (a : Api) : Value := .object a.members

def fields : Fields Api :=
  Api.mk <$> .defaulting "base_url" .string "" <*> .defaulting "method" Method.decode .get <*>
    .defaulting "headers" (.object .string) []

def decode : Decoder Api := fields.decode "ApiConfig"

end Api

namespace Connection

def settings : Connection → List (String × Value)
  | database d => d.members
  | file f => f.members
  | api a => a.members

/-- The settings with the tag that tells the kind. -/
def members (c : Connection) : List (String × Value) := ("type", c.kind.encode) :: c.settings

def encode (c : Connection) : Value := .object c.members

/-- The settings of a connection of a known kind. They were put aside until the kind was known. -/
def decodeSettings (kind : Kind) : Decoder Connection := fun source n =>
  match kind with
  | .database => Database.decode.map database (.aside source) n
  | .file => FileSettings.decode.map file (.aside source) n
  | .api => Api.decode.map api (.aside source) n

/-- The tag among the members, and the other members in their order. The tag of a connection that
was put aside may be the place of its kind. -/
def splitTag (source : Source) : List Member → Except DecodeError (Option Kind × List Member)
  | [] => .ok (none, [])
  | (k, n, skipped) :: ms =>
    if k = "type" then do
      let kind ← Decoder.nameOf Kind.names source n
      match ← splitTag source ms with
      | (none, rest) => return (some kind, rest)
      | (some _, _) => throw (.duplicateField "type")
    else do
      let (kind, rest) ← splitTag source ms
      return (kind, (k, n, skipped) :: rest)

def ofMembers (source : Source) (ms : List Member) : Except DecodeError Connection := do
  match ← splitTag source ms with
  | (some kind, rest) => decodeSettings kind source (.map rest none)
  | (none, _) => throw (.missingField "type")

def decode : Decoder Connection := fun source n =>
  match n with
  | .map ms none => ofMembers source ms
  | .map _ (some f) => .error (.text f)
  | .seq [] _ => .error (.missingField "type")
  | .seq (tag :: items) stop => do
    let kind ← Decoder.nameOf Kind.names source tag
    decodeSettings kind source (.seq items stop)
  | n => n.mismatch (.taggedRecord "ConnectionConfig")

end Connection

/-! ## Tables -/

namespace Column

def encode (c : Column) : Value :=
  .object [("name", .str c.name), ("type", c.type.encode), ("nullable", .bool c.nullable)]

def fields : Fields Column :=
  Column.mk <$> .required "name" .string <*>
    .required "type" (Decoder.string.map FieldType.ofSpelling) <*>
    .defaulting "nullable" .bool true

def decode : Decoder Column := fields.decode "TableField"

end Column

namespace Table

def encode (t : Table) : Value :=
  .object ([("name", .str t.name)] ++ given "schema" (t.schema.map .str) ++
    [("fields", .arr (t.columns.map (·.encode)))])

def fields : Fields Table :=
  Table.mk <$> .required "name" .string <*> .optional "schema" .string <*>
    .defaulting "fields" (.list Column.decode) []

def decode : Decoder Table := fields.decode "TableMetadata"

end Table

/-- The tables of a source as a document of their own. -/
def encodeTables (ts : List Table) : Value := .object [("tables", .arr (ts.map (·.encode)))]

def tablesFields : Fields (List Table) := .defaulting "tables" (.list Table.decode) []

def decodeTables : Decoder (List Table) := tablesFields.decode "SourceMetadata"

/-! ## Data sources -/

namespace DataSource

def encode (d : DataSource) : Value :=
  .object ([("id", .str d.id), ("name", .str d.name), ("status", d.status.encode)] ++
    d.connection.members ++ [("metadata", encodeTables d.tables)])

/-- The members that do not belong to the connection. -/
def fields : Fields (Connection → DataSource) :=
  (fun id name status tables connection => ⟨id, name, status, connection, tables⟩) <$>
    .required "id" .string <*> .required "name" .string <*>
    .defaulting "status" Status.decode .active <*>
    .defaulting "metadata" decodeTables []

/-- The members that are put aside for the connection are read for good where they stand. -/
def setAside (source : Source) (m : Member) : Member :=
  if m.1 ∈ fields.names then m
  else (m.1, m.2.1, match m.2.1.toValue source with
    | .error (.text f) => some f
    | _ => none)

def decode : Decoder DataSource := fun source n =>
  match n with
  | .map ms stop => do
    let ms := ms.map (setAside source)
    let build ← fields.ofMembers source ms stop
    let connection ← Connection.ofMembers (.aside source) (ms.filter fun m => m.1 ∉ fields.names)
    return build connection
  | n => n.mismatch (.record "DataSource")

end DataSource

end CrossSource.Catalog
