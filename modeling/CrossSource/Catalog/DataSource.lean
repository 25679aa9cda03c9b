import CrossSource.Document.Value
import CrossSource.FieldType

/-!
# Data sources

A data source is a database, a file or an interface, with the settings of its connection and the
tables that it exposes.
-/

namespace CrossSource.Catalog

inductive Status where
  | active
  | inactive
  | error
deriving DecidableEq, Repr

def Status.name : Status → String
  | active => "active"
  | inactive => "inactive"
  | error => "error"

inductive Kind where
  | database
  | file
  | api
deriving DecidableEq, Repr

def Kind.name : Kind → String
  | database => "database"
  | file => "file"
  | api => "api"

/-! ## Connections -/

structure Database where
  driver : String
  host : String
  port : Option UInt16
  database : String
deriving DecidableEq, Repr

inductive FileFormat where
  | csv
  | json
  | parquet
  | fixed
deriving DecidableEq, Repr

def FileFormat.name : FileFormat → String
  | csv => "csv"
  | json => "json"
  | parquet => "parquet"
  | fixed => "fixed"

structure FileSettings where
  format : FileFormat
  path : String
  delimiter : Option Char
  hasHeader : Bool
deriving DecidableEq, Repr

inductive Method where
  | get
  | post
deriving DecidableEq, Repr

def Method.name : Method → String
  | get => "GET"
  | post => "POST"

structure Api where
  baseUrl : String
  method : Method
  /-- Headers in ascending order of their names. -/
  headers : List (String × String)
deriving DecidableEq, Repr

inductive Connection where
  | database (settings : Database)
  | file (settings : FileSettings)
  | api (settings : Api)
deriving DecidableEq, Repr

namespace Connection

def kind : Connection → Kind
  | database _ => .database
  | file _ => .file
  | api _ => .api

/-- The place a connection leads to, for people. -/
def describe : Connection → String
  | database d =>
    match d.port with
    | some port => s!"{d.driver}://{d.host}:{port.toNat}/{d.database}"
    | none => s!"{d.driver}://{d.host}/{d.database}"
  | file f => s!"{f.path} ({f.format.name})"
  | api a => s!"{a.method.name} {a.baseUrl}"

end Connection

/-! ## Tables -/

structure Column where
  name : String
  type : FieldType
  nullable : Bool
deriving DecidableEq, Repr

structure Table where
  name : String
  schema : Option String
  columns : List Column
deriving DecidableEq, Repr

structure DataSource where
  id : String
  name : String
  status : Status
  connection : Connection
  tables : List Table
deriving DecidableEq, Repr

end CrossSource.Catalog
