import CrossSource.Catalog.Document
import CrossSource.CommandLine.Arguments
import CrossSource.Preview.Session
import CrossSource.Query.File
import CrossSource.Settings.Document
import CrossSource.Settings.EnvironmentFile

/-!
# What a command line comes to

`run` carries out a command line in given surroundings: it tells what is printed, what is complained
of, and with what status the program ends.
-/

namespace CrossSource.CommandLine

open Document

/-- What the program prints. -/
inductive Printed where
  | nothing
  | text (s : String)
  | document (v : Value)

/-- How the program ends. -/
structure Outcome where
  status : Nat
  printed : Printed
  complaint : Option String

namespace Outcome

def success (v : Value) : Outcome := ⟨0, .document v, none⟩

def failure (complaint : String) : Outcome := ⟨1, .nothing, some complaint⟩

def ofStop : Stop → Outcome
  | .usage => ⟨2, .nothing, none⟩
  | .help => ⟨0, .nothing, none⟩
  | .version => ⟨0, .text "extract-query 0.1.0", none⟩

end Outcome

/-- What a run of the program meets. -/
structure Surroundings where
  environment : Environment
  /-- The text of a file, if it can be read. -/
  contents : String → Option String
  now : Timestamp
  /-- Ids that nothing has, one for each number. -/
  freshId : Nat → String
  /-- Milliseconds that making up rows takes. -/
  elapsed : Nat

/-- The file of variables that adds to the environment. -/
def environmentFile : String := ".env"

namespace Surroundings

/-- The environment with the file of variables. -/
def fullEnvironment (s : Surroundings) : Environment :=
  match s.contents environmentFile with
  | some text => s.environment.extend text
  | none => s.environment

def read (s : Surroundings) (path : String) : Except String String :=
  match s.contents path with
  | some text => .ok text
  | none => .error ("failed to read: " ++ path)

def readQuery (s : Surroundings) (path : String) : Except String Query := do
  (Query.ofFile path (← s.read path)).mapError (·.message)

end Surroundings

/-! ## The commands -/

def encodeImported (i : Imported) : Value :=
  .object ([("file", .str i.file), ("id", (i.id.map Value.str).getD .null), ("name", .str i.name),
    ("valid", .bool i.valid)] ++ given "rejected" (i.rejected.map .str))

def validate (s : Surroundings) (settings : Settings) (file : String) : Except String Outcome := do
  let q ← s.readQuery file
  let report := Validation.validate settings.validation s.now q
  return ⟨if report.isValid then 0 else 1, .document report.encode, none⟩

def preview (s : Surroundings) (settings : Settings) (file : String) (rows : Option Nat)
    (force : Bool) : Except String Outcome := do
  let q ← s.readQuery file
  let report := Validation.validate settings.validation s.now q
  if !report.isValid && !force then
    let complaint := "query '" ++ q.id ++ "' has validation errors; pass --force to preview anyway"
    return ⟨1, .document report.encode, some complaint⟩
  else
    let options := { settings.preview with rowCount := rows.getD settings.preview.rowCount }
    match ((Preview.Session.new (.new options)).run q s.elapsed).2 with
    | .ok (.current result) => return .success result.encode
    | .ok (.superseded ticket latest) =>
      throw ("preview " ++ toString ticket ++ " was superseded by " ++ toString latest)
    | .error _ => throw "preview failed"

/-- Reads all files before the first query is taken in. -/
def importFiles (s : Surroundings) (settings : Settings) (files : List String) :
    Except String Outcome := do
  let queries ← files.mapM s.readQuery
  let store := Store.new settings.store.policy settings.validation
  let ids := (List.range files.length).map s.freshId
  let incoming := (files.zip (queries.zip ids)).map fun (file, q, id) => ⟨file, q, id, s.now⟩
  let (_, imported) := store.importAll settings.validation incoming
  return .success (.arr (imported.map encodeImported))

def fields (s : Surroundings) (catalog : String) (source : QuerySource) :
    Except String Outcome := do
  let text ← s.read catalog
  let sources ← (Json.decode (.list Catalog.DataSource.decode) text).mapError fun _ =>
    "invalid data source list in " ++ catalog
  let fields ← ((Catalog.Registry.ofSources sources).fieldsOf source).mapError (·.message)
  return .success (.arr (fields.map (·.encode)))

namespace Invocation

/-- The settings that the command works with. -/
def settings (i : Invocation) (env : Environment) : Settings :=
  match i.profile with
  | some p => .forProfile env p
  | none => .ofEnvironment env

def perform (i : Invocation) (s : Surroundings) : Outcome :=
  let env := s.fullEnvironment
  let settings := i.settings env
  let outcome :=
    match i.command with
    | .validate file => validate s settings file
    | .preview file rows force => preview s settings file rows force
    | .importFiles files => importFiles s settings files
    | .profiles => .ok (.success (settings.profileReport env))
    | .fields catalog id table aliasName => fields s catalog ⟨id, some table, aliasName⟩
  match outcome with
  | .ok o => o
  | .error complaint => .failure complaint

end Invocation

/-- Carries out a command line. -/
def run (s : Surroundings) (args : List String) : Outcome :=
  match Invocation.ofArguments s.fullEnvironment args with
  | .ok i => i.perform s
  | .error stop => .ofStop stop

end CrossSource.CommandLine
