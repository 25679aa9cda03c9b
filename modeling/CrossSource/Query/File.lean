import CrossSource.Document.Json.Reader
import CrossSource.Document.Yaml.Reader
import CrossSource.Query.Document

/-!
# Query files

A query file is a JSON or a YAML text. The path of the file tells which.
-/

namespace CrossSource.Query

open Document

/-- The parts of a path without those that go nowhere. -/
def steps (path : String) : List String :=
  (path.splitOn "/").filter fun s => s ≠ "" && s ≠ "."

/-- What comes after the last dot of a file's name, unless the name begins with that dot. -/
def extension (path : String) : Option String :=
  match (steps path).getLast? with
  | none => none
  | some name =>
    let cs := name.toList.reverse
    let ending := cs.takeWhile (· ≠ '.')
    let stem := cs.drop (ending.length + 1)
    if name = ".." || stem.isEmpty then none else some (String.ofList ending.reverse)

inductive Format where
  | json
  | yaml
deriving DecidableEq, Repr

namespace Format

def name : Format → String
  | json => "JSON"
  | yaml => "YAML"

/-- A file is in JSON unless its extension says otherwise. -/
def ofPath (path : String) : Format :=
  if extension path ∈ [some "yml", some "yaml"] then yaml else json

end Format

/-- Why the text of a file is no query. -/
structure FileFault where
  path : String
  format : Format
  cause : DecodeError

def FileFault.message (f : FileFault) : String := f.format.name ++ " parse error in " ++ f.path

/-- Decodes the text of a file. -/
def ofFile (path text : String) : Except FileFault Query :=
  let format := Format.ofPath path
  let query :=
    match format with
    | .json => Json.decode decode text
    | .yaml => Yaml.decode decode text
  query.mapError fun cause => ⟨path, format, cause⟩

end CrossSource.Query
