import CrossSource.Text.Blank
import CrossSource.Text.Case

/-!
# Types of fields

A field has one of five known types or any other, which keeps its name. In a query document a type
is known by its exact name (`FieldType.ofName`); a catalog may use the spellings of databases, in
any case and with a size behind them (`FieldType.ofSpelling`).
-/

namespace CrossSource

inductive FieldType where
  | string
  | number
  | decimal
  | date
  | boolean
  | other (name : String)
deriving DecidableEq, Repr

namespace FieldType

def name : FieldType → String
  | string => "string"
  | number => "number"
  | decimal => "decimal"
  | date => "date"
  | boolean => "boolean"
  | other name => name

/-- The type of an exact name. -/
def ofName (s : String) : FieldType :=
  if s = "string" then string
  else if s = "number" then number
  else if s = "decimal" then decimal
  else if s = "date" then date
  else if s = "boolean" then boolean
  else other s

/-- The spellings in small letters under which databases know the types. -/
def spellings : List (String × FieldType) :=
  [("string", string), ("varchar", string), ("char", string), ("text", string),
    ("nvarchar", string), ("uuid", string),
    ("number", number), ("int", number), ("integer", number), ("bigint", number),
    ("smallint", number), ("tinyint", number),
    ("decimal", decimal), ("numeric", decimal), ("float", decimal), ("double", decimal),
    ("real", decimal), ("money", decimal),
    ("date", date), ("datetime", date), ("timestamp", date), ("timestamptz", date),
    ("boolean", boolean), ("bool", boolean), ("bit", boolean)]

/-- The spelling as it is kept: without blanks around it and in small letters. -/
def normalized (s : String) : String := Text.lowerAscii (Text.trim s)

/-- The part of a spelling before the size in parentheses. -/
def base (s : String) : String :=
  Text.trim (String.ofList (s.toList.takeWhile (· != '(')))

/-- The type of a spelling. -/
def ofSpelling (s : String) : FieldType :=
  match spellings.lookup (base (normalized s)) with
  | some t => t
  | none => other (normalized s)

def isNumeric : FieldType → Bool
  | number | decimal => true
  | _ => false

def isOther : FieldType → Bool
  | other _ => true
  | _ => false

/-- Whether fields of the two types can be joined: equal types can, and any two numeric ones. -/
def joinable (a b : FieldType) : Bool := a = b || (a.isNumeric && b.isNumeric)

end FieldType

end CrossSource
