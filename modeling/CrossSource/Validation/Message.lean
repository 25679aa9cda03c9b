import CrossSource.Document.Value
import CrossSource.Timestamp

/-!
# What validation has to say

A message has a code, a severity and a text, and may name the field and the source it is about.
Only errors make a query invalid.
-/

namespace CrossSource.Validation

open Document

inductive Severity where
  | error
  | warning
  | info
deriving DecidableEq, Repr

def Severity.name : Severity → String
  | error => "error"
  | warning => "warning"
  | info => "info"

inductive Code where
  | noSources
  | noFields
  | missingJoins
  | invalidJoin
  | incompatibleTypes
  | invalidOperator
  | performanceWarning
  | duplicateAlias
  | unknownSource
deriving DecidableEq, Repr

def Code.name : Code → String
  | noSources => "NO_SOURCES"
  | noFields => "NO_FIELDS"
  | missingJoins => "MISSING_JOINS"
  | invalidJoin => "INVALID_JOIN"
  | incompatibleTypes => "INCOMPATIBLE_TYPES"
  | invalidOperator => "INVALID_OPERATOR"
  | performanceWarning => "PERFORMANCE_WARNING"
  | duplicateAlias => "DUPLICATE_ALIAS"
  | unknownSource => "UNKNOWN_SOURCE"

structure Message where
  code : Code
  text : String
  severity : Severity
  /-- The name of the field the message is about. -/
  field : Option String
  /-- The alias of the source the message is about. -/
  source : Option String
  context : Option Value

namespace Message

def error (code : Code) (text : String) : Message := ⟨code, text, .error, none, none, none⟩

def warning (code : Code) (text : String) : Message := ⟨code, text, .warning, none, none, none⟩

def withField (m : Message) (name : String) : Message := { m with field := some name }

def withSource (m : Message) (aliasName : String) : Message := { m with source := some aliasName }

def withContext (m : Message) (members : List (String × Value)) : Message :=
  { m with context := some (.object members) }

def isError (m : Message) : Bool := m.severity = .error

def isWarning (m : Message) : Bool := m.severity = .warning

end Message

/-- The outcome of validation. -/
structure Report where
  isValid : Bool
  messages : List Message
  timestamp : Timestamp

namespace Report

def ofMessages (now : Timestamp) (ms : List Message) : Report :=
  ⟨ms.all fun m => !m.isError, ms, now⟩

def errors (r : Report) : List Message := r.messages.filter Message.isError

def warnings (r : Report) : List Message := r.messages.filter Message.isWarning

def codes (r : Report) : List Code := r.messages.map Message.code

def hasCode (r : Report) (c : Code) : Bool := r.codes.contains c

end Report

end CrossSource.Validation
