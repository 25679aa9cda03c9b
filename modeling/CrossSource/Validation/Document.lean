import CrossSource.Query.Document
import CrossSource.Validation.Rules

/-!
# Report documents

How messages, reports and options of validation are written as documents and read back.
-/

namespace CrossSource.Validation

open Document

namespace Severity

def encode (s : Severity) : Value := .str s.name

def names : List (String × Severity) := named name [error, warning, info]

def decode : Decoder Severity := .oneOf names

end Severity

namespace Code

def encode (c : Code) : Value := .str c.name

def names : List (String × Code) :=
  named name [noSources, noFields, missingJoins, invalidJoin, incompatibleTypes,
    invalidOperator, performanceWarning, duplicateAlias, unknownSource]

def decode : Decoder Code := .oneOf names

end Code

namespace Message

def encode (m : Message) : Value :=
  .object ([("code", m.code.encode), ("message", .str m.text), ("severity", m.severity.encode)] ++
    given "field" (m.field.map .str) ++ given "source" (m.source.map .str) ++
    given "context" m.context)

def fields : Fields Message :=
  Message.mk <$> .required "code" Code.decode <*> .required "message" .string <*>
    .required "severity" Severity.decode <*> .optional "field" .string <*>
    .optional "source" .string <*> .optional "context" .any

def decode : Decoder Message := fields.decode "ValidationMessage"

end Message

namespace Report

def encode (r : Report) : Value :=
  .object [("isValid", .bool r.isValid), ("messages", .arr (r.messages.map (·.encode))),
    ("timestamp", .str r.timestamp.text)]

def fields : Fields Report :=
  Report.mk <$> .required "isValid" .bool <*> .required "messages" (.list Message.decode) <*>
    .required "timestamp" .timestamp

def decode : Decoder Report := fields.decode "QueryValidation"

end Report

namespace Options

def encode (o : Options) : Value :=
  .object [("max_selected_fields", .int o.maxSelectedFields),
    ("warn_without_filters", .bool o.warnWithoutFilters)]

def fields : Fields Options :=
  Options.mk <$> .required "max_selected_fields" .size <*>
    .required "warn_without_filters" .bool

def decode : Decoder Options := fields.decode "ValidationConfig"

end Options

end CrossSource.Validation
