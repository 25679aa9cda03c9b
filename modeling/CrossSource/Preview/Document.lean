import CrossSource.Preview.Session
import CrossSource.Query.Document

/-!
# Preview documents

How results and options of previews are written as documents and read back.
-/

namespace CrossSource.Preview

open Document

namespace Column

def encode (c : Column) : Value := .object [("name", .str c.name), ("type", c.type.encode)]

def fields : Fields Column :=
  Column.mk <$> .required "name" .string <*> .required "type" FieldType.decode

def decode : Decoder Column := fields.decode "PreviewColumn"

end Column

namespace Result

def encode (r : Result) : Value :=
  .object [("columns", .arr (r.columns.map (·.encode))),
    ("rows", .arr (r.rows.map Value.obj)), ("totalRows", .int r.totalRows),
    ("executionTime", .int r.executionTime)]

def fields : Fields Result :=
  Result.mk <$> .required "columns" (.list Column.decode) <*>
    .required "rows" (.list (.object .any)) <*> .required "totalRows" .size <*>
    .required "executionTime" .word64

def decode : Decoder Result := fields.decode "PreviewResult"

end Result

namespace Options

def encode (o : Options) : Value :=
  .object [("row_count", .int o.rowCount), ("latency_ms", .int o.latencyMs)]

def fields : Fields Options :=
  Options.mk <$> .required "row_count" .size <*> .required "latency_ms" .word64

def decode : Decoder Options := fields.decode "PreviewConfig"

end Options

end CrossSource.Preview
