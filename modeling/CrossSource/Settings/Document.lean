import CrossSource.Preview.Document
import CrossSource.Settings.Basic
import CrossSource.Validation.Document

/-!
# Settings documents

How settings are written as documents and read back, and the report on the profiles of an
environment.
-/

namespace CrossSource

open Document

namespace StoreOptions

def encode (o : StoreOptions) : Value := .object [("enforce_validation", .bool o.enforceValidation)]

def fields : Fields StoreOptions := StoreOptions.mk <$> .required "enforce_validation" .bool

def decode : Decoder StoreOptions := fields.decode "StoreConfig"

end StoreOptions

namespace Settings

/-- The settings under a given name of their profile. -/
def encodeAs (profile : String) (s : Settings) : Value :=
  .object [("profile", .str profile), ("preview", s.preview.encode),
    ("validation", s.validation.encode), ("store", s.store.encode)]

def encode (s : Settings) : Value := s.encodeAs s.profile

def fields : Fields Settings :=
  Settings.mk <$> .required "profile" .string <*>
    .required "preview" Preview.Options.decode <*>
    .required "validation" Validation.Options.decode <*>
    .required "store" StoreOptions.decode

def decode : Decoder Settings := fields.decode "Config"

/-- The active settings among the profiles of the environment. -/
def profileReport (env : Environment) (s : Settings) : Value :=
  .object [("active", .str s.label),
    ("available", .arr ((availableProfiles env).map .str)),
    ("settings", s.encodeAs s.label)]

end Settings

end CrossSource
