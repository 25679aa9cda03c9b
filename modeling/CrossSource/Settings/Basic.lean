import CrossSource.Preview.Backend
import CrossSource.Store

/-!
# Settings from the environment

Settings are looked up in the environment, for a profile first under the profile's name and the
setting's, joined by an underscore, then under the setting's name alone. A variable that is empty
counts as absent; one that cannot be read leaves the default.
-/

namespace CrossSource

/-- The variables of an environment with their values, all of them Unicode texts. A system may also
have variables that are none; they are left out here. -/
abbrev Environment := List (String × String)

/-- What a store is told by the settings. -/
structure StoreOptions where
  enforceValidation : Bool
deriving DecidableEq, Repr

namespace StoreOptions

def default : StoreOptions := ⟨false⟩

def policy (o : StoreOptions) : StorePolicy := if o.enforceValidation then .enforce else .trust

end StoreOptions

structure Settings where
  /-- The name of the profile, empty for none. -/
  profile : String
  preview : Preview.Options
  validation : Validation.Options
  store : StoreOptions
deriving DecidableEq, Repr

namespace Settings

/-! ## Looking up -/

/-- The settings that an environment can make. -/
def keys : List String :=
  ["PREVIEW_ROW_COUNT", "PREVIEW_LATENCY_MS", "VALIDATION_MAX_FIELDS",
    "VALIDATION_WARN_WITHOUT_FILTERS", "STORE_ENFORCE_VALIDATION"]

/-- The value of a variable that is not empty. -/
def value? (env : Environment) (name : String) : Option String :=
  (env.lookup name).filter (· ≠ "")

/-- The name of a setting's variable for a profile. -/
def profiled (profile key : String) : String := profile ++ "_" ++ key

def setting? (env : Environment) (profile key : String) : Option String :=
  if profile = "" then value? env key
  else (value? env (profiled profile key)).or (value? env key)

/-- The words for yes and no. -/
def readFlag (s : String) : Option Bool :=
  let word := Text.lowerAscii (Text.trim s)
  if word ∈ ["1", "true", "yes", "on"] then some true
  else if word ∈ ["0", "false", "no", "off"] then some false
  else none

def number (env : Environment) (profile key : String) (otherwise : Nat) : Nat :=
  ((setting? env profile key).bind (Number.readBelow Number.wordBound)).getD otherwise

def flag (env : Environment) (profile key : String) (otherwise : Bool) : Bool :=
  ((setting? env profile key).bind readFlag).getD otherwise

/-! ## Profiles -/

/-- The settings of a profile, whose name is taken in capitals. -/
def forProfile (env : Environment) (profile : String) : Settings :=
  let p := Text.upper profile
  { profile := p
    preview :=
      ⟨number env p "PREVIEW_ROW_COUNT" Preview.Options.default.rowCount,
        number env p "PREVIEW_LATENCY_MS" Preview.Options.default.latencyMs⟩
    validation :=
      ⟨number env p "VALIDATION_MAX_FIELDS" Validation.Options.default.maxSelectedFields,
        flag env p "VALIDATION_WARN_WITHOUT_FILTERS"
          Validation.Options.default.warnWithoutFilters⟩
    store := ⟨flag env p "STORE_ENFORCE_VALIDATION" StoreOptions.default.enforceValidation⟩ }

/-- The settings of the profile that the environment names, if any. -/
def ofEnvironment (env : Environment) : Settings :=
  forProfile env (Text.upper ((env.lookup "EXTRACT_PROFILE").getD ""))

/-- Whether a text can be the name of a profile in a variable. -/
def isProfileName (cs : List Char) : Bool :=
  !cs.isEmpty && cs.all fun c => c.isUpper || c == '_'

/-- The part of a text before an ending. -/
def withoutEnding (ending s : List Char) : Option (List Char) :=
  if ending.isSuffixOf s then some (s.take (s.length - ending.length)) else none

/-- The profile that a variable makes a setting for. -/
def profileOfVariable (name key : String) : Option String :=
  match withoutEnding ('_' :: key.toList) name.toList with
  | some cs => if isProfileName cs then some (String.ofList cs) else none
  | none => none

/-- The profiles that an environment has settings for, and the default one, in ascending order. The
search goes through all variables and stops the program at one that is no Unicode text, so what it
lists is said of environments without such variables only. -/
def availableProfiles (env : Environment) : List String :=
  let found := env.flatMap fun v => keys.filterMap (profileOfVariable v.1)
  (Document.sortMembers (("default" :: found).map fun p => (p, ()))).map Prod.fst

/-- The name of the profile, for people. -/
def label (s : Settings) : String := if s.profile = "" then "default" else s.profile

/-- The settings in four lines. -/
def summaryLines (s : Settings) : List String :=
  [s!"Config loaded (profile: {s.label}):",
    s!"  preview:     rows={s.preview.rowCount}, latency_ms={s.preview.latencyMs}",
    s!"  validation:  max_fields={s.validation.maxSelectedFields}, " ++
      s!"warn_without_filters={s.validation.warnWithoutFilters}",
    s!"  store:       enforce_validation={s.store.enforceValidation}"]

end Settings

end CrossSource
