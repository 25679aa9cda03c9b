import CrossSource.Settings.Basic

/-!
# Command lines

A command line names a command after the options that all commands share. `Invocation.ofArguments`
reads it from left to right and stops at the first argument that is out of place or asks for help.
Some options may be given by the environment instead.
-/

namespace CrossSource.CommandLine

/-- Why a command line is not carried out. -/
inductive Stop where
  | usage
  | help
  | version
deriving DecidableEq, Repr

/-- What a command may be given. Every option either takes a value or stands alone. -/
structure Shape where
  valued : List String
  flags : List String
  /-- The greatest number of operands, if there is one. -/
  operands : Option Nat
  hasVersion : Bool
  /-- Whether the first operand is a command and ends the options. -/
  hasCommands : Bool
  /-- Whether a value will do for an option, or for an operand if there is no option. -/
  accepts : Option String → String → Bool

/-- What a command has been given so far. -/
structure Given where
  values : List (String × String)
  flags : List String
  operands : List String

namespace Given

def empty : Given := ⟨[], [], []⟩

def value? (g : Given) (name : String) : Option String := g.values.lookup name

def addValue (g : Given) (name value : String) : Given :=
  { g with values := (name, value) :: g.values }

def addFlag (g : Given) (name : String) : Given := { g with flags := name :: g.flags }

def addOperand (g : Given) (operand : String) : Given :=
  { g with operands := g.operands ++ [operand] }

end Given

namespace Shape

/-- Takes an operand if there is room for it. -/
def takeOperand (s : Shape) (g : Given) (operand : String) : Except Stop Given :=
  if s.operands.all (g.operands.length < ·) && s.accepts none operand then
    .ok (g.addOperand operand)
  else .error .usage

/-- Takes an option with its value. No option may be given twice. -/
def takeValue (s : Shape) (g : Given) (name value : String) : Except Stop Given :=
  if (g.value? name).isNone && s.accepts (some name) value then .ok (g.addValue name value)
  else .error .usage

def takeFlag (g : Given) (name : String) : Except Stop Given :=
  if name ∈ g.flags then .error .usage else .ok (g.addFlag name)

/-- An option with its dashes cut off, split at the equals sign if there is one. -/
def splitOption (cs : List Char) : String × Option String :=
  let name := cs.takeWhile (· ≠ '=')
  match cs.drop name.length with
  | [] => (String.ofList name, none)
  | _ :: value => (String.ofList name, some (String.ofList value))

/-- Whether an argument stands for an option, so that it is no value. -/
def isOption (arg : String) : Bool := arg.startsWith "-" && arg ≠ "-"

/-- Why a word of single letters stops the reading. -/
def stopOfLetters (s : Shape) : List Char → Stop
  | 'h' :: _ => .help
  | 'V' :: _ => if s.hasVersion then .version else .usage
  | _ => .usage

/-- Reads arguments from left to right. What follows the name of a command is left over. -/
def read (s : Shape) : Given → List String → Except Stop (Given × List String)
  | g, [] => .ok (g, [])
  | g, arg :: args =>
    match arg.toList with
    | ['-', '-'] =>
      if s.hasCommands then .error .usage
      else (args.foldlM s.takeOperand g).map (·, [])
    | '-' :: '-' :: cs =>
      let (name, attached) := splitOption cs
      match attached with
      | some value =>
        if name ∈ s.valued then do s.read (← s.takeValue g name value) args
        else .error .usage
      | none =>
        if name = "help" then .error .help
        else if name = "version" && s.hasVersion then .error .version
        else if name ∈ s.flags then do s.read (← takeFlag g name) args
        else if name ∈ s.valued then
          match args with
          | value :: args => do
            if isOption value then throw .usage
            s.read (← s.takeValue g name value) args
          | [] => .error .usage
        else .error .usage
    | '-' :: c :: cs => .error (s.stopOfLetters (c :: cs))
    | _ =>
      if s.hasCommands then .ok (g.addOperand arg, args)
      else do s.read (← s.takeOperand g arg) args

end Shape

/-! ## The commands -/

/-- What the program is asked to do. -/
inductive Command where
  /-- Report on a query. -/
  | validate (file : String)
  /-- Show sample rows of a query, by force even if it is not valid. -/
  | preview (file : String) (rows : Option Nat) (force : Bool)
  /-- Take queries into a store. -/
  | importFiles (files : List String)
  /-- Report on the profiles of the environment. -/
  | profiles
  /-- List the fields of a table. -/
  | fields (catalog sourceId table aliasName : String)
deriving DecidableEq, Repr

/-- A command with the profile that is asked for. -/
structure Invocation where
  profile : Option String
  command : Command
deriving DecidableEq, Repr

/-- The files that a command reads. -/
def Command.files : Command → List String
  | validate file => [file]
  | preview file _ _ => [file]
  | importFiles files => files
  | profiles => []
  | fields catalog _ _ _ => [catalog]

def readRows (s : String) : Option Nat := Number.readBelow Number.wordBound s

/-- Paths may not be empty, and a number of rows has to be one. -/
def acceptsValue : Option String → String → Bool
  | none, path => path ≠ ""
  | some "catalog", path => path ≠ ""
  | some "rows", value => (readRows value).isSome
  | some _, _ => true

/-- A command without options. -/
def operandShape (operands : Option Nat) : Shape :=
  ⟨[], [], operands, false, false, acceptsValue⟩

def previewShape : Shape := ⟨["rows"], ["force"], some 1, false, false, acceptsValue⟩

def fieldsShape : Shape :=
  ⟨["catalog", "source-id", "table", "alias"], [], some 0, false, false, acceptsValue⟩

/-- The options before a command. -/
def sharedShape : Shape := ⟨["profile"], [], none, true, true, fun _ _ => true⟩

/-- The alias that fields are scoped to unless another one is asked for. -/
def defaultAlias : String := "s1"

namespace Command

def names : List String := ["validate", "preview", "import", "profiles", "fields", "help"]

/-- A value that has to be there. -/
def demand {α : Type} (a : Option α) : Except Stop α :=
  match a with
  | some a => .ok a
  | none => .error .usage

/-- The value of an option, or of a variable if the option is not given. -/
def valueOrVariable (env : Environment) (g : Given) (name key : String) :
    Except Stop (Option String) :=
  match g.value? name, env.lookup key with
  | some v, _ => .ok (some v)
  | none, some v => if acceptsValue (some name) v then .ok (some v) else .error .usage
  | none, none => .ok none

/-- Reads the arguments after the name of a command. -/
def ofArguments (env : Environment) (name : String) (args : List String) : Except Stop Command := do
  match name with
  | "validate" =>
    let (g, _) ← (operandShape (some 1)).read .empty args
    return .validate (← demand g.operands.head?)
  | "preview" =>
    let (g, _) ← previewShape.read .empty args
    let file ← demand g.operands.head?
    return .preview file ((g.value? "rows").bind readRows) ("force" ∈ g.flags)
  | "import" =>
    let (g, _) ← (operandShape none).read .empty args
    if g.operands.isEmpty then throw .usage
    return .importFiles g.operands
  | "profiles" =>
    let _ ← (operandShape (some 0)).read .empty args
    return .profiles
  | "fields" =>
    let (g, _) ← fieldsShape.read .empty args
    let catalog ← demand (← valueOrVariable env g "catalog" "EXTRACT_CATALOG")
    return .fields catalog (← demand (g.value? "source-id")) (← demand (g.value? "table"))
      ((g.value? "alias").getD defaultAlias)
  | "help" => throw (if args.head?.all (· ∈ names) then .help else .usage)
  | _ => throw .usage

end Command

/-- Reads a whole command line. -/
def Invocation.ofArguments (env : Environment) (args : List String) : Except Stop Invocation := do
  let (g, rest) ← sharedShape.read .empty args
  let name ← Command.demand g.operands.head?
  let command ← Command.ofArguments env name rest
  return ⟨← Command.valueOrVariable env g "profile" "EXTRACT_PROFILE", command⟩

end CrossSource.CommandLine
