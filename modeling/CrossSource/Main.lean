import CrossSource.CommandLine.Outcome
import CrossSource.Document.Json.Writer
import Std.Time.DateTime.Timestamp

/-!
# The program

Looks up what a command line needs from the system, carries it out and prints what it comes to.
-/

namespace CrossSource.CommandLine

def readClock : IO Timestamp := do
  let t ← Std.Time.Timestamp.now
  return ⟨t.val.second.val, t.val.nano.val.toNat⟩

/-- Sixteen octets in hexadecimal, in groups. -/
def groupedHex (octets : List UInt8) : String :=
  let digits := octets.flatMap fun o => [Nat.digitChar (o.toNat / 16), Nat.digitChar (o.toNat % 16)]
  let group (start length : Nat) := String.ofList ((digits.drop start).take length)
  "-".intercalate [group 0 8, group 8 4, group 12 4, group 16 4, group 20 12]

/-- A random id, marked as such. -/
def makeId : IO String := do
  let octets := (← IO.getRandomBytes 16).toList
  let octets := octets.modify 6 fun o => (o &&& 0x0f) ||| 0x40
  let octets := octets.modify 8 fun o => (o &&& 0x3f) ||| 0x80
  return "query-" ++ groupedHex octets

/-- The text of a file, if it can be read. -/
def readText (path : String) : IO (Option String) := do
  try
    return some (← IO.FS.readFile path)
  catch _ => return none

/-- The variables of the process. -/
def readEnvironment : IO Environment := do
  let text := (← readText "/proc/self/environ").getD ""
  return (text.splitOn "\x00").filterMap fun entry =>
    match entry.splitOn "=" with
    | name :: value@(_ :: _) => some (name, "=".intercalate value)
    | _ => none

/-- The text of the file of variables, from here or the nearest directory above that has one. -/
def readEnvironmentFile : IO (Option String) := do
  let here := toString (← IO.currentDir)
  let mut path := environmentFile
  for _ in here.splitOn "/" do
    match ← readText path with
    | some text => return some text
    | none => path := "../" ++ path
  return none

/-- The files of a command with their texts. -/
def readFiles (paths : List String) : IO (List (String × String)) := do
  let mut files := []
  for path in paths do
    if let some text ← readText path then files := files ++ [(path, text)]
  return files

/-- The surroundings of a command, whose environment is complete. -/
def surroundings (env : Environment) (i : Invocation) : IO Surroundings := do
  let files ← readFiles i.command.files
  let ids ← i.command.files.mapM fun _ => makeId
  return ⟨env, fun path => files.lookup path, ← readClock, fun n => ids.getD n "",
    (i.settings env).preview.latencyMs⟩

def report (o : Outcome) : IO UInt32 := do
  match o.printed with
  | .nothing => pure ()
  | .text s => IO.println s
  | .document v => IO.println (v.jsonLines 0)
  if let some complaint := o.complaint then IO.eprintln ("Error: " ++ complaint)
  return o.status.toUInt32

/-- Making up rows takes its time. -/
def wait (i : Invocation) (s : Surroundings) (o : Outcome) : IO Unit :=
  match i.command with
  | .preview _ _ _ => if o.status = 0 then IO.sleep s.elapsed.toUInt32 else pure ()
  | _ => pure ()

def runProcess (args : List String) : IO UInt32 := do
  let env ← readEnvironment
  let env := ((← readEnvironmentFile).map env.extend).getD env
  match Invocation.ofArguments env args with
  | .error stop => report (.ofStop stop)
  | .ok i =>
    let s ← surroundings env i
    let o := i.perform s
    wait i s o
    report o

end CrossSource.CommandLine

def main (args : List String) : IO UInt32 := CrossSource.CommandLine.runProcess args
