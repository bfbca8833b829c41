import Accessors.Artifacts
import Accessors.Command.Arguments
import Accessors.Files.Basic
import Accessors.Files.Path
import Accessors.Schema.Dump
import Accessors.Settings.Load

/-!
Carrying out what the command line asks for. Everything is read and generated before anything is
written.
-/

set_option autoImplicit false

namespace Accessors.Command

/-- How a run ends, and what it shows. -/
structure Report where
  exit : Nat
  stdout : String
  stderr : String
deriving DecidableEq

variable {m : Type → Type} [Monad m] [Files m]

/-- Steps that fail with a message. -/
abbrev Attempt (m : Type → Type) := ExceptT String m

/-- A failure is told with what was being done. -/
def during {α ε : Type} (activity : String) (message : ε → String) (outcome : Except ε α) :
    Attempt m α :=
  match outcome with
  | .ok a => pure a
  | .error e => throw (activity ++ ": " ++ message e)

def onFiles {α : Type} (activity : String) (step : m (Except FileError α)) : Attempt m α := do
  during activity FileError.message (← ExceptT.lift step)

def loadSettings : Option String → Attempt m Settings
  | none => pure .standard
  | some path => do
    let source ← onFiles ("failed to read config file " ++ path) (Files.read path)
    during ("failed to parse config file " ++ path) Json.Fault.message (Settings.load source)

def readSchema (path : String) : Attempt m String :=
  onFiles ("failed to read schema file " ++ path) (Files.read path)

def writeText (path content : String) : Attempt m Unit :=
  onFiles ("failed to write " ++ path) (Files.write path content)

/-- The files that a request would write, from its inputs alone. -/
def Generate.artifacts (r : Generate) : Attempt m (String × Artifacts) := do
  let name ← match QualifiedName.parse r.qualifiedName with
    | .ok name => pure name
    | .error e => throw e.message
  let settings ← loadSettings r.config
  let schema ← readSchema r.schema
  let some base := (Path.ofText r.schema).fileStem?
    | throw ("schema path " ++ r.schema ++ " has no file name")
  let artifacts ← during ("failed to generate from " ++ r.schema) Error.message
    (generate schema name base settings).outcome
  return (base, artifacts)

/-- Writes both files or neither: if the second cannot be written, the first is removed. -/
def Generate.write (r : Generate) (base : String) (artifacts : Artifacts) : Attempt m Unit := do
  let header := Path.join r.outDir (base ++ ".h")
  let source := Path.join r.outDir (base ++ ".cpp")
  onFiles ("failed to create output directory " ++ r.outDir) (Files.makeDirs r.outDir)
  writeText header artifacts.header
  try writeText source artifacts.source
  catch message =>
    let _ ← ExceptT.lift (Files.remove header)
    throw message

/-- What is shown after a success. -/
def Generate.run (r : Generate) : Attempt m String := do
  let (base, artifacts) ← r.artifacts
  if r.stdout then return artifacts.header ++ "\n" ++ artifacts.source ++ "\n"
  r.write base artifacts
  return ""

def Ast.run (r : Ast) : Attempt m String := do
  let schema ← readSchema r.schema
  let nodes ← during ("failed to parse " ++ r.schema) Error.message (Schema.parse schema).outcome
  let text := Node.dumpTree nodes
  match r.out with
  | none => return text ++ "\n"
  | some out =>
    if let some directory := Path.directory? out then
      match ← ExceptT.lift (Files.makeDirs directory) with
      | .ok () => pure ()
      | .error e => throw e.message
    writeText out text
    return ""

def Request.noOp : Request → Bool
  | .generate r => r.noOp
  | .ast r => r.noOp

/-- Nothing is done for a request that only asks how it was understood. -/
def Request.run (request : Request) : m Report := do
  if request.noOp then return ⟨0, "", request.echo⟩
  let attempt : Attempt m String := match request with
    | .generate r => r.run
    | .ast r => r.run
  match ← attempt.run with
  | .ok shown => return ⟨0, shown, ""⟩
  | .error message => return ⟨1, "", "error: " ++ message ++ "\n"⟩

def usage : String :=
  "Usage: json-accessor-gen <COMMAND>\n\nCommands:\n" ++
  "  generate <QUALIFIED_NAME> <SCHEMA> [-o|--out-dir <DIR>] [--config <FILE>] [--stdout] " ++
  "[--no-op]\n" ++
  "  ast <SCHEMA> [-o|--out <FILE>] [--no-op]\n" ++
  "  help [COMMAND]\n\nOptions:\n  -h, --help\n  -V, --version\n"

def version : String := "json-accessor-gen 0.1.0\n"

/-- Runs the command line: status 0 for success, 1 for failure, 2 for misuse. -/
def run (args : List String) : m Report :=
  match Request.ofArguments args with
  | .ok request => request.run
  | .error .help => pure ⟨0, usage, ""⟩
  | .error .version => pure ⟨0, version, ""⟩
  | .error .misuse => pure ⟨2, "", usage⟩

end Accessors.Command
