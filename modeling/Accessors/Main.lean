import Accessors.Command.Run

/-!
The command line on the files of the system.
-/

set_option autoImplicit false

namespace Accessors

/-- The causes that the program tells apart; others keep the system's own text. -/
def FileError.ofSystem : IO.Error → FileError
  | .noFileOrDirectory .. => .notFound
  | .alreadyExists .. => .alreadyExists
  | .inappropriateType _ 21 _ => .isDirectory
  | .inappropriateType .. => .notDirectory
  | .invalidArgument _ 36 _ => .nameTooLong
  | e => .other (toString e)

def FileError.attempt {α : Type} (action : IO α) : IO (Except FileError α) := do
  try return .ok (← action)
  catch e => return .error (.ofSystem e)

instance : Files IO where
  read path := do
    match ← FileError.attempt (IO.FS.readBinFile path) with
    | .ok bytes => return (String.fromUTF8? bytes).elim (.error .notText) .ok
    | .error e => return .error e
  makeDirs path :=
    FileError.attempt (if path.isEmpty then pure () else IO.FS.createDirAll path)
  write path content := FileError.attempt (IO.FS.writeFile path content)
  remove path := FileError.attempt (IO.FS.removeFile path)

end Accessors

def main (args : List String) : IO UInt32 := do
  let report : Accessors.Command.Report ← Accessors.Command.run args
  IO.print report.stdout
  IO.eprint report.stderr
  return report.exit.toUInt32
