/-!
What a program can do with files, and how it can fail.
-/

set_option autoImplicit false

namespace Accessors

inductive FileError where
  | notFound
  | alreadyExists
  | notDirectory
  | isDirectory
  | nameTooLong
  /-- The content is not UTF-8. -/
  | notText
  | other (message : String)
deriving DecidableEq

def FileError.message : FileError → String
  | notFound => "No such file or directory (os error 2)"
  | alreadyExists => "File exists (os error 17)"
  | notDirectory => "Not a directory (os error 20)"
  | isDirectory => "Is a directory (os error 21)"
  | nameTooLong => "File name too long (os error 36)"
  | notText => "stream did not contain valid UTF-8"
  | other message => message

/-- Programs `m` that work with files by their paths. -/
class Files (m : Type → Type) where
  read (path : String) : m (Except FileError String)
  /-- Makes a directory and those above it, as far as they are missing. -/
  makeDirs (path : String) : m (Except FileError Unit)
  write (path content : String) : m (Except FileError Unit)
  remove (path : String) : m (Except FileError Unit)

end Accessors
