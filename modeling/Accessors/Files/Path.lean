/-!
Paths. The steps of a path are its pieces between slashes; empty pieces do not count.
-/

set_option autoImplicit false

namespace Accessors

structure Path where
  absolute : Bool
  steps : List String
  /-- A slash follows the last step. -/
  slash : Bool
deriving DecidableEq

namespace Path

/-- A step has at most this many bytes. -/
def stepLimit : Nat := 255

/-- A path as it is written has at most this many bytes. -/
def limit : Nat := 4095

def ofText (path : String) : Path :=
  let cs := path.toList
  { absolute := cs.head? == some '/'
    steps := ((cs.splitOn '/').filter (!·.isEmpty)).map String.ofList
    slash := cs.getLast? == some '/' }

def isDots (step : String) : Bool := step = "." || step = ".."

/-- The steps that lead somewhere: a single dot counts only at the start of a relative path. -/
def components (p : Path) : List String :=
  match p.absolute, p.steps with
  | false, "." :: rest => "." :: rest.filter (· != ".")
  | _, steps => steps.filter (· != ".")

/-- The paths with some of the last components left out, the longest first. The path to nowhere
in particular is not one of them. -/
def above (p : Path) : List Path :=
  let components := p.components
  let lengths := (List.range components.length).reverse
  let paths := lengths.map fun n => Path.mk p.absolute (components.take n) false
  paths.filter fun q => q.absolute || !q.steps.isEmpty

/-- The last component, unless it only leads elsewhere. -/
def fileName? (p : Path) : Option String :=
  p.components.getLast?.filter (!isDots ·)

/-- A file name up to its last dot; a dot at its start does not count. -/
def stem (name : String) : String :=
  let (ending, front) := (name.toList.reverse.span (· != '.'))
  match front with
  | _ :: c :: cs => String.ofList (c :: cs).reverse
  | _ => String.ofList (ending ++ front).reverse

/-- The name of a file without its ending. -/
def fileStem? (p : Path) : Option String := p.fileName?.map stem

/-- Whether a piece between slashes, given with its place in the path, is a component. -/
def isComponent (piece : List Char × Nat) : Bool :=
  !piece.1.isEmpty && (piece.1 != ['.'] || piece.2 == 0)

/-- The directory that a path leads into by its last component, as it is written before that
component; it may be empty, for the one to work in. -/
def directory? (path : String) : Option String :=
  match ((path.toList.splitOn '/').zipIdx).reverse.dropWhile (!isComponent ·) with
  | [] => none
  | _ :: front =>
    match front.dropWhile (!isComponent ·) with
    | [] => some (if path.toList.head? = some '/' then "/" else "")
    | pieces => some (String.ofList (List.intercalate ['/'] (pieces.reverse.map (·.1))))

/-- The path of a file in a directory. -/
def join (directory name : String) : String :=
  if directory.toList.getLast? = some '/' then directory ++ name else directory ++ "/" ++ name

end Path

end Accessors
