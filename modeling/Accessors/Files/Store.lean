import Accessors.Files.Basic
import Accessors.Files.Path

/-!
A store of files: directories and the files in them, without links, and a directory to work in.
-/

set_option autoImplicit false

namespace Accessors

inductive Entry where
  | file (content : ByteArray)
  | directory

/-- The names from the root of a store to an entry. -/
abbrev Location := List String

structure Store where
  entries : List (Location × Entry)
  workplace : Location

namespace Store

/-- The root is always there. -/
def lookup (s : Store) (place : Location) : Option Entry :=
  if place.isEmpty then some .directory else s.entries.lookup place

def isDirectoryAt (s : Store) (place : Location) : Bool :=
  match s.lookup place with
  | some .directory => true
  | _ => false

def set (s : Store) (place : Location) (entry : Entry) : Store :=
  { s with entries := (place, entry) :: s.entries.filter (·.1 != place) }

def erase (s : Store) (place : Location) : Store :=
  { s with entries := s.entries.filter (·.1 != place) }

theorem lookup_filter_ne {entries : List (Location × Entry)} {place other : Location}
    (h : other ≠ place) : (entries.filter (·.1 != place)).lookup other = entries.lookup other := by
  induction entries with
  | nil => rfl
  | cons head tail ih =>
    obtain ⟨key, entry⟩ := head
    by_cases hkey : key = place
    · subst hkey
      simp [List.lookup_cons, ih, beq_false_of_ne h]
    · simp [List.lookup_cons, ih, hkey]

/-- Only the place that is written changes. -/
theorem lookup_set (s : Store) (place other : Location) (entry : Entry) (h : place ≠ []) :
    (s.set place entry).lookup other = if other = place then some entry else s.lookup other := by
  by_cases hother : other = place
  · simp [hother, lookup, set, h]
  · simp [lookup, set, List.lookup_cons, hother, beq_false_of_ne hother, lookup_filter_ne hother]

/-- Only the place that is erased changes. -/
theorem lookup_erase_ne (s : Store) {place other : Location} (h : other ≠ place) :
    (s.erase place).lookup other = s.lookup other := by
  simp [lookup, erase, lookup_filter_ne h]

/-- Only a directory can be entered. -/
def enter (s : Store) (place : Location) : Except FileError Unit :=
  match s.lookup place with
  | none => .error .notFound
  | some (.file _) => .error .notDirectory
  | some .directory => .ok ()

/-- Goes on from a directory. Two dots lead up, and from the root nowhere else. -/
def goTo (s : Store) (place : Location) (step : String) : Except FileError Location := do
  s.enter place
  if Path.stepLimit < step.utf8ByteSize then .error .nameTooLong
  else if step = "." then .ok place
  else if step = ".." then .ok place.dropLast
  else .ok (place ++ [step])

/-- Where a path leads. There need not be an entry, but all steps before the last are
directories. -/
def resolve (s : Store) (p : Path) : Except FileError Location :=
  p.steps.foldlM s.goTo (if p.absolute then [] else s.workplace)

def isDirectory (s : Store) (p : Path) : Bool :=
  match s.resolve p with
  | .ok place => s.isDirectoryAt place
  | .error _ => false

/-- Steps over a store that may fail; what was done before a failure stays done. -/
abbrev Access := ExceptT FileError (StateM Store)

/-- Where a path leads, in the present store. -/
def locate (p : Path) : Access Location := do
  let s ← get
  ExceptT.mk (pure (s.resolve p))

/-- Only a directory can be named with a slash behind it. -/
def read (p : Path) : Access ByteArray := do
  let place ← locate p
  match (← get).lookup place with
  | none => throw .notFound
  | some .directory => throw .isDirectory
  | some (.file content) => if p.slash then throw .notDirectory else return content

/-- A path that can only mean a directory: it ends in dots or a slash, or has no steps. -/
def meansDirectory (p : Path) : Bool := p.slash || p.steps.getLast?.all Path.isDots

/-- Replaces the content of a file, or makes the file. For a path that can only mean a directory
the last step is not looked up, only the way to it. -/
def write (p : Path) (content : ByteArray) : Access Unit := do
  if meansDirectory p then
    let outer ← locate { p with steps := p.steps.dropLast }
    let s ← get
    ExceptT.mk (pure (s.enter outer))
    throw .isDirectory
  let place ← locate p
  if (← get).isDirectoryAt place then throw .isDirectory
  modify (·.set place (.file content))

def remove (p : Path) : Access Unit := do
  let place ← locate p
  match (← get).lookup place with
  | none => throw .notFound
  | some .directory => throw .isDirectory
  | some (.file _) => if p.slash then throw .notDirectory else modify (·.erase place)

/-- Makes one directory where nothing is yet. -/
def makeDir (p : Path) : Access Unit := do
  let place ← locate p
  if ((← get).lookup place).isSome then throw .alreadyExists
  modify (·.set place .directory)

/-- Makes a directory unless it is there. -/
def ensureDir (p : Path) : Access Unit := fun s =>
  match makeDir p s with
  | (.error e, s) => (if s.isDirectory p then .ok () else .error e, s)
  | done => done

/-- Makes a directory; if the way to it is missing, those around it are made first. -/
def makeDirsFrom (p : Path) : List Path → Access Unit
  | [] => ensureDir p
  | outer :: rest => do
    match (← get).resolve p with
    | .error .notFound => makeDirsFrom outer rest
    | _ => pure ()
    ensureDir p

def makeDirs (p : Path) : Access Unit := makeDirsFrom p p.above

/-- What is done at the path that a text spells. -/
def atPath {α : Type} (path : String) (access : Path → Access α) : Access α :=
  if Path.limit < path.utf8ByteSize then throw .nameTooLong else access (.ofText path)

/-- Contents are read and written as UTF-8. -/
instance : Files (StateM Store) where
  read path := fun s =>
    let (result, s) := atPath path read s
    (match result with
      | .ok bytes => (String.fromUTF8? bytes).elim (.error .notText) .ok
      | .error e => .error e, s)
  makeDirs path := atPath path makeDirs
  write path content := atPath path (write · content.toUTF8)
  remove path := atPath path remove

end Store

end Accessors
