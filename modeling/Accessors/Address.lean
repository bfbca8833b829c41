import Accessors.Error
import Accessors.Text.Blank

/-!
Addresses: paths from the root of a document, with a `/` before each step. A step is the token of
a declaration, so it may hold index subscripts, and `/` of its own.
-/

set_option autoImplicit false

namespace Accessors.Address

def root : String := "/"

/-- A separator is put between the two unless the parent ends in one. -/
def extend (parent token : String) : String :=
  if parent.toList.getLast? = some '/' then parent ++ token else parent ++ "/" ++ token

/-- A step of an address: the key of an object, then the indices of nested arrays. -/
structure Segment where
  key : String
  indices : List String
deriving DecidableEq

/-- Reads `[e` as the trimmed index `e`, which may not be empty or hold a bracket. -/
def index? : List Char → Option String
  | '[' :: cs =>
    let index := Text.trim cs
    if index.isEmpty || index.contains '[' then none else some (String.ofList index)
  | _ => none

/-- Reads `[e]` any number of times: each closing bracket ends an index, and nothing follows the
last one. -/
def indices? (cs : List Char) : Option (List String) :=
  let pieces := cs.splitOn ']'
  if pieces.getLast? = some [] then pieces.dropLast.mapM index? else none

/-- The key goes up to the first bracket and may not be empty. -/
def Segment.ofPiece? (piece : List Char) : Option Segment :=
  match piece.takeWhile (· != '[') with
  | [] => none
  | key => (indices? (piece.dropWhile (· != '['))).map (⟨String.ofList key, ·⟩)

def Segment.ofPiece (piece : List Char) : Except Error Segment :=
  match Segment.ofPiece? piece with
  | some segment => .ok segment
  | none => .error (.invalidToken (String.ofList piece))

/-- The steps of an address; separators next to each other count as one. -/
def segments (address : String) : Except Error (List Segment) :=
  ((address.toList.splitOn '/').filter (!·.isEmpty)).mapM Segment.ofPiece

end Accessors.Address
