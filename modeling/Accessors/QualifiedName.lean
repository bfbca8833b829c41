import Accessors.Error
import Accessors.Text.Blank

/-!
Names of output classes with the namespaces around them.
-/

set_option autoImplicit false

namespace Accessors

structure QualifiedName where
  namespaces : List String
  className : String
deriving DecidableEq

namespace QualifiedName

/-- The parts between double colons, cut from left to right. -/
def splitScopes : List Char → List (List Char)
  | ':' :: ':' :: cs => [] :: splitScopes cs
  | c :: cs => (splitScopes cs).modifyHead (c :: ·)
  | [] => [[]]

/-- A part of a name is not empty and has no blank. -/
def isPart (part : List Char) : Bool := !part.isEmpty && !part.any Text.isBlank

/-- Blanks around the parts do not count; the last part is the class. -/
def parse (name : String) : Except Error QualifiedName :=
  let parts := (splitScopes name.toList).map Text.trim
  if parts.all isPart then
    .ok ⟨parts.dropLast.map String.ofList, String.ofList (parts.getLastD [])⟩
  else .error (.invalidName name)

/-- Opens the namespaces, outermost first. -/
def opening (name : QualifiedName) : String :=
  String.join (name.namespaces.map fun space => "namespace " ++ space ++ " \x7b\n")

def closing (name : QualifiedName) : String :=
  String.join (name.namespaces.map fun _ => "\x7d\n")

end QualifiedName

end Accessors
