import Accessors.Address
import Accessors.Event
import Accessors.Schema.Declaration

/-!
From the lines of a schema to its tree. A class takes the lines up to its closing line; at top
level no line closes anything and the members end with the text.
-/

set_option autoImplicit false

namespace Accessors.Schema

/-- Where declarations are read: an address, and the line number and name of the open class. -/
structure Scope where
  address : String
  opening : Option (Nat × String)

def Scope.top : Scope := ⟨Address.root, none⟩

/-- Lines that are left after reading from `lines`. -/
abbrev Rest (lines : List Line) := { rest : List Line // rest.length ≤ lines.length }

/-- Reads the members of a scope and the line that closes it. -/
def members (scope : Scope) (lines : List Line) : Logged (List Node × Rest lines) :=
  match lines with
  | [] =>
    match scope.opening with
    | none => pure ([], ⟨[], Nat.le_refl _⟩)
    | some (number, name) => .ofExcept (.error (.unterminated number name))
  | line :: lines =>
    if scope.opening.isSome && line.closes then
      pure ([], ⟨lines, Nat.le_succ _⟩)
    else do
      match ← Logged.ofExcept (Declaration.ofLine line) with
      | .openClass name token =>
        let address := Address.extend scope.address token
        let (inner, ⟨rest, h⟩) ← members ⟨address, some (line.number, name)⟩ lines
        Logged.report (.closedClass name inner.length)
        let (nodes, ⟨rest', h'⟩) ← members scope rest
        return (.classDef name address inner :: nodes,
          ⟨rest', Nat.le_succ_of_le (Nat.le_trans h' h)⟩)
      | .scalar kind name token =>
        let (nodes, ⟨rest, h⟩) ← members scope lines
        return (.scalar kind name (Address.extend scope.address token) :: nodes,
          ⟨rest, Nat.le_succ_of_le h⟩)
      | .array kind size name token =>
        let (nodes, ⟨rest, h⟩) ← members scope lines
        return (.array kind size name (Address.extend scope.address token) :: nodes,
          ⟨rest, Nat.le_succ_of_le h⟩)
termination_by lines.length

/-- The tree of a schema text, or the first fault on the way to it. -/
def parse (source : String) : Logged (List Node) := do
  let (nodes, _) ← members .top (Line.ofText source)
  Logged.report (.parsedSchema (Node.total nodes))
  return nodes

end Accessors.Schema
