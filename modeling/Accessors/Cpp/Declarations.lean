import Accessors.Cpp.Emit
import Accessors.Settings.Basic

/-!
Declarations of accessors: nested classes and the signatures of their getters. They stand in the
body of the output class, so they start at level one.
-/

set_option autoImplicit false

namespace Accessors.Cpp

structure Declarations where
  out : Writer
  log : List Event

namespace Declarations

def new (settings : Settings) : Declarations := ⟨.new settings.indent 1, []⟩

def enterClass (name : String) (s : Declarations) : Declarations :=
  let type := typeName name
  { out := s.out.blank
      |>.line ("class " ++ type ++ " \x7b")
      |>.line "public:"
      |>.indent
      |>.line (type ++ "() = default;")
      |>.line (type ++ "(const " ++ type ++ "& other) = default;")
      |>.line (type ++ "(const " ++ handleType ++ " &root);")
      |>.blank
    log := s.log ++ [.declaringClass type s.out.level] }

/-- Closes a class and declares its getter in the scope around it. -/
def leaveClass (name : String) (s : Declarations) : Declarations :=
  { s with out := s.out.dedent
      |>.line "private:"
      |>.indent
      |>.line (handleType ++ " " ++ handleField ++ ";")
      |>.dedent
      |>.line "\x7d;"
      |>.line (typeName name ++ " " ++ accessorName name ++ "() const;") }

def getter (type name : String) (s : Declarations) : Declarations :=
  { s with out := s.out.line (type ++ " " ++ accessorName name ++ "() const;") }

def visit (settings : Settings) : Visit → Emit Declarations Unit
  | .enter name _ _ => modify (enterClass name)
  | .leave name _ _ => modify (leaveClass name)
  | .scalar kind name _ => do
    let binding ← Emit.ofExcept (settings.binding kind)
    modify (getter binding.native name)
  | .array kind _ name _ => do
    let binding ← Emit.ofExcept (settings.binding kind)
    modify (getter (binding.native ++ "*") name)

end Declarations

/-- The declarations of the accessors of a tree. -/
def declarations (settings : Settings) (nodes : List Node) : Logged String :=
  Emit.logged Declarations.log (·.out.text)
    (Emit.walk (Declarations.visit settings) (.new settings) nodes)

end Accessors.Cpp
