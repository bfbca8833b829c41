import Accessors.Address
import Accessors.Cpp.Emit
import Accessors.Settings.Basic

/-!
Definitions of accessors: a constructor for every nested class, and a body for every getter but
those of arrays. Names are qualified by the type names of the classes around them, and the steps
of an address are subscripts of the document.
-/

set_option autoImplicit false

namespace Accessors.Cpp

/-- A character inside a string literal. -/
def escapeChar (c : Char) : List Char :=
  if c = '\\' then ['\\', '\\'] else if c = '"' then ['\\', '"'] else [c]

def escape (key : String) : String := String.ofList (key.toList.flatMap escapeChar)

/-- A key is a string literal, an index is written as it is. -/
def subscript (segment : Address.Segment) : String :=
  "[\"" ++ escape segment.key ++ "\"]" ++
    String.join (segment.indices.map fun index => "[" ++ index ++ "]")

def subscripts (address : String) : Except Error String :=
  return String.join ((← Address.segments address).map subscript)

/-- The scope lists type names from the output class inwards. -/
structure Definitions where
  scope : List String
  out : Writer
  log : List Event

namespace Definitions

def new (settings : Settings) (className : String) : Definitions :=
  ⟨[className], .new settings.indent 0, []⟩

def qualified (s : Definitions) : String := String.intercalate "::" s.scope

def report (event : Event) (s : Definitions) : Definitions := { s with log := s.log ++ [event] }

/-- Defines the constructor of a class from the shared handle, in the scope of the class. -/
def enterClass (name : String) (s : Definitions) : Definitions :=
  let type := typeName name
  let s := { s with scope := s.scope ++ [type] }
  { s with
    out := s.out
      |>.line (s.qualified ++ "::" ++ type ++ "(const " ++ handleType ++ " &root) : " ++
        handleField ++ "(root) \x7b")
      |>.blank
      |>.line "\x7d"
      |>.blank
    log := s.log ++ [.definingClass s.qualified] }

/-- Defines a getter in the present scope. -/
def getter (type symbol value : String) (s : Definitions) : Definitions :=
  { s with out := s.out
      |>.line (type ++ " " ++ s.qualified ++ "::" ++ accessorName symbol ++ "() const \x7b")
      |>.indent
      |>.line ("return " ++ value ++ ";")
      |>.dedent
      |>.line "\x7d"
      |>.blank }

/-- Leaves a class and defines its getter in the scope around it. -/
def leaveClass (name : String) (s : Definitions) : Definitions :=
  let type := typeName name
  let s := { s with scope := s.scope.dropLast }
  s.getter (s.qualified ++ "::" ++ type) name (type ++ "(" ++ handleField ++ ")")

def visit (settings : Settings) : Visit → Emit Definitions Unit
  | .enter name _ _ => modify (enterClass name)
  | .leave name _ _ => modify (leaveClass name)
  | .scalar kind name address => do
    let binding ← Emit.ofExcept (settings.binding kind)
    let path ← Emit.ofExcept (subscripts address)
    modify (getter binding.native name
      ("(*" ++ handleField ++ ")" ++ path ++ "." ++ binding.extract ++ "()"))
  | .array kind _ name _ => do
    let _ ← Emit.ofExcept (settings.binding kind)
    modify fun s => s.report (.bodyless (s.qualified ++ "::" ++ accessorName name))

end Definitions

/-- The definitions of the accessors of a tree, in an output class. -/
def definitions (settings : Settings) (className : String) (nodes : List Node) : Logged String :=
  Emit.logged Definitions.log (·.out.text)
    (Emit.walk (Definitions.visit settings) (.new settings className) nodes)

end Accessors.Cpp
