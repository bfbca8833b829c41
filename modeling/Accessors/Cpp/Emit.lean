import Accessors.Event
import Accessors.Text.Upper

/-!
Emitters: steps that write lines of code while a tree is walked. A step that fails leaves a state
behind, and the emitter can go on from it. The names that the generated code gives to symbols are
here too.
-/

set_option autoImplicit false

namespace Accessors

/-- A symbol with its first character in upper case. -/
def typeName (symbol : String) : String :=
  match symbol.toList with
  | [] => ""
  | first :: rest => String.ofList (Text.upper first ++ rest)

def accessorName (symbol : String) : String := "get" ++ typeName symbol

end Accessors

namespace Accessors.Cpp

/-- Text written so far, with the indentation of the next line. -/
structure Writer where
  unit : String
  level : Nat
  text : String

namespace Writer

def new (unit : String) (level : Nat) : Writer := ⟨unit, level, ""⟩

/-- `n` copies of a text. -/
def copies (unit : String) : Nat → String
  | 0 => ""
  | n + 1 => unit ++ copies unit n

def line (w : Writer) (content : String) : Writer :=
  { w with text := w.text ++ copies w.unit w.level ++ content ++ "\n" }

/-- An empty line carries no indentation. -/
def blank (w : Writer) : Writer := { w with text := w.text ++ "\n" }

def indent (w : Writer) : Writer := { w with level := w.level + 1 }

/-- The level stops at zero. -/
def dedent (w : Writer) : Writer := { w with level := w.level - 1 }

end Writer

/-- Steps over a state `σ` that may fail. -/
abbrev Emit (σ : Type) := ExceptT Error (StateM σ)

/-- The type and the name of the shared handle to the document in generated code. -/
def handleType : String := "ValuePtr"

def handleField : String := "m_root"

namespace Emit

variable {σ : Type}

/-- A step that only looks up a value. -/
def ofExcept {α : Type} (outcome : Except Error α) : Emit σ α := ExceptT.mk (pure outcome)

/-- Walks a forest from a first state. -/
def walk (visit : Visit → Emit σ Unit) (start : σ) (nodes : List Node) : Except Error Unit × σ :=
  (Node.walkAll visit nodes : Emit σ Unit) start

/-- The events of a walk with the text that it wrote, if no step failed. -/
def logged (log : σ → List Event) (text : σ → String) (result : Except Error Unit × σ) :
    Logged String :=
  ⟨log result.2, result.1.map fun _ => text result.2⟩

end Emit

end Accessors.Cpp
