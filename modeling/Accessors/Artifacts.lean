import Accessors.Cpp.Declarations
import Accessors.Cpp.Definitions
import Accessors.Schema.Parse
import Accessors.Template.Boilerplate

/-!
From a schema to the two files that give access to its documents. A class may not have the type
name of the class around it: its name there would mean the constructor.
-/

set_option autoImplicit false

namespace Accessors

namespace Cpp

mutual

/-- Refuses the first class, in the order of the schema, that is named like the class around it. -/
def checkNode (enclosing : String) : Node → Except Error Unit
  | .classDef name _ members =>
    if typeName name = enclosing then .error (.clash (typeName name))
    else checkClassNames (typeName name) members
  | .scalar .. => .ok ()
  | .array .. => .ok ()

def checkClassNames (enclosing : String) : List Node → Except Error Unit
  | [] => .ok ()
  | node :: rest => do
    checkNode enclosing node
    checkClassNames enclosing rest

end

end Cpp

structure Artifacts where
  header : String
  source : String
deriving DecidableEq

/-- Generates both files, or neither. The reports are those of the reading and the sizes of the
two fragments; the emitters keep their own. -/
def generate (schema : String) (name : QualifiedName) (includeBase : String)
    (settings : Settings) : Logged Artifacts := do
  let nodes ← Schema.parse schema
  Logged.ofExcept (Cpp.checkClassNames name.className nodes)
  let declarations ← Logged.ofExcept (Cpp.declarations settings nodes).outcome
  let definitions ← Logged.ofExcept (Cpp.definitions settings name.className nodes).outcome
  Logged.report (.emitted declarations.utf8ByteSize definitions.utf8ByteSize)
  let header ← Logged.ofExcept
    (Template.header.render (Template.values name includeBase declarations))
  let source ← Logged.ofExcept
    (Template.source.render (Template.values name includeBase definitions))
  return ⟨header, source⟩

end Accessors
