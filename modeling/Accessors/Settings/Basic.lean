import Accessors.Error

/-!
What the generated code looks like: the indentation and the native types of scalars.
-/

set_option autoImplicit false

namespace Accessors

/-- The native type of an accessor, and the method that takes its value out of a document. -/
structure Binding where
  native : String
  extract : String
deriving DecidableEq

structure Settings where
  indent : String
  bindings : Kind → Option Binding

namespace Settings

def standardBindings : Kind → Option Binding
  | .bool => some ⟨"bool", "asBool"⟩
  | .int => some ⟨"int", "asInt"⟩
  | .float => some ⟨"float", "asFloat"⟩
  | .string => some ⟨"std::string", "asString"⟩

def standard : Settings := ⟨"\t", standardBindings⟩

def binding (settings : Settings) (kind : Kind) : Except Error Binding :=
  match settings.bindings kind with
  | some binding => .ok binding
  | none => .error (.unbound kind)

end Settings

end Accessors
