import Accessors.Schema.Node

/-!
Why a schema, a name or a template is refused.
-/

set_option autoImplicit false

namespace Accessors

/-- What is wrong with a declaration. -/
inductive Reason where
  /-- There is no second word. -/
  | missingName
  /-- The name of an array field is not of the form `name[size]`. -/
  | unsizedName
  /-- The kind of an array field is not of the form `kind[size]`. -/
  | unsizedKind
  | unknownElement (kind : String)
  | unknownKeyword (word : String)
deriving DecidableEq

def Reason.message : Reason → String
  | missingName => "missing field name"
  | unsizedName => "expected `name[size]`"
  | unsizedKind => "expected `kind[size]`"
  | unknownElement kind => "unknown array element kind `" ++ kind ++ "`"
  | unknownKeyword word => "unknown keyword `" ++ word ++ "`"

inductive Error where
  | malformed (line : Nat) (text : String) (reason : Reason)
  /-- The class that is opened on this line has no closing line. -/
  | unterminated (line : Nat) (name : String)
  | invalidToken (token : String)
  | unbound (kind : Kind)
  /-- A class has the type name of the class around it. -/
  | clash (name : String)
  | unfilled (hole : String)
  | invalidName (name : String)
deriving DecidableEq

def Error.message : Error → String
  | malformed line text reason =>
    s!"line {line}: malformed declaration `" ++ text ++ "`: " ++ reason.message
  | unterminated line name => s!"line {line}: class `" ++ name ++ "` is never closed with `\x7d`"
  | invalidToken token => "invalid token `" ++ token ++ "`"
  | unbound kind => "no native type binding for scalar kind `" ++ kind.keyword ++ "`"
  | clash name => "class `" ++ name ++ "` has the same name as its enclosing class"
  | unfilled hole => "template placeholder `$\x7b" ++ hole ++ "\x7d` has no value"
  | invalidName name =>
    "invalid qualified name `" ++ name ++ "` (expected e.g. `Outer::Inner::Class`)"

end Accessors
