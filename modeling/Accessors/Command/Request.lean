import Accessors.Text.Quoted

/-!
What the command line asks for.
-/

set_option autoImplicit false

namespace Accessors.Command

/-- Write the two files of an output class, or show them. -/
structure Generate where
  qualifiedName : String
  schema : String
  outDir : String
  config : Option String
  stdout : Bool
  noOp : Bool
deriving DecidableEq

/-- Write the tree of a schema, or show it. -/
structure Ast where
  schema : String
  out : Option String
  noOp : Bool
deriving DecidableEq

inductive Request where
  | generate (request : Generate)
  | ast (request : Ast)
deriving DecidableEq

namespace Request

def margin (level : Nat) : String := String.ofList (List.replicate (4 * level) ' ')

/-- A line of the echo: a field with its value, and a comma. -/
def field (level : Nat) (name value : String) : String :=
  margin level ++ name ++ ": " ++ value ++ ",\n"

def optional (level : Nat) : Option String → String
  | none => "None"
  | some value =>
    "Some(\n" ++ margin (level + 1) ++ Text.quoted value ++ ",\n" ++ margin level ++ ")"

def flag (value : Bool) : String := if value then "true" else "false"

def echoFields : Request → String × String × String
  | generate r => ("Generate", "GenerateOut",
      field 3 "qualified_name" (Text.quoted r.qualifiedName) ++
      field 3 "schema" (Text.quoted r.schema) ++
      field 3 "out_dir" (Text.quoted r.outDir) ++
      field 3 "config" (optional 3 r.config) ++
      field 3 "stdout" (flag r.stdout) ++
      field 3 "no_op" (flag r.noOp))
  | ast r => ("Ast", "AstOut",
      field 3 "schema" (Text.quoted r.schema) ++
      field 3 "out" (optional 3 r.out) ++
      field 3 "no_op" (flag r.noOp))

/-- A request as it was understood, field by field. -/
def echo (request : Request) : String :=
  let (name, type, fields) := request.echoFields
  "CommandLineInterface \x7b\n" ++
    margin 1 ++ "cmd: " ++ name ++ "(\n" ++
    margin 2 ++ type ++ " \x7b\n" ++ fields ++ margin 2 ++ "\x7d,\n" ++
    margin 1 ++ "),\n" ++ "\x7d\n"

end Request

end Accessors.Command
