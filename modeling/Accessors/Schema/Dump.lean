import Accessors.Json.Layout
import Accessors.Schema.Node

/-!
The tree of a schema as a JSON text.
-/

set_option autoImplicit false

namespace Accessors.Node

open Json

mutual

/-- A node as a JSON object that starts at a level. -/
def dump (level : Nat) : Node → String
  | classDef name address members =>
    Layout.object level [
      ("node", Layout.text "class"),
      ("name", Layout.text name),
      ("address", Layout.text address),
      ("members", Layout.list (level + 1) (dumpAll (level + 2) members))]
  | scalar kind name address =>
    Layout.object level [
      ("node", Layout.text "primitive"),
      ("kind", Layout.text kind.keyword),
      ("name", Layout.text name),
      ("address", Layout.text address)]
  | array kind size name address =>
    Layout.object level [
      ("node", Layout.text "array"),
      ("element_kind", Layout.text kind.keyword),
      ("size", Layout.text size),
      ("name", Layout.text name),
      ("address", Layout.text address)]

def dumpAll (level : Nat) : List Node → List String
  | [] => []
  | node :: rest => dump level node :: dumpAll level rest

end

/-- A whole tree as a JSON object. -/
def dumpTree (nodes : List Node) : String :=
  Layout.object 0 [("nodes", Layout.list 1 (dumpAll 2 nodes))]

end Accessors.Node
