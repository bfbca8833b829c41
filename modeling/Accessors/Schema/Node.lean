/-!
The tree of a schema, with the kinds of scalar value that it can declare. A walk over a tree
enters a class, then visits its members in order, then leaves it.
-/

set_option autoImplicit false

namespace Accessors

inductive Kind where
  | bool
  | int
  | float
  | string
deriving DecidableEq

namespace Kind

def all : List Kind := [bool, int, float, string]

/-- The word that declares a field of this kind. -/
def keyword : Kind → String
  | bool => "bool"
  | int => "int"
  | float => "float"
  | string => "string"

def ofKeyword? (word : String) : Option Kind := all.find? (·.keyword == word)

end Kind

/-- A declaration with what it encloses. The size of an array is kept as it is written. -/
inductive Node where
  | classDef (name address : String) (members : List Node)
  | scalar (kind : Kind) (name address : String)
  | array (kind : Kind) (size name address : String)

namespace Node

def name : Node → String
  | classDef name .. => name
  | scalar _ name _ => name
  | array _ _ name _ => name

def address : Node → String
  | classDef _ address _ => address
  | scalar _ _ address => address
  | array _ _ _ address => address

mutual

/-- The number of nodes in a tree, its own root included. -/
def size : Node → Nat
  | classDef _ _ members => 1 + total members
  | scalar .. => 1
  | array .. => 1

/-- The number of nodes at all depths. -/
def total : List Node → Nat
  | [] => 0
  | node :: rest => node.size + total rest

end

end Node

/-- A step of a walk, with the node that it is about. -/
inductive Visit where
  | enter (name address : String) (members : List Node)
  | leave (name address : String) (members : List Node)
  | scalar (kind : Kind) (name address : String)
  | array (kind : Kind) (size name address : String)

namespace Node

variable {m : Type → Type} [Monad m]

mutual

def walk (visit : Visit → m Unit) : Node → m Unit
  | classDef name address members => do
    visit (.enter name address members)
    walkAll visit members
    visit (.leave name address members)
  | scalar kind name address => visit (.scalar kind name address)
  | array kind size name address => visit (.array kind size name address)

/-- Visits every node of a forest; what stops a visit stops the walk. -/
def walkAll (visit : Visit → m Unit) : List Node → m Unit
  | [] => pure ()
  | node :: rest => do
    walk visit node
    walkAll visit rest

end

end Node

end Accessors
