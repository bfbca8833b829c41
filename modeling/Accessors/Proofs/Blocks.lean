import Accessors.Proofs.Outline

/-!
Definitions as a list of blocks. A class gives the block of its constructor, the blocks of its
members and the block of its getter. A scalar gives the block of its getter, and an array gives none.
The list is read off the tree without any state, and the emitter writes just these blocks, one after
the other.
-/

set_option autoImplicit false

namespace Accessors.Cpp

def Getter.qualified (getter : Getter) : String := getter.owner ++ "::" ++ getter.name

inductive Block where
  | constructor (owner type : String)
  | getter (getter : Getter) (value : String)

namespace Block

def text (unit : String) : Block → String
  | constructor owner type =>
    owner ++ "::" ++ type ++ "(const ValuePtr &root) : m_root(root) \x7b\n\n\x7d\n\n"
  | getter g value =>
    g.type ++ " " ++ g.qualified ++ "() const \x7b\n" ++ unit ++ "return " ++ value ++
      ";\n\x7d\n\n"

def textAll (unit : String) (blocks : List Block) : String := String.join (blocks.map (text unit))

def getter? : Block → Option Getter
  | constructor .. => none
  | getter g _ => some g

@[simp] theorem textAll_nil (unit : String) : textAll unit [] = "" := rfl

@[simp] theorem textAll_cons (unit : String) (block : Block) (blocks : List Block) :
    textAll unit (block :: blocks) = block.text unit ++ textAll unit blocks := by
  simp [textAll]

@[simp] theorem textAll_append (unit : String) (xs ys : List Block) :
    textAll unit (xs ++ ys) = textAll unit xs ++ textAll unit ys := by
  simp [textAll, String.join_append]

end Block

namespace Definitions

mutual

/-- The blocks of a node in a scope. -/
def blocks (settings : Settings) (scope : List String) : Node → List Block
  | .classDef name _ members =>
    let type := typeName name
    let owner := String.intercalate "::" scope
    .constructor (String.intercalate "::" (scope ++ [type])) type ::
      (blocksAll settings (scope ++ [type]) members ++
        [.getter ⟨owner ++ "::" ++ type, owner, accessorName name⟩
          (type ++ "(" ++ handleField ++ ")")])
  | .scalar kind name address =>
    match settings.bindings kind, subscripts address with
    | some binding, .ok path =>
      [.getter ⟨binding.native, String.intercalate "::" scope, accessorName name⟩
        (body binding path)]
    | _, _ => []
  | .array .. => []

def blocksAll (settings : Settings) (scope : List String) : List Node → List Block
  | [] => []
  | node :: rest => blocks settings scope node ++ blocksAll settings scope rest

end

theorem foldl_scopeAfter_visitsAll (nodes : List Node) (scope : List String) :
    (Node.visitsAll nodes).foldl scopeAfter scope = scope := by
  induction nodes using Node.forest_induction generalizing scope with
  | nil => rfl
  | classDef name address members rest ihMembers ihRest =>
    rw [Node.visitsAll_classDef, List.foldl_cons, List.foldl_append, ihMembers, List.foldl_cons,
      ihRest]
    exact List.dropLast_concat
  | scalar kind name address rest ih => exact ih scope
  | array kind size name address rest ih => exact ih scope

theorem blocksAll_classDef (settings : Settings) (scope : List String) (name address : String)
    (members rest : List Node) :
    blocksAll settings scope (.classDef name address members :: rest) =
      .constructor (String.intercalate "::" (scope ++ [typeName name])) (typeName name) ::
        (blocksAll settings (scope ++ [typeName name]) members ++
          .getter ⟨String.intercalate "::" scope ++ "::" ++ typeName name,
            String.intercalate "::" scope, accessorName name⟩
              (typeName name ++ "(" ++ handleField ++ ")") :: blocksAll settings scope rest) := by
  simp [blocksAll, blocks]

section Rows
variable (settings : Settings) (scope : List String)

theorem rowsAll_cons (level : Nat) (v : Visit) (vs : List Visit) :
    rowsAll settings level scope (v :: vs) =
      rows settings level scope v ++ rowsAll settings level (scopeAfter scope v) vs := rfl

theorem rowsAll_append (level : Nat) (xs ys : List Visit) :
    rowsAll settings level scope (xs ++ ys) =
      rowsAll settings level scope xs ++ rowsAll settings level (xs.foldl scopeAfter scope) ys := by
  simp [rowsAll, contexts_append]

theorem textAll_rows_enter (unit name address : String) (members : List Node) :
    Row.textAll unit (rows settings 0 scope (.enter name address members)) =
      (Block.constructor (String.intercalate "::" (scope ++ [typeName name]))
        (typeName name)).text unit := by
  rw [← String.toList_inj]
  simp [rows, Row.text, Writer.copies, Block.text, handleType, handleField]

theorem textAll_rows_leave (unit type name address : String) (members : List Node) :
    Row.textAll unit (rows settings 0 (scope ++ [type]) (.leave name address members)) =
      (Block.getter ⟨String.intercalate "::" scope ++ "::" ++ typeName name,
        String.intercalate "::" scope, accessorName name⟩
          (typeName name ++ "(" ++ handleField ++ ")")).text unit := by
  rw [rows, List.dropLast_concat, textAll_getterRows]
  rfl

theorem textAll_rows_scalar (unit : String) (kind : Kind) (name address : String) :
    Row.textAll unit (rows settings 0 scope (.scalar kind name address)) =
      Block.textAll unit (blocks settings scope (.scalar kind name address)) := by
  cases hbinding : settings.bindings kind <;> cases hpath : subscripts address <;>
    simp [rows, blocks, hbinding, hpath, textAll_getterRows, Block.text, Getter.qualified]

end Rows

/-- The rows of a walk are the text of the blocks. -/
theorem textAll_rowsAll (settings : Settings) (unit : String) (scope : List String)
    (nodes : List Node) :
    Row.textAll unit (rowsAll settings 0 scope (Node.visitsAll nodes)) =
      Block.textAll unit (blocksAll settings scope nodes) := by
  induction nodes using Node.forest_induction generalizing scope with
  | nil => rfl
  | classDef name address members rest ihMembers ihRest =>
    have hleave : scopeAfter (scope ++ [typeName name]) (.leave name address members) = scope :=
      List.dropLast_concat
    rw [Node.visitsAll_classDef, rowsAll_cons, rowsAll_append, foldl_scopeAfter_visitsAll,
      rowsAll_cons, scopeAfter, hleave]
    rw [Row.textAll_append, Row.textAll_append, Row.textAll_append, textAll_rows_enter, ihMembers,
      textAll_rows_leave, ihRest, blocksAll_classDef, Block.textAll_cons, Block.textAll_append,
      Block.textAll_cons]
  | scalar kind name address rest ih =>
    rw [Node.visitsAll_scalar, rowsAll_cons, Row.textAll_append, textAll_rows_scalar, blocksAll,
      Block.textAll_append]
    rw [scopeAfter, ih]
  | array kind size name address rest ih => exact ih scope

end Definitions

theorem definitions_eq_blocks {settings : Settings} {className text : String} {nodes : List Node}
    (h : (definitions settings className nodes).outcome = .ok text) :
    text = Block.textAll settings.indent (Definitions.blocksAll settings [className] nodes) := by
  obtain ⟨-, rfl⟩ := no_fault_of_definitions h
  exact Definitions.textAll_rowsAll settings settings.indent [className] nodes

end Accessors.Cpp
