import Accessors.Proofs.Agreement
import Accessors.Proofs.Blocks

/-!
Walking a forest from any state. The walk gives the state back as it was, but for what is written and
what is reported, and both are read off the forest by recursion: from the level for declarations, from
the scope for definitions. A forest is written alike wherever it stands, and whatever was walked before
it.
-/

set_option autoImplicit false

namespace Accessors.Cpp

/-- A piece of declarations. -/
inductive Clause where
  | opening (type : String)
  | closing
  | getter (type name : String)

namespace Clause

def rows (level : Nat) : Clause → List Row
  | opening type =>
    [.blank,
      .code level ("class " ++ type ++ " \x7b"),
      .code level "public:",
      .code (level + 1) (type ++ "() = default;"),
      .code (level + 1) (type ++ "(const " ++ type ++ "& other) = default;"),
      .code (level + 1) (type ++ "(const " ++ handleType ++ " &root);"),
      .blank]
  | closing =>
    [.code level "private:",
      .code (level + 1) (handleType ++ " " ++ handleField ++ ";"),
      .code level "\x7d;"]
  | getter type name => [.code level (type ++ " " ++ name ++ "() const;")]

/-- The text of clauses, each at its level. -/
def textAll (unit : String) (clauses : List (Nat × Clause)) : String :=
  Row.textAll unit (clauses.flatMap fun p => p.2.rows p.1)

end Clause

namespace Declarations

mutual

/-- The clauses of a node at a level. -/
def clauses (settings : Settings) (level : Nat) : Node → List (Nat × Clause)
  | .classDef name _ members =>
    (level, .opening (typeName name)) :: (clausesAll settings (level + 1) members ++
      [(level, .closing), (level, .getter (typeName name) (accessorName name))])
  | .scalar kind name _ =>
    (settings.bindings kind).toList.map fun binding =>
      (level, .getter binding.native (accessorName name))
  | .array kind _ name _ =>
    (settings.bindings kind).toList.map fun binding =>
      (level, .getter (binding.native ++ "*") (accessorName name))

def clausesAll (settings : Settings) (level : Nat) : List Node → List (Nat × Clause)
  | [] => []
  | node :: rest => clauses settings level node ++ clausesAll settings level rest

end

mutual

/-- What is reported while a node is declared at a level. -/
def reports (level : Nat) : Node → List Event
  | .classDef name _ members =>
    .declaringClass (typeName name) level :: reportsAll (level + 1) members
  | .scalar .. => []
  | .array .. => []

def reportsAll (level : Nat) : List Node → List Event
  | [] => []
  | node :: rest => reports level node ++ reportsAll level rest

end

theorem foldl_levelAfter_visitsAll (nodes : List Node) (level : Nat) :
    (Node.visitsAll nodes).foldl levelAfter level = level := by
  induction nodes using Node.forest_induction generalizing level with
  | nil => rfl
  | classDef name address members rest ihMembers ihRest =>
    rw [Node.visitsAll_classDef, List.foldl_cons, List.foldl_append, ihMembers, List.foldl_cons,
      ihRest]
    exact Nat.add_sub_cancel level 1
  | scalar kind name address rest ih => exact ih level
  | array kind size name address rest ih => exact ih level

theorem rowsAll_cons (settings : Settings) (level : Nat) (v : Visit) (vs : List Visit) :
    rowsAll settings level (v :: vs) =
      rows settings level v ++ rowsAll settings (levelAfter level v) vs := rfl

theorem rowsAll_append (settings : Settings) (level : Nat) (xs ys : List Visit) :
    rowsAll settings level (xs ++ ys) =
      rowsAll settings level xs ++ rowsAll settings (xs.foldl levelAfter level) ys := by
  simp [rowsAll, contexts_append]

/-- The rows of a walk are those of the clauses. -/
theorem rowsAll_visitsAll (settings : Settings) (level : Nat) (nodes : List Node) :
    rowsAll settings level (Node.visitsAll nodes) =
      (clausesAll settings level nodes).flatMap fun p => p.2.rows p.1 := by
  induction nodes using Node.forest_induction generalizing level with
  | nil => rfl
  | classDef name address members rest ihMembers ihRest =>
    rw [Node.visitsAll_classDef, rowsAll_cons, rowsAll_append, foldl_levelAfter_visitsAll,
      rowsAll_cons]
    simp only [levelAfter, Nat.add_sub_cancel, ihMembers, ihRest]
    simp [rows, clausesAll, clauses, Clause.rows, getterRow]
  | scalar kind name address rest ih =>
    rw [Node.visitsAll_scalar, rowsAll_cons, levelAfter, ih]
    cases h : settings.bindings kind <;>
      simp [rows, clausesAll, clauses, Clause.rows, getterRow, h]
  | array kind size name address rest ih =>
    rw [Node.visitsAll_array, rowsAll_cons, levelAfter, ih]
    cases h : settings.bindings kind <;>
      simp [rows, clausesAll, clauses, Clause.rows, getterRow, h]

theorem next_level (settings : Settings) (s : Declarations) (v : Visit) :
    (next settings s v).out.level = levelAfter s.out.level v := by rw [next_out]

theorem foldl_next_level (settings : Settings) (s : Declarations) (nodes : List Node) :
    ((Node.visitsAll nodes).foldl (next settings) s).out.level = s.out.level := by
  rw [foldl_next_out, foldl_levelAfter_visitsAll]

/-- What one visit reports at a level. -/
def reported (level : Nat) : Visit → List Event
  | .enter name _ _ => [.declaringClass (typeName name) level]
  | _ => []

theorem next_log (settings : Settings) (s : Declarations) (v : Visit) :
    (next settings s v).log = s.log ++ reported s.out.level v := by
  cases v with
  | enter name address members => rfl
  | leave name address members => exact (List.append_nil _).symm
  | scalar kind name address =>
    cases h : settings.bindings kind <;> simp [next, h, getter, reported]
  | array kind size name address =>
    cases h : settings.bindings kind <;> simp [next, h, getter, reported]

theorem foldl_next_log (settings : Settings) (s : Declarations) (nodes : List Node) :
    ((Node.visitsAll nodes).foldl (next settings) s).log =
      s.log ++ reportsAll s.out.level nodes := by
  induction nodes using Node.forest_induction generalizing s with
  | nil => exact (List.append_nil _).symm
  | classDef name address members rest ihMembers ihRest =>
    rw [Node.visitsAll_classDef, List.foldl_cons, List.foldl_append, List.foldl_cons, ihRest,
      next_log, ihMembers, next_log]
    simp [next_level, foldl_next_level, levelAfter, reported, reportsAll, reports]
  | scalar kind name address rest ih =>
    rw [Node.visitsAll_scalar, List.foldl_cons, ih, next_log, next_level]
    simp [levelAfter, reported, reportsAll, reports]
  | array kind size name address rest ih =>
    rw [Node.visitsAll_array, List.foldl_cons, ih, next_log, next_level]
    simp [levelAfter, reported, reportsAll, reports]

/-- All visits of a forest leave the state as they found it, with clauses and reports added. -/
theorem foldl_next_visitsAll (settings : Settings) (unit text : String) (level : Nat)
    (log : List Event) (nodes : List Node) :
    (Node.visitsAll nodes).foldl (next settings) ⟨⟨unit, level, text⟩, log⟩ =
      ⟨⟨unit, level, text ++ Clause.textAll unit (clausesAll settings level nodes)⟩,
        log ++ reportsAll level nodes⟩ := by
  have hout := foldl_next_out settings ⟨⟨unit, level, text⟩, log⟩ (Node.visitsAll nodes)
  have hlog := foldl_next_log settings ⟨⟨unit, level, text⟩, log⟩ nodes
  rw [foldl_levelAfter_visitsAll, rowsAll_visitsAll] at hout
  generalize (Node.visitsAll nodes).foldl (next settings) ⟨⟨unit, level, text⟩, log⟩ = s at *
  obtain ⟨out, log'⟩ := s
  rw [Declarations.mk.injEq]
  exact ⟨hout, hlog⟩

theorem fault_eq (settings : Settings) (v : Visit) :
    fault settings v = v.accessed?.bind (Node.unbound? settings) := by
  cases v <;> rfl

end Declarations

namespace Definitions

mutual

/-- What is reported while a node is defined in a scope. -/
def reports (scope : List String) : Node → List Event
  | .classDef name _ members =>
    .definingClass (String.intercalate "::" (scope ++ [typeName name])) ::
      reportsAll (scope ++ [typeName name]) members
  | .scalar .. => []
  | .array _ _ name _ => [.bodyless (String.intercalate "::" scope ++ "::" ++ accessorName name)]

def reportsAll (scope : List String) : List Node → List Event
  | [] => []
  | node :: rest => reports scope node ++ reportsAll scope rest

end

/-- What one visit reports in a scope. -/
def reported (scope : List String) : Visit → List Event
  | .enter name _ _ => [.definingClass (String.intercalate "::" (scope ++ [typeName name]))]
  | .array _ _ name _ => [.bodyless (String.intercalate "::" scope ++ "::" ++ accessorName name)]
  | _ => []

theorem next_log (settings : Settings) (s : Definitions) (v : Visit) :
    (next settings s v).log = s.log ++ reported s.scope v := by
  cases v with
  | enter name address members => rfl
  | leave name address members => exact (List.append_nil _).symm
  | scalar kind name address =>
    simp only [next, reported, List.append_nil]
    split <;> rfl
  | array kind size name address => rfl

theorem foldl_next_log (settings : Settings) (s : Definitions) (nodes : List Node) :
    ((Node.visitsAll nodes).foldl (next settings) s).log =
      s.log ++ reportsAll s.scope nodes := by
  induction nodes using Node.forest_induction generalizing s with
  | nil => exact (List.append_nil _).symm
  | classDef name address members rest ihMembers ihRest =>
    rw [Node.visitsAll_classDef, List.foldl_cons, List.foldl_append, List.foldl_cons, ihRest,
      next_log, ihMembers, next_log]
    simp [next_scope, foldl_next_scope, foldl_scopeAfter_visitsAll, scopeAfter, reported, reportsAll,
      reports]
  | scalar kind name address rest ih =>
    rw [Node.visitsAll_scalar, List.foldl_cons, ih, next_log, next_scope]
    simp [scopeAfter, reported, reportsAll, reports]
  | array kind size name address rest ih =>
    rw [Node.visitsAll_array, List.foldl_cons, ih, next_log, next_scope]
    simp [scopeAfter, reported, reportsAll, reports]

theorem foldl_next_visitsAll (settings : Settings) (scope : List String) (unit text : String)
    (log : List Event) (nodes : List Node) :
    (Node.visitsAll nodes).foldl (next settings) ⟨scope, ⟨unit, 0, text⟩, log⟩ =
      ⟨scope, ⟨unit, 0, text ++ Block.textAll unit (blocksAll settings scope nodes)⟩,
        log ++ reportsAll scope nodes⟩ := by
  have hscope := foldl_next_scope settings ⟨scope, ⟨unit, 0, text⟩, log⟩ (Node.visitsAll nodes)
  have hout := foldl_next_out settings ⟨scope, ⟨unit, 0, text⟩, log⟩ (Node.visitsAll nodes)
  have hlog := foldl_next_log settings ⟨scope, ⟨unit, 0, text⟩, log⟩ nodes
  rw [foldl_scopeAfter_visitsAll] at hscope
  rw [textAll_rowsAll] at hout
  generalize (Node.visitsAll nodes).foldl (next settings) ⟨scope, ⟨unit, 0, text⟩, log⟩ = s at *
  obtain ⟨scope', out, log'⟩ := s
  rw [Definitions.mk.injEq]
  exact ⟨hscope, hout, hlog⟩

theorem fault_eq (settings : Settings) (v : Visit) :
    fault settings v =
      v.accessed?.bind fun node => (node.unbound? settings).or node.broken? := by
  cases v with
  | enter name address members => rfl
  | leave name address members => rfl
  | scalar kind name address => rfl
  | array kind size name address => exact (Option.or_none ..).symm

end Definitions

namespace Emit

variable {σ : Type} {visit : Visit → Emit σ Unit} {fault : Visit → Option Error}
  {next : σ → Visit → σ}

/-- A walk succeeds if and only if no node is refused, and then takes every visit. -/
theorem Follows.walk_eq_ok_iff (h : Follows visit fault next) {refusal : Node → Option Error}
    (hfault : ∀ v, fault v = v.accessed?.bind refusal) {s t : σ} {nodes : List Node} :
    walk visit s nodes = (.ok (), t) ↔
      (∀ node ∈ Node.postorderAll nodes, refusal node = none) ∧
        t = (Node.visitsAll nodes).foldl next s := by
  have hnodes : (∀ node ∈ Node.postorderAll nodes, refusal node = none) ↔
      ∀ v ∈ Node.visitsAll nodes, fault v = none := by
    rw [← Node.filterMap_accessed?]
    simp only [List.mem_filterMap, hfault, Option.bind_eq_none_iff]
    grind
  rw [walk_eq_forM, hnodes]
  constructor
  · intro hwalk
    have hnone : ∀ v ∈ Node.visitsAll nodes, fault v = none := by
      have hfirst := h.forM_fst (Node.visitsAll nodes) s
      rw [hwalk] at hfirst
      cases hfind : (Node.visitsAll nodes).findSome? fault with
      | some e => rw [hfind] at hfirst; cases hfirst
      | none => exact List.findSome?_eq_none_iff.mp hfind
    rw [h.forM_of_none s hnone] at hwalk
    exact ⟨hnone, (Prod.mk.inj hwalk).2.symm⟩
  · rintro ⟨hnone, rfl⟩
    exact h.forM_of_none s hnone

end Emit

theorem declarations_eq {settings : Settings} {nodes : List Node}
    (h : ∀ v ∈ Node.visitsAll nodes, Declarations.fault settings v = none) :
    declarations settings nodes = ⟨Declarations.reportsAll 1 nodes,
      .ok (Clause.textAll settings.indent (Declarations.clausesAll settings 1 nodes))⟩ := by
  rw [declarations, Emit.walk_eq_forM, (Declarations.follows settings).forM_of_none _ h,
    Declarations.new, Writer.new, Declarations.foldl_next_visitsAll]
  simp [Emit.logged, Except.map]

theorem definitions_eq {settings : Settings} {nodes : List Node} (className : String)
    (h : ∀ v ∈ Node.visitsAll nodes, Definitions.fault settings v = none) :
    definitions settings className nodes = ⟨Definitions.reportsAll [className] nodes,
      .ok (Block.textAll settings.indent
        (Definitions.blocksAll settings [className] nodes))⟩ := by
  rw [definitions, Emit.walk_eq_forM, (Definitions.follows settings).forM_of_none _ h,
    Definitions.new, Writer.new, Definitions.foldl_next_visitsAll]
  simp [Emit.logged, Except.map]

/-- A walk that succeeds gives back level and scope, and adds to text and log what the forest alone
has at that level and in that scope. -/
theorem walks_compose (settings : Settings) (nodes : List Node) (unit text : String)
    (log : List Event) :
    (∀ level t,
      Emit.walk (Declarations.visit settings) ⟨⟨unit, level, text⟩, log⟩ nodes = (.ok (), t) ↔
        (∀ node ∈ Node.postorderAll nodes, node.unbound? settings = none) ∧
        t = ⟨⟨unit, level,
            text ++ Clause.textAll unit (Declarations.clausesAll settings level nodes)⟩,
          log ++ Declarations.reportsAll level nodes⟩) ∧
    ∀ scope t,
      Emit.walk (Definitions.visit settings) ⟨scope, ⟨unit, 0, text⟩, log⟩ nodes = (.ok (), t) ↔
        (∀ node ∈ Node.postorderAll nodes, (node.unbound? settings).or node.broken? = none) ∧
        t = ⟨scope, ⟨unit, 0,
            text ++ Block.textAll unit (Definitions.blocksAll settings scope nodes)⟩,
          log ++ Definitions.reportsAll scope nodes⟩ := by
  constructor
  · intro level t
    rw [(Declarations.follows settings).walk_eq_ok_iff (Declarations.fault_eq settings),
      Declarations.foldl_next_visitsAll]
  · intro scope t
    rw [(Definitions.follows settings).walk_eq_ok_iff (Definitions.fault_eq settings),
      Definitions.foldl_next_visitsAll]

end Accessors.Cpp
