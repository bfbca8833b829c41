import Accessors.Proofs.Composition

/-!
Every accessor is accounted for. Getters are declared in the order of the walk. Those of classes and
scalars are defined in the same order, and those of arrays, which get no body, are reported in it. Each
emitter also reports every class as it enters it.
-/

set_option autoImplicit false

namespace Accessors

/-- A getter, with the types of the classes around it from the outermost inwards. The output class is
not among them. -/
structure Accessor where
  enclosing : List String
  node : Node

namespace Accessor

def name (accessor : Accessor) : String := accessorName accessor.node.name

def qualified (className : String) (accessor : Accessor) : String :=
  String.intercalate "::" (className :: accessor.enclosing) ++ "::" ++ accessor.name

@[simp] theorem name_mk (enclosing : List String) (node : Node) :
    (mk enclosing node).name = accessorName node.name := rfl

@[simp] theorem qualified_mk (className : String) (enclosing : List String) (node : Node) :
    (mk enclosing node).qualified className =
      String.intercalate "::" (className :: enclosing) ++ "::" ++ accessorName node.name := rfl

end Accessor

/-- A class, with the types of the classes around it. -/
structure Nested where
  enclosing : List String
  type : String

def Nested.qualified (className : String) (nested : Nested) : String :=
  String.intercalate "::" (className :: nested.enclosing ++ [nested.type])

@[simp] theorem Nested.qualified_mk (className type : String) (enclosing : List String) :
    (mk enclosing type).qualified className =
      String.intercalate "::" (className :: enclosing ++ [type]) := rfl

@[simp] theorem Event.level_definingClass (name : String) :
    (definingClass name).level = .debug := rfl

@[simp] theorem Event.level_bodyless (accessor : String) : (bodyless accessor).level = .warn := rfl

namespace Node

section Fields
variable (kind : Kind) (size name address : String) (members : List Node)

@[simp] theorem name_classDef : (classDef name address members).name = name := rfl

@[simp] theorem name_scalar : (scalar kind name address).name = name := rfl

@[simp] theorem name_array : (array kind size name address).name = name := rfl

@[simp] theorem isArray_classDef : (classDef name address members).isArray = false := rfl

@[simp] theorem isArray_scalar : (scalar kind name address).isArray = false := rfl

@[simp] theorem isArray_array : (array kind size name address).isArray = true := rfl

end Fields

mutual

/-- The getters of a node in the order of the walk: a class is left after its members. -/
def accessors (enclosing : List String) : Node → List Accessor
  | classDef name address members =>
    accessorsAll (enclosing ++ [typeName name]) members ++
      [⟨enclosing, classDef name address members⟩]
  | scalar kind name address => [⟨enclosing, scalar kind name address⟩]
  | array kind size name address => [⟨enclosing, array kind size name address⟩]

def accessorsAll (enclosing : List String) : List Node → List Accessor
  | [] => []
  | node :: rest => node.accessors enclosing ++ accessorsAll enclosing rest

end

mutual

/-- The classes of a node, each before its members. -/
def nested (enclosing : List String) : Node → List Nested
  | classDef name _ members =>
    ⟨enclosing, typeName name⟩ :: nestedAll (enclosing ++ [typeName name]) members
  | scalar .. => []
  | array .. => []

def nestedAll (enclosing : List String) : List Node → List Nested
  | [] => []
  | node :: rest => node.nested enclosing ++ nestedAll enclosing rest

end

end Node

namespace Cpp

def Clause.getter? : Clause → Option String
  | opening _ => none
  | closing => none
  | getter _ name => some name

@[simp] theorem Clause.getter?_opening (type : String) : (opening type).getter? = none := rfl

@[simp] theorem Clause.getter?_closing : closing.getter? = none := rfl

@[simp] theorem Clause.getter?_getter (type name : String) :
    (getter type name).getter? = some name := rfl

@[simp] theorem Block.getter?_constructor (owner type : String) :
    (constructor owner type).getter? = none := rfl

@[simp] theorem Block.getter?_getter (g : Getter) (value : String) :
    (getter g value).getter? = some g := rfl

namespace Declarations

/-- The getters among the clauses, each with its level. -/
theorem getters_clausesAll {settings : Settings} {nodes : List Node}
    (h : ∀ v ∈ Node.visitsAll nodes, fault settings v = none) (enclosing : List String) :
    ((clausesAll settings (1 + enclosing.length) nodes).filterMap fun p =>
        p.2.getter?.map (p.1, ·)) =
      (Node.accessorsAll enclosing nodes).map fun a => (1 + a.enclosing.length, a.name) := by
  induction nodes using Node.forest_induction generalizing enclosing with
  | nil => rfl
  | classDef name address members rest ihMembers ihRest =>
    rw [Node.visitsAll_classDef, List.forall_mem_cons, List.forall_mem_append,
      List.forall_mem_cons] at h
    obtain ⟨-, hmembers, -, hrest⟩ := h
    have ih := ihMembers hmembers (enclosing ++ [typeName name])
    rw [List.length_append, List.length_singleton, ← Nat.add_assoc] at ih
    simp [List.filterMap_cons, clausesAll, clauses, Node.accessorsAll, Node.accessors, ih,
      ihRest hrest enclosing]
  | scalar kind name address rest ih =>
    rw [Node.visitsAll_scalar, List.forall_mem_cons] at h
    obtain ⟨binding, hbinding⟩ := Settings.fault?_eq_none_iff.mp h.1
    simp [clausesAll, clauses, Node.accessorsAll, Node.accessors, hbinding,
      ih h.2 enclosing]
  | array kind size name address rest ih =>
    rw [Node.visitsAll_array, List.forall_mem_cons] at h
    obtain ⟨binding, hbinding⟩ := Settings.fault?_eq_none_iff.mp h.1
    simp [clausesAll, clauses, Node.accessorsAll, Node.accessors, hbinding,
      ih h.2 enclosing]

theorem reportsAll_eq (enclosing : List String) (nodes : List Node) :
    reportsAll (1 + enclosing.length) nodes =
      (Node.nestedAll enclosing nodes).map fun c =>
        .declaringClass c.type (1 + c.enclosing.length) := by
  induction nodes using Node.forest_induction generalizing enclosing with
  | nil => rfl
  | classDef name address members rest ihMembers ihRest =>
    have ih := ihMembers (enclosing ++ [typeName name])
    rw [List.length_append, List.length_singleton, ← Nat.add_assoc] at ih
    simp [reportsAll, reports, Node.nestedAll, Node.nested, ih, ihRest enclosing]
  | scalar kind name address rest ih => exact ih enclosing
  | array kind size name address rest ih => exact ih enclosing

end Declarations

namespace Definitions

/-- The getters among the blocks: those of arrays are missing. -/
theorem getters_blocksAll {settings : Settings} {nodes : List Node}
    (h : ∀ v ∈ Node.visitsAll nodes, fault settings v = none) (className : String)
    (enclosing : List String) :
    ((blocksAll settings (className :: enclosing) nodes).filterMap Block.getter?).map
        Getter.qualified =
      ((Node.accessorsAll enclosing nodes).filter fun a => !a.node.isArray).map
        (Accessor.qualified className) := by
  induction nodes using Node.forest_induction generalizing enclosing with
  | nil => rfl
  | classDef name address members rest ihMembers ihRest =>
    rw [Node.visitsAll_classDef, List.forall_mem_cons, List.forall_mem_append,
      List.forall_mem_cons] at h
    obtain ⟨-, hmembers, -, hrest⟩ := h
    rw [blocksAll_classDef, List.cons_append]
    simp [List.filterMap_cons, Getter.qualified, Node.accessorsAll, Node.accessors,
      ihMembers hmembers (enclosing ++ [typeName name]), ihRest hrest enclosing,
      Accessor.qualified]
  | scalar kind name address rest ih =>
    rw [Node.visitsAll_scalar, List.forall_mem_cons] at h
    obtain ⟨binding, path, hbinding, hpath⟩ := exists_of_scalar h.1
    simp [blocksAll, blocks, hbinding, hpath, Getter.qualified, Node.accessorsAll,
      Node.accessors, ih h.2 enclosing]
  | array kind size name address rest ih =>
    rw [Node.visitsAll_array, List.forall_mem_cons] at h
    simp [blocksAll, blocks, Node.accessorsAll, Node.accessors, ih h.2 enclosing]

theorem warnings_reportsAll (className : String) (enclosing : List String) (nodes : List Node) :
    (reportsAll (className :: enclosing) nodes).filter (·.level = .warn) =
      ((Node.accessorsAll enclosing nodes).filter fun a => a.node.isArray).map fun a =>
        .bodyless (a.qualified className) := by
  induction nodes using Node.forest_induction generalizing enclosing with
  | nil => rfl
  | classDef name address members rest ihMembers ihRest =>
    simp [reportsAll, reports, Node.accessorsAll, Node.accessors,
      ihMembers (enclosing ++ [typeName name]), ihRest enclosing]
  | scalar kind name address rest ih =>
    simp [reportsAll, reports, Node.accessorsAll, Node.accessors, ih enclosing]
  | array kind size name address rest ih =>
    simp [List.filter_cons, reportsAll, reports, Node.accessorsAll, Node.accessors,
      ih enclosing]

theorem notes_reportsAll (className : String) (enclosing : List String) (nodes : List Node) :
    (reportsAll (className :: enclosing) nodes).filter (·.level = .debug) =
      (Node.nestedAll enclosing nodes).map fun c => .definingClass (c.qualified className) := by
  induction nodes using Node.forest_induction generalizing enclosing with
  | nil => rfl
  | classDef name address members rest ihMembers ihRest =>
    simp [reportsAll, reports, Node.nestedAll, Node.nested,
      ihMembers (enclosing ++ [typeName name]), ihRest enclosing]
  | scalar kind name address rest ih => exact ih enclosing
  | array kind size name address rest ih =>
    simp [reportsAll, reports, Node.nestedAll, Node.nested, ih enclosing]

end Definitions

/-- Two runs over one forest, with what each of its getters and classes comes to. -/
structure Accounted (settings : Settings) (className : String) (nodes : List Node)
    (declared defined : Logged String) : Prop where
  header : declared.outcome =
    .ok (Clause.textAll settings.indent (Declarations.clausesAll settings 1 nodes))
  body : defined.outcome =
    .ok (Block.textAll settings.indent (Definitions.blocksAll settings [className] nodes))
  /-- The header declares each getter, at the level of the classes around it. -/
  getters : ((Declarations.clausesAll settings 1 nodes).filterMap fun p =>
      p.2.getter?.map (p.1, ·)) =
    (Node.accessorsAll [] nodes).map fun a => (1 + a.enclosing.length, a.name)
  /-- The body defines those of classes and scalars. -/
  bodies : ((Definitions.blocksAll settings [className] nodes).filterMap Block.getter?).map
      Getter.qualified =
    ((Node.accessorsAll [] nodes).filter fun a => !a.node.isArray).map
      (Accessor.qualified className)
  /-- The others are reported, each one once. -/
  warnings : defined.events.filter (·.level = .warn) =
    ((Node.accessorsAll [] nodes).filter fun a => a.node.isArray).map fun a =>
      .bodyless (a.qualified className)
  declaring : declared.events =
    (Node.nestedAll [] nodes).map fun c => .declaringClass c.type (1 + c.enclosing.length)
  defining : defined.events.filter (·.level = .debug) =
    (Node.nestedAll [] nodes).map fun c => .definingClass (c.qualified className)

theorem accessors_accounted {settings : Settings} {className header body : String}
    {nodes : List Node} (hheader : (declarations settings nodes).outcome = .ok header)
    (hbody : (definitions settings className nodes).outcome = .ok body) :
    Accounted settings className nodes (declarations settings nodes)
      (definitions settings className nodes) := by
  have hdeclared := (no_fault_of_declarations hheader).1
  have hdefined := (no_fault_of_definitions hbody).1
  rw [declarations_eq hdeclared, definitions_eq className hdefined]
  exact {
    header := rfl
    body := rfl
    getters := Declarations.getters_clausesAll hdeclared []
    bodies := Definitions.getters_blocksAll hdefined className []
    warnings := Definitions.warnings_reportsAll className [] nodes
    declaring := Declarations.reportsAll_eq [] nodes
    defining := Definitions.notes_reportsAll className [] nodes }

/-- An array behind a class that was entered and left, with another array inside it. -/
theorem accessors_accounted_arrays :
    let nodes : List Node := [.classDef "a" "/a" [.array .int "2" "b" "/a/b[2]"],
      .scalar .int "c" "/c", .array .float "" "d" "/d[]"]
    ∃ header body, (declarations .standard nodes).outcome = .ok header ∧
      (definitions .standard "Doc" nodes).outcome = .ok body ∧
      Accounted .standard "Doc" nodes (declarations .standard nodes)
        (definitions .standard "Doc" nodes) ∧
      (definitions .standard "Doc" nodes).events =
        [.definingClass "Doc::A", .bodyless "Doc::A::getB", .bodyless "Doc::getD"] := by
  intro nodes
  have hheader := declarations_outcome .standard nodes
  have hbody := definitions_outcome .standard "Doc" nodes
  exact ⟨_, _, hheader, hbody, accessors_accounted hheader hbody, by decide +kernel⟩

end Cpp
end Accessors
