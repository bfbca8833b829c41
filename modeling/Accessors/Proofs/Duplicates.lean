import Mathlib.Data.List.Nodup
import Accessors.Proofs.Agreement
import Accessors.Proofs.Blocks

/-!
When two definitions have one name. An accessor is named by a path: the types of the classes around
it, and its getter. Joining a path with double colons loses nothing, because no part of it has a
colon. So definitions differ in their names just if, in every scope, the members that are not arrays
differ in their type names.
-/

set_option autoImplicit false

namespace Accessors

namespace Node

mutual

/-- The paths of the accessors of a node that are defined, in the order of their definitions. -/
def paths : Node → List (List String)
  | classDef name _ members => (pathsAll members).map (typeName name :: ·) ++ [[accessorName name]]
  | scalar _ name _ => [[accessorName name]]
  | array .. => []

def pathsAll : List Node → List (List String)
  | [] => []
  | node :: rest => node.paths ++ pathsAll rest

end

/-- The type names of the members of a scope that are not arrays. -/
def accessedTypes (members : List Node) : List String :=
  (members.filter fun node => !node.isArray).map fun node => typeName node.name

/-- No scope of a tree has two members of one type name, arrays apart. -/
structure Distinct (nodes : List Node) : Prop where
  root : (accessedTypes nodes).Nodup
  inner : ∀ name address members, classDef name address members ∈ postorderAll nodes →
    (accessedTypes members).Nodup

theorem pathsAll_eq_flatMap (nodes : List Node) : pathsAll nodes = nodes.flatMap paths := by
  induction nodes with
  | nil => rfl
  | cons node rest ih => rw [pathsAll, ih, List.flatMap_cons]

theorem ne_nil_of_mem_pathsAll {nodes : List Node} {path : List String}
    (h : path ∈ pathsAll nodes) : path ≠ [] := by
  rw [pathsAll_eq_flatMap, List.mem_flatMap] at h
  obtain ⟨node, -, h⟩ := h
  rintro rfl
  cases node <;> simp [paths] at h

theorem accessor_mem_paths {node : Node} (h : node.isArray = false) :
    [accessorName node.name] ∈ node.paths := by
  cases node with
  | classDef name address members => simp [paths, Node.name]
  | scalar kind name address => simp [paths, Node.name]
  | array kind size name address => cases h

/-- The path of a node is its getter; the paths of its members go through its type. -/
theorem path_cases {node : Node} {path : List String} (h : path ∈ node.paths) :
    node.isArray = false ∧ (path = [accessorName node.name] ∨
      ∃ inner, inner ≠ [] ∧ path = typeName node.name :: inner) := by
  cases node with
  | classDef name address members =>
    refine ⟨rfl, ?_⟩
    rw [paths, List.mem_append, List.mem_map, List.mem_singleton] at h
    rcases h with ⟨inner, hinner, rfl⟩ | rfl
    · exact .inr ⟨inner, ne_nil_of_mem_pathsAll hinner, rfl⟩
    · exact .inl rfl
  | scalar kind name address => exact ⟨rfl, .inl (List.mem_singleton.mp h)⟩
  | array kind size name address => exact nomatch h

theorem disjoint_paths_iff (node other : Node) :
    node.paths.Disjoint other.paths ↔
      (node.isArray = false → other.isArray = false →
        typeName node.name ≠ typeName other.name) := by
  constructor
  · intro h hnode hother htype
    have hsame : accessorName node.name = accessorName other.name := by
      rw [accessorName, accessorName, htype]
    apply h (accessor_mem_paths hnode)
    rw [hsame]
    exact accessor_mem_paths hother
  · intro h path hpath hpath'
    obtain ⟨hnode, hcases⟩ := path_cases hpath
    obtain ⟨hother, hcases'⟩ := path_cases hpath'
    have htype := h hnode hother
    rcases hcases with rfl | ⟨inner, hinner, rfl⟩
    · rcases hcases' with heq | ⟨inner, hinner, heq⟩
      · exact htype ((String.append_right_inj "get").mp (List.cons.inj heq).1)
      · exact hinner (List.cons.inj heq).2.symm
    · rcases hcases' with heq | ⟨inner', -, heq⟩
      · exact hinner (List.cons.inj heq).2
      · exact htype (List.cons.inj heq).1

theorem nodup_accessedTypes_iff (nodes : List Node) :
    (accessedTypes nodes).Nodup ↔ nodes.Pairwise fun node other =>
      node.isArray = false → other.isArray = false → typeName node.name ≠ typeName other.name := by
  rw [accessedTypes, List.Nodup, List.pairwise_map, List.pairwise_filter]
  simp

theorem nodup_paths_classDef (name address : String) (members : List Node) :
    (classDef name address members).paths.Nodup ↔ (pathsAll members).Nodup := by
  have hmap : ((pathsAll members).map (typeName name :: ·)).Nodup ↔ (pathsAll members).Nodup :=
    List.nodup_map_iff fun _ _ heq => (List.cons.inj heq).2
  rw [paths, List.nodup_append', hmap]
  constructor
  · exact fun h => h.1
  · intro h
    refine ⟨h, List.nodup_singleton _, ?_⟩
    intro path hpath haccessor
    obtain ⟨inner, hinner, rfl⟩ := List.mem_map.mp hpath
    exact ne_nil_of_mem_pathsAll hinner (List.cons.inj (List.mem_singleton.mp haccessor)).2

/-- Paths of one scope differ if its members do and the paths inside of each class do. -/
theorem nodup_pathsAll_step (nodes : List Node) :
    (pathsAll nodes).Nodup ↔ (accessedTypes nodes).Nodup ∧
      ∀ name address members, classDef name address members ∈ nodes → (pathsAll members).Nodup := by
  have hpairwise : nodes.Pairwise (Function.onFun List.Disjoint paths) ↔
      (accessedTypes nodes).Nodup := by
    rw [nodup_accessedTypes_iff]
    exact List.Pairwise.iff fun {node other} => disjoint_paths_iff node other
  rw [pathsAll_eq_flatMap, List.nodup_flatMap, hpairwise, and_comm]
  apply and_congr_right
  intro _
  constructor
  · intro h name address members hmem
    exact (nodup_paths_classDef name address members).mp (h _ hmem)
  · intro h node hnode
    cases node with
    | classDef name address members =>
      exact (nodup_paths_classDef name address members).mpr (h name address members hnode)
    | scalar kind name address => exact List.nodup_singleton _
    | array kind size name address => exact List.nodup_nil

theorem mem_postorderAll_classDef {node : Node} {name address : String} {members rest : List Node} :
    node ∈ postorderAll (classDef name address members :: rest) ↔
      node ∈ postorderAll members ∨ node = classDef name address members ∨
        node ∈ postorderAll rest := by
  simp [postorderAll, postorder]

theorem nodup_inner_iff (nodes : List Node) :
    (∀ name address members, classDef name address members ∈ nodes → (pathsAll members).Nodup) ↔
      ∀ name address members, classDef name address members ∈ postorderAll nodes →
        (accessedTypes members).Nodup := by
  induction nodes using forest_induction with
  | nil => exact ⟨nofun, nofun⟩
  | classDef name address members rest ihMembers ihRest =>
    -- One step down, the classes in this one are what the hypothesis speaks of.
    have hmembers := (nodup_pathsAll_step members).trans (and_congr_right fun _ => ihMembers)
    constructor
    · intro h name' address' members' hmem
      have hinner := hmembers.mp (h name address members List.mem_cons_self)
      have hrest := ihRest.mp fun name address members hmem =>
        h name address members (List.mem_cons_of_mem _ hmem)
      rcases mem_postorderAll_classDef.mp hmem with hmem | heq | hmem
      · exact hinner.2 name' address' members' hmem
      · obtain ⟨-, -, rfl⟩ := Node.classDef.inj heq
        exact hinner.1
      · exact hrest name' address' members' hmem
    · intro h name' address' members' hmem
      have hown := h name address members (mem_postorderAll_classDef.mpr (.inr (.inl rfl)))
      have hinner := hmembers.mpr ⟨hown, fun name address members hmem =>
        h name address members (mem_postorderAll_classDef.mpr (.inl hmem))⟩
      have hrest := ihRest.mpr fun name address members hmem =>
        h name address members (mem_postorderAll_classDef.mpr (.inr (.inr hmem)))
      rcases List.mem_cons.mp hmem with heq | hmem
      · obtain ⟨-, -, rfl⟩ := Node.classDef.inj heq
        exact hinner
      · exact hrest name' address' members' hmem
  | scalar kind name address rest ih => simpa [postorderAll, postorder] using ih
  | array kind size name address rest ih => simpa [postorderAll, postorder] using ih

/-- Two accessors have one path just if two members of one scope have one type name. -/
theorem nodup_pathsAll_iff (nodes : List Node) : (pathsAll nodes).Nodup ↔ Distinct nodes := by
  rw [nodup_pathsAll_step, nodup_inner_iff]
  exact ⟨fun h => ⟨h.1, h.2⟩, fun h => ⟨h.root, h.inner⟩⟩

instance (nodes : List Node) : Decidable (Distinct nodes) :=
  decidable_of_iff _ (nodup_pathsAll_iff nodes)

theorem plain_of_mem_pathsAll {nodes : List Node} (hnodes : ∀ v ∈ visitsAll nodes, v.Tidy)
    {path : List String} (h : path ∈ pathsAll nodes) : ∀ part ∈ path, Plain part := by
  induction nodes using forest_induction generalizing path with
  | nil => exact nomatch h
  | classDef name address members rest ihMembers ihRest =>
    simp only [visitsAll_classDef, List.forall_mem_cons, List.forall_mem_append] at hnodes
    obtain ⟨henter, hmembers, -, hrest⟩ := hnodes
    have hname : Plain name := henter.plain
    simp only [pathsAll, paths, List.mem_append, List.mem_map, List.mem_singleton] at h
    rcases h with (⟨inner, hinner, rfl⟩ | rfl) | h
    · exact List.forall_mem_cons.mpr ⟨hname.typeName, ihMembers hmembers hinner⟩
    · exact List.forall_mem_singleton.mpr hname.accessorName
    · exact ihRest hrest h
  | scalar kind name address rest ih =>
    obtain ⟨hscalar, hrest⟩ := List.forall_mem_cons.mp hnodes
    rcases List.mem_cons.mp h with rfl | h
    · exact List.forall_mem_singleton.mpr (Plain.accessorName hscalar.plain)
    · exact ih hrest h
  | array kind size name address rest ih =>
    exact ih (List.forall_mem_cons.mp hnodes).2 h

end Node

namespace Cpp

def Block.names (blocks : List Block) : List String :=
  (blocks.filterMap Block.getter?).map Getter.qualified

theorem Block.names_constructor (owner type : String) (rest : List Block) :
    names (.constructor owner type :: rest) = names rest := rfl

theorem Block.names_getter (getter : Getter) (value : String) (rest : List Block) :
    names (.getter getter value :: rest) = getter.qualified :: names rest := rfl

theorem Block.names_append (xs ys : List Block) : names (xs ++ ys) = names xs ++ names ys := by
  simp [names]

/-- The name of the accessor at a path, in a scope. -/
def qualifiedPath (scope path : List String) : String := String.intercalate "::" (scope ++ path)

theorem qualified_eq {scope : List String} (hscope : scope ≠ []) (type name : String) :
    Getter.qualified ⟨type, String.intercalate "::" scope, name⟩ = qualifiedPath scope [name] := by
  rw [qualifiedPath, String.intercalate_append_of_ne_nil hscope (List.cons_ne_nil name []),
    String.intercalate_singleton]
  rfl

theorem names_blocksAll {settings : Settings} {nodes : List Node}
    (hfault : ∀ v ∈ Node.visitsAll nodes, Definitions.fault settings v = none)
    {scope : List String} (hscope : scope ≠ []) :
    Block.names (Definitions.blocksAll settings scope nodes) =
      (Node.pathsAll nodes).map (qualifiedPath scope) := by
  induction nodes using Node.forest_induction generalizing scope with
  | nil => rfl
  | classDef name address members rest ihMembers ihRest =>
    simp only [Node.visitsAll_classDef, List.forall_mem_cons, List.forall_mem_append] at hfault
    obtain ⟨-, hmembers, -, hrest⟩ := hfault
    have hinner : (Node.pathsAll members).map (qualifiedPath (scope ++ [typeName name])) =
        ((Node.pathsAll members).map (typeName name :: ·)).map (qualifiedPath scope) := by
      simp [qualifiedPath]
    rw [Definitions.blocksAll_classDef, Block.names_constructor, Block.names_append,
      Block.names_getter, ihMembers hmembers (by simp), ihRest hrest hscope, hinner,
      qualified_eq hscope]
    simp [Node.pathsAll, Node.paths]
  | scalar kind name address rest ih =>
    obtain ⟨hscalar, hrest⟩ := List.forall_mem_cons.mp hfault
    obtain ⟨binding, path, hbinding, hpath⟩ := Definitions.exists_of_scalar hscalar
    rw [Definitions.blocksAll, Definitions.blocks, hbinding, hpath, Block.names_append,
      ih hrest hscope, Block.names_getter, qualified_eq hscope]
    rfl
  | array kind size name address rest ih =>
    exact ih (List.forall_mem_cons.mp hfault).2 hscope

/-- A name leads back to its path. -/
theorem qualifiedPath_inj {className : String} {path path' : List String} (hne : path ≠ [])
    (hne' : path' ≠ []) (hpath : ∀ part ∈ path, Plain part) (hpath' : ∀ part ∈ path', Plain part)
    (h : qualifiedPath [className] path = qualifiedPath [className] path') : path = path' := by
  rw [qualifiedPath, qualifiedPath, List.singleton_append, List.singleton_append,
    String.intercalate_cons_of_ne_nil hne, String.intercalate_cons_of_ne_nil hne',
    String.append_right_inj] at h
  exact QualifiedName.intercalate_inj hne hne' (fun part hpart => (hpath part hpart).colon_free)
    (fun part hpart => (hpath' part hpart).colon_free) h

theorem nodup_names_iff {source className : String} {nodes : List Node}
    (hparse : (Schema.parse source).outcome = .ok nodes) :
    ((Node.pathsAll nodes).map (qualifiedPath [className])).Nodup ↔ Node.Distinct nodes := by
  have htidy := (Schema.spells_of_parse hparse).tidy (by decide)
  rw [← Node.nodup_pathsAll_iff]
  constructor
  · exact List.Nodup.of_map _
  · apply List.Nodup.map_on
    intro path hpath path' hpath' heq
    exact qualifiedPath_inj (Node.ne_nil_of_mem_pathsAll hpath) (Node.ne_nil_of_mem_pathsAll hpath')
      (Node.plain_of_mem_pathsAll htidy hpath) (Node.plain_of_mem_pathsAll htidy hpath') heq

/-- The definitions that are written differ in their names just if the members of every scope
differ in their type names. -/
theorem definitions_distinct_iff {source className text : String} {settings : Settings}
    {nodes : List Node} (hparse : (Schema.parse source).outcome = .ok nodes)
    (htext : (definitions settings className nodes).outcome = .ok text) :
    text = Block.textAll settings.indent (Definitions.blocksAll settings [className] nodes) ∧
      ((Block.names (Definitions.blocksAll settings [className] nodes)).Nodup ↔
        Node.Distinct nodes) := by
  obtain ⟨hfault, -⟩ := no_fault_of_definitions htext
  refine ⟨definitions_eq_blocks htext, ?_⟩
  rw [names_blocksAll hfault (List.cons_ne_nil className [])]
  exact nodup_names_iff hparse

/-- Two classes of one type name, with members of one type name. -/
theorem definitions_distinct_iff_namesakes :
    let nodes : List Node := [.classDef "a" "/a" [.scalar .int "b" "/a/b"],
      .classDef "A" "/x/A" [.scalar .int "b" "/x/A/b", .array .float "2" "c" "/x/A/c[2]",
        .scalar .int "c" "/x/A/c"]]
    let text :=
      "Doc::A::A(const ValuePtr &root) : m_root(root) \x7b\n\n\x7d\n\n" ++
      "int Doc::A::getB() const \x7b\n\treturn (*m_root)[\"a\"][\"b\"].asInt();\n\x7d\n\n" ++
      "Doc::A Doc::getA() const \x7b\n\treturn A(m_root);\n\x7d\n\n" ++
      "Doc::A::A(const ValuePtr &root) : m_root(root) \x7b\n\n\x7d\n\n" ++
      "int Doc::A::getB() const \x7b\n\treturn (*m_root)[\"x\"][\"A\"][\"b\"].asInt();\n\x7d\n\n" ++
      "int Doc::A::getC() const \x7b\n\treturn (*m_root)[\"x\"][\"A\"][\"c\"].asInt();\n\x7d\n\n" ++
      "Doc::A Doc::getA() const \x7b\n\treturn A(m_root);\n\x7d\n\n"
    (Schema.parse "class a\nint b\n\x7d\nclass x/A\nint b\nfloat c[2]\nint c\n\x7d").outcome =
        .ok nodes ∧
      (definitions .standard "Doc" nodes).outcome = .ok text ∧
      Block.names (Definitions.blocksAll .standard ["Doc"] nodes) =
        ["Doc::A::getB", "Doc::getA", "Doc::A::getB", "Doc::A::getC", "Doc::getA"] ∧
      ¬ Node.Distinct nodes := by
  intro nodes text
  have hparse :
      (Schema.parse "class a\nint b\n\x7d\nclass x/A\nint b\nfloat c[2]\nint c\n\x7d").outcome =
        .ok nodes := by
    rw [Schema.parse_outcome]
    rfl
  have htext : (definitions .standard "Doc" nodes).outcome = .ok text := by decide +kernel
  have hnodup := (definitions_distinct_iff hparse htext).2
  refine ⟨hparse, htext, rfl, ?_⟩
  rw [← hnodup]
  decide

end Cpp

/-- Every accessor that is no array has a definition, and it has just one if the members of every
scope differ in their type names. -/
theorem accessors_defined_once_iff {schema includeBase : String} {name : QualifiedName}
    {settings : Settings} {artifacts : Artifacts}
    (h : (generate schema name includeBase settings).outcome = .ok artifacts) :
    ∃ nodes blocks,
      (Schema.parse schema).outcome = .ok nodes ∧
      blocks = Cpp.Definitions.blocksAll settings [name.className] nodes ∧
      artifacts.source = Template.filledAll name includeBase Template.source.front ++
        Cpp.Block.textAll settings.indent blocks ++
          Template.filledAll name includeBase Template.source.back ∧
      Cpp.Block.names blocks = (Node.pathsAll nodes).map (Cpp.qualifiedPath [name.className]) ∧
      ((∀ path ∈ Node.pathsAll nodes,
          (Cpp.Block.names blocks).count (Cpp.qualifiedPath [name.className] path) = 1) ↔
        Node.Distinct nodes) := by
  obtain ⟨nodes, declarations, definitions, hparse, -, -, hdefinitions, -, hsource⟩ :=
    generate_eq_ok h
  obtain ⟨hfault, -⟩ := Cpp.no_fault_of_definitions hdefinitions
  have hnames := Cpp.names_blocksAll hfault (List.cons_ne_nil name.className [])
  refine ⟨nodes, _, hparse, rfl, ?_, hnames, ?_⟩
  · rw [hsource, Cpp.definitions_eq_blocks hdefinitions]
  · rw [hnames, ← Cpp.nodup_names_iff hparse, List.nodup_iff_count_eq_one, List.forall_mem_map]

/-- One type name in two scopes, and an array beside a scalar. -/
theorem accessors_defined_once_iff_scopes :
    let nodes : List Node :=
      [.classDef "a" "/a" [.scalar .int "b" "/a/b", .array .float "2" "b" "/a/b[2]"],
        .scalar .int "b" "/b"]
    (Schema.parse "class a\nint b\nfloat b[2]\n\x7d\nint b").outcome = .ok nodes ∧
      Node.Distinct nodes ∧
      (∃ artifacts, (generate "class a\nint b\nfloat b[2]\n\x7d\nint b" ⟨["ns"], "Doc"⟩ "doc"
        .standard).outcome = .ok artifacts) ∧
      ∀ path ∈ [["A", "getB"], ["getA"], ["getB"]],
        (Cpp.Block.names (Cpp.Definitions.blocksAll .standard ["Doc"] nodes)).count
          (Cpp.qualifiedPath ["Doc"] path) = 1 := by
  intro nodes
  have hparse : (Schema.parse "class a\nint b\nfloat b[2]\n\x7d\nint b").outcome = .ok nodes := by
    rw [Schema.parse_outcome]
    rfl
  have hdistinct : Node.Distinct nodes := by decide
  obtain ⟨artifacts, hgenerate⟩ := generate_of_no_fault _ ⟨["ns"], "Doc"⟩ "doc" .standard hparse rfl
  obtain ⟨found, blocks, hfound, rfl, -, -, honce⟩ := accessors_defined_once_iff hgenerate
  obtain rfl := Except.ok.inj (hparse.symm.trans hfound)
  exact ⟨hparse, hdistinct, ⟨artifacts, hgenerate⟩, honce.mpr hdistinct⟩

/-- A field that is declared twice is defined twice. -/
theorem repeated_field_defined_twice :
    ∃ artifacts before after,
      (generate "int a\nint a" ⟨[], "Doc"⟩ "doc" .standard).outcome = .ok artifacts ∧
      artifacts.source = before ++
        ("int Doc::getA() const \x7b\n\treturn (*m_root)[\"a\"].asInt();\n\x7d\n\n" ++
          "int Doc::getA() const \x7b\n\treturn (*m_root)[\"a\"].asInt();\n\x7d\n\n") ++ after := by
  have hparse : (Schema.parse "int a\nint a").outcome =
      .ok [.scalar .int "a" "/a", .scalar .int "a" "/a"] := by
    rw [Schema.parse_outcome]
    rfl
  obtain ⟨artifacts, hgenerate⟩ := generate_of_no_fault _ ⟨[], "Doc"⟩ "doc" .standard hparse rfl
  obtain ⟨nodes, declarations, definitions, hnodes, -, -, hdefinitions, -, hsource⟩ :=
    generate_eq_ok hgenerate
  obtain rfl := Except.ok.inj (hparse.symm.trans hnodes)
  rw [Cpp.definitions_eq_blocks hdefinitions] at hsource
  exact ⟨artifacts, _, _, hgenerate, hsource⟩

end Accessors
