import Accessors.Proofs.ReadBack
import Accessors.Proofs.Verdict

/-!
Declarations and definitions of one tree agree. Both emitters are in the same scope on every visit,
so the two texts own the same constructors and getters, in the same order. Only the getters of arrays
are declared and not defined.
-/

set_option autoImplicit false

namespace Accessors

namespace Node

mutual

/-- The nodes of a tree, members before their class. -/
def postorder : Node → List Node
  | classDef name address members => postorderAll members ++ [classDef name address members]
  | scalar kind name address => [scalar kind name address]
  | array kind size name address => [array kind size name address]

def postorderAll : List Node → List Node
  | [] => []
  | node :: rest => node.postorder ++ postorderAll rest

end

def isArray : Node → Bool
  | array .. => true
  | _ => false

def classType? : Node → Option String
  | classDef name .. => some (typeName name)
  | _ => none

end Node

/-- The node whose getter is written on a visit. -/
def Visit.accessed? : Visit → Option Node
  | enter .. => none
  | leave name address members => some (.classDef name address members)
  | scalar kind name address => some (.scalar kind name address)
  | array kind size name address => some (.array kind size name address)

/-- The type that is opened on a visit. -/
def Visit.entered? : Visit → Option String
  | enter name .. => some (typeName name)
  | _ => none

theorem Node.filterMap_entered? (enclosing : String) (nodes : List Node) :
    (visitsAll nodes).filterMap Visit.entered? =
      (preorderAll enclosing nodes).filterMap fun p => p.2.classType? := by
  induction nodes using forest_induction generalizing enclosing with
  | nil => rfl
  | classDef name address members rest ihMembers ihRest =>
    simp [List.filterMap_cons, preorderAll, preorder, Visit.entered?, classType?,
      ihMembers (typeName name), ihRest enclosing]
  | scalar kind name address rest ih => exact ih enclosing
  | array kind size name address rest ih => exact ih enclosing

theorem Node.filterMap_accessed? (nodes : List Node) :
    (visitsAll nodes).filterMap Visit.accessed? = postorderAll nodes := by
  induction nodes using forest_induction with
  | nil => rfl
  | classDef name address members rest ihMembers ihRest =>
    simp [List.filterMap_cons, postorderAll, postorder, Visit.accessed?, ihMembers, ihRest]
  | scalar kind name address rest ih => simp [postorderAll, postorder, Visit.accessed?, ih]
  | array kind size name address rest ih => simp [postorderAll, postorder, Visit.accessed?, ih]

namespace Cpp

namespace Declarations

/-- The getters that a visit declares in some scope, with their nodes. -/
def accessors (settings : Settings) (scope : List String) : Visit → List (Getter × Node)
  | .enter .. => []
  | .leave name address members =>
    [(⟨typeName name, String.intercalate "::" scope.dropLast, accessorName name⟩,
      .classDef name address members)]
  | .scalar kind name address =>
    (settings.bindings kind).toList.map fun binding =>
      (⟨binding.native, String.intercalate "::" scope, accessorName name⟩,
        .scalar kind name address)
  | .array kind size name address =>
    (settings.bindings kind).toList.map fun binding =>
      (⟨binding.native ++ "*", String.intercalate "::" scope, accessorName name⟩,
        .array kind size name address)

def entries (settings : Settings) (scope : List String) : Visit → List Entry
  | .enter name _ _ =>
    [.constructor (String.intercalate "::" (scope ++ [typeName name])) (typeName name)]
  | v => (accessors settings scope v).map fun p => .getter p.1

/-- One visit moves the reader to the scope that the other emitter is in. -/
theorem foldl_read_statements (settings : Settings) (scope : List String) (found : List Entry)
    (v : Visit) : (statements settings v).foldl Header.read ⟨scope, found⟩ =
      ⟨Definitions.scopeAfter scope v, found ++ entries settings scope v⟩ := by
  cases v with
  | enter name address members => rfl
  | leave name address members => rfl
  | scalar kind name address =>
    cases hbinding : settings.bindings kind <;>
      simp [statements, entries, accessors, hbinding, Header.read, Definitions.scopeAfter]
  | array kind size name address =>
    cases hbinding : settings.bindings kind <;>
      simp [statements, entries, accessors, hbinding, Header.read, Definitions.scopeAfter]

theorem foldl_read (settings : Settings) (scope : List String) (found : List Entry)
    (vs : List Visit) : (vs.flatMap (statements settings)).foldl Header.read ⟨scope, found⟩ =
      ⟨vs.foldl Definitions.scopeAfter scope, found ++
        (contexts Definitions.scopeAfter scope vs).flatMap fun p => entries settings p.1 p.2⟩ := by
  induction vs generalizing scope found with
  | nil => simp [contexts]
  | cons v vs ih =>
    rw [List.flatMap_cons, List.foldl_append, foldl_read_statements, ih]
    simp [contexts]

end Declarations

/-- The type of a class is qualified where its getter is defined. -/
def Getter.definedFor (getter : Getter) : Node → Getter
  | .classDef .. => { getter with type := getter.owner ++ "::" ++ getter.type }
  | _ => getter

section Accessors
variable (settings : Settings) (scope : List String) (v : Visit)

theorem Declarations.filterMap_getter? :
    (entries settings scope v).filterMap Entry.getter? =
      (accessors settings scope v).map Prod.fst := by
  cases v <;> simp [entries, accessors, Entry.getter?, List.filterMap_map, Function.comp_def]

theorem Declarations.map_snd_accessors (hfault : fault settings v = none) :
    (accessors settings scope v).map Prod.snd = v.accessed?.toList := by
  cases v with
  | enter name address members => rfl
  | leave name address members => rfl
  | scalar kind name address =>
    obtain ⟨binding, hbinding⟩ := Settings.fault?_eq_none_iff.mp hfault
    simp [accessors, hbinding, Visit.accessed?]
  | array kind size name address =>
    obtain ⟨binding, hbinding⟩ := Settings.fault?_eq_none_iff.mp hfault
    simp [accessors, hbinding, Visit.accessed?]

theorem Definitions.filterMap_getter? :
    (entries settings scope v).filterMap Entry.getter? =
      ((Declarations.accessors settings scope v).filter fun p => !p.2.isArray).map
        fun p => p.1.definedFor p.2 := by
  cases v with
  | enter name address members => rfl
  | leave name address members => rfl
  | scalar kind name address =>
    cases h : settings.bindings kind <;>
      simp [entries, Declarations.accessors, h, Entry.getter?, Node.isArray, Getter.definedFor]
  | array kind size name address =>
    cases h : settings.bindings kind <;>
      simp [entries, Declarations.accessors, h, Node.isArray]

theorem filterMap_constructor? :
    (Declarations.entries settings scope v).filterMap Entry.constructor? =
      (Definitions.entries settings scope v).filterMap Entry.constructor? := by
  cases v with
  | enter name address members => rfl
  | leave name address members => rfl
  | scalar kind name address =>
    simp [Declarations.entries, Declarations.accessors, Definitions.entries, Function.comp_def]
  | array kind size name address =>
    simp [Declarations.entries, Definitions.entries, Entry.constructor?]

theorem map_type_constructors :
    ((Declarations.entries settings scope v).filterMap Entry.constructor?).map Prod.snd =
      v.entered?.toList := by
  cases v <;>
    simp [Declarations.entries, Declarations.accessors, Entry.constructor?, Visit.entered?]

theorem Declarations.name_of_mem_accessors {p : Getter × Node}
    (h : p ∈ accessors settings scope v) : p.1.name = accessorName p.2.name := by
  cases v with
  | enter name address members => exact nomatch h
  | leave name address members =>
    obtain rfl := List.mem_singleton.mp h
    rfl
  | scalar kind name address =>
    obtain ⟨binding, -, rfl⟩ := List.mem_map.mp h
    rfl
  | array kind size name address =>
    obtain ⟨binding, -, rfl⟩ := List.mem_map.mp h
    rfl

end Accessors

/-- The declarations and the definitions of a forest, as they are read back, agree. Declared getters
are in the order of their nodes. -/
structure Agree (className : String) (nodes : List Node) (header : Header)
    (defined : List Entry) : Prop where
  scope : header.scope = [className]
  classes : (header.entries.filterMap Entry.constructor?).map Prod.snd =
    (Node.preorderAll className nodes).filterMap fun p => p.2.classType?
  constructors : header.entries.filterMap Entry.constructor? =
    defined.filterMap Entry.constructor?
  names : (header.entries.filterMap Entry.getter?).map Getter.name =
    (Node.postorderAll nodes).map fun node => accessorName node.name
  getters : defined.filterMap Entry.getter? =
    (((header.entries.filterMap Entry.getter?).zip (Node.postorderAll nodes)).filter
      fun p => !p.2.isArray).map fun p => p.1.definedFor p.2

/-- Entries that are found visit by visit agree, whatever the texts were. -/
theorem agree_of_contexts {settings : Settings} {className : String} {nodes : List Node}
    (hscope : (Node.visitsAll nodes).foldl Definitions.scopeAfter [className] = [className])
    (hfault : ∀ v ∈ Node.visitsAll nodes, Declarations.fault settings v = none) :
    let items := contexts Definitions.scopeAfter [className] (Node.visitsAll nodes)
    Agree className nodes
      ⟨(Node.visitsAll nodes).foldl Definitions.scopeAfter [className],
        items.flatMap fun p => Declarations.entries settings p.1 p.2⟩
      (items.flatMap fun p => Definitions.entries settings p.1 p.2) := by
  intro items
  have hvisits : items.map Prod.snd = Node.visitsAll nodes := map_snd_contexts _ _ _
  have hmem : ∀ item ∈ items, item.2 ∈ Node.visitsAll nodes :=
    fun item hitem => mem_of_mem_contexts _ hitem
  -- Getters stay beside their nodes, so the lists that are zipped are two halves of one list.
  let pairs := items.flatMap fun p => Declarations.accessors settings p.1 p.2
  have hgetters : (items.flatMap fun p => Declarations.entries settings p.1 p.2).filterMap
      Entry.getter? = pairs.map Prod.fst := by
    simp only [List.filterMap_flatMap, Declarations.filterMap_getter?, pairs, List.map_flatMap]
  have hnodes : pairs.map Prod.snd = Node.postorderAll nodes := by
    rw [← Node.filterMap_accessed?, ← hvisits, List.filterMap_map,
      List.filterMap_eq_flatMap_toList, List.map_flatMap]
    refine List.flatMap_congr fun item hitem => ?_
    exact Declarations.map_snd_accessors settings item.1 item.2 (hfault item.2 (hmem item hitem))
  have hnames : ∀ p ∈ pairs, p.1.name = accessorName p.2.name := by
    intro p hp
    obtain ⟨item, -, hp⟩ := List.mem_flatMap.mp hp
    exact Declarations.name_of_mem_accessors settings item.1 item.2 hp
  refine ⟨hscope, ?_, ?_, ?_, ?_⟩
  · simp only [List.filterMap_flatMap, List.map_flatMap, map_type_constructors]
    rw [← Node.filterMap_entered?, ← hvisits, List.filterMap_map,
      List.filterMap_eq_flatMap_toList]
    rfl
  · simp only [List.filterMap_flatMap, filterMap_constructor?]
  · rw [hgetters, ← hnodes, List.map_map, List.map_map]
    exact List.map_congr_left hnames
  · rw [hgetters, ← hnodes, ← List.zip_of_prod rfl rfl]
    simp only [List.filterMap_flatMap, Definitions.filterMap_getter?, pairs, List.filter_flatMap,
      List.map_flatMap]

theorem declarations_agree_with_definitions {source className header body : String}
    {settings : Settings} {nodes : List Node} (hparse : (Schema.parse source).outcome = .ok nodes)
    (hne : className ≠ "") (hword : ∀ c ∈ className.toList, Text.isWord c = true)
    (hsettings : settings.Readable)
    (hheader : (declarations settings nodes).outcome = .ok header)
    (hbody : (definitions settings className nodes).outcome = .ok body) :
    Agree className nodes (Header.ofText className header) (Entry.ofText body) := by
  have hspells := Schema.spells_of_parse hparse
  have htidy := hspells.tidy (by decide)
  have hclass : ∀ type ∈ [className], Plain type :=
    List.forall_mem_singleton.mpr ⟨hne, fun c hc => Text.isPlain_of_isWord (hword c hc)⟩
  obtain ⟨hdeclared, rfl⟩ := no_fault_of_declarations hheader
  obtain ⟨hdefined, rfl⟩ := no_fault_of_definitions hbody
  rw [Header.ofText, Declarations.filterMap_lines hsettings htidy, Declarations.foldl_read,
    Definitions.filterMap_lines hsettings htidy hdefined hclass]
  have hnames : ([] : List String).mapM symbolName = .ok [] := rfl
  have hscope : (Node.visitsAll nodes).foldl Definitions.scopeAfter [className] = [className] :=
    (hspells.matches className rfl hnames).1
  exact agree_of_contexts hscope hdeclared

/-- A class in a class, and an array among scalars. -/
theorem declarations_agree_with_definitions_nested :
    let nodes : List Node := [.classDef "a" "/a" [.scalar .int "b" "/a/b",
      .classDef "c" "/a/c" [.array .float "3" "d" "/a/c/d[3]"]], .scalar .string "e" "/e"]
    (Schema.parse "class a\nint b\nclass c\nfloat d[3]\n\x7d\n\x7d\nstring e").outcome = .ok nodes ∧
      ∃ header body, (declarations .standard nodes).outcome = .ok header ∧
        (definitions .standard "Doc" nodes).outcome = .ok body ∧
        Agree "Doc" nodes (Header.ofText "Doc" header) (Entry.ofText body) := by
  intro nodes
  have hparse : (Schema.parse
      "class a\nint b\nclass c\nfloat d[3]\n\x7d\n\x7d\nstring e").outcome = .ok nodes := by
    rw [Schema.parse_outcome]
    rfl
  have hword : ∀ c ∈ "Doc".toList, Text.isWord c = true := List.all_eq_true.mp (by decide)
  have hheader := declarations_outcome .standard nodes
  have hbody := definitions_outcome .standard "Doc" nodes
  exact ⟨hparse, _, _, hheader, hbody, declarations_agree_with_definitions hparse (by decide) hword
    Settings.standard_readable hheader hbody⟩

end Cpp

end Accessors
