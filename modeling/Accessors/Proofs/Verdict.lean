import Accessors.Artifacts
import Accessors.Proofs.Emitters
import Accessors.Proofs.StackMachine
import Accessors.Proofs.Symbols
import Accessors.Proofs.Wrapping

/-!
How a run of the generator ends. After a tree is read, three searches over its nodes in the order
of the schema decide: for a class named like the class around it, for a kind without a binding, and
for a broken address of a scalar. The first search that finds something gives the fault, wherever
the others would have found theirs. Filling the two templates never fails.
-/

set_option autoImplicit false

namespace Accessors

namespace Node

mutual

/-- The nodes of a tree in the order of the schema, each with the type name of the class around
it. -/
def preorder (enclosing : String) : Node → List (String × Node)
  | classDef name address members =>
    (enclosing, classDef name address members) :: preorderAll (typeName name) members
  | scalar kind name address => [(enclosing, scalar kind name address)]
  | array kind size name address => [(enclosing, array kind size name address)]

def preorderAll (enclosing : String) : List Node → List (String × Node)
  | [] => []
  | node :: rest => node.preorder enclosing ++ preorderAll enclosing rest

end

def clash? (enclosing : String) : Node → Option Error
  | classDef name _ _ =>
    if typeName name = enclosing then some (.clash (typeName name)) else none
  | _ => none

def unbound? (settings : Settings) : Node → Option Error
  | classDef .. => none
  | scalar kind _ _ => settings.fault? kind
  | array kind _ _ _ => settings.fault? kind

def broken? : Node → Option Error
  | scalar _ _ address => Address.fault? address
  | _ => none

/-- A search that passes over classes finds the same on the visits of a walk as on the nodes. -/
theorem findSome?_visitsAll {f : Visit → Option Error} {g : Node → Option Error}
    (henter : ∀ name address members, f (.enter name address members) = none)
    (hleave : ∀ name address members, f (.leave name address members) = none)
    (hclass : ∀ name address members, g (.classDef name address members) = none)
    (hscalar : ∀ kind name address, f (.scalar kind name address) = g (.scalar kind name address))
    (harray : ∀ kind size name address,
      f (.array kind size name address) = g (.array kind size name address))
    (enclosing : String) (nodes : List Node) :
    (visitsAll nodes).findSome? f = (preorderAll enclosing nodes).findSome? fun found => g found.2 := by
  induction nodes using forest_induction generalizing enclosing with
  | nil => rfl
  | classDef name address members rest ihMembers ihRest =>
    simp [preorderAll, preorder, List.findSome?_append, henter, hleave, hclass,
      ihMembers (typeName name), ihRest enclosing]
  | scalar kind name address rest ih =>
    simp [preorderAll, preorder, List.findSome?_cons, hscalar, ih enclosing]
  | array kind size name address rest ih =>
    simp [preorderAll, preorder, List.findSome?_cons, harray, ih enclosing]

end Node

namespace Cpp

theorem checkClassNames_eq (enclosing : String) (nodes : List Node) :
    checkClassNames enclosing nodes =
      match (Node.preorderAll enclosing nodes).findSome? fun found => found.2.clash? found.1 with
      | some e => .error e
      | none => .ok () := by
  induction nodes using Node.forest_induction generalizing enclosing with
  | nil => rfl
  | classDef name address members rest ihMembers ihRest =>
    rw [checkClassNames, checkNode, ihRest, ihMembers]
    rw [Node.preorderAll, Node.preorder, List.cons_append, List.findSome?_cons,
      List.findSome?_append, Node.clash?]
    by_cases hclash : typeName name = enclosing
    · simp [hclash]
    · rw [if_neg hclash, if_neg hclash]
      cases (Node.preorderAll (typeName name) members).findSome? fun found =>
        found.2.clash? found.1 <;> rfl
  | scalar kind name address rest ih =>
    rw [checkClassNames, checkNode, ih]
    rfl
  | array kind size name address rest ih =>
    rw [checkClassNames, checkNode, ih]
    rfl

theorem declarations_fault (settings : Settings) (enclosing : String) (nodes : List Node) :
    (Node.visitsAll nodes).findSome? (Declarations.fault settings) =
      (Node.preorderAll enclosing nodes).findSome? fun found => found.2.unbound? settings :=
  Node.findSome?_visitsAll (fun _ _ _ => rfl) (fun _ _ _ => rfl) (fun _ _ _ => rfl)
    (fun _ _ _ => rfl) (fun _ _ _ _ => rfl) enclosing nodes

theorem definitions_fault (settings : Settings) (enclosing : String) (nodes : List Node) :
    (Node.visitsAll nodes).findSome? (Definitions.fault settings) =
      (Node.preorderAll enclosing nodes).findSome? fun found =>
        (found.2.unbound? settings).or found.2.broken? := by
  apply Node.findSome?_visitsAll (g := fun node => (node.unbound? settings).or node.broken?)
  · exact fun _ _ _ => rfl
  · exact fun _ _ _ => rfl
  · exact fun _ _ _ => rfl
  · exact fun _ _ _ => rfl
  · intro kind size name address
    simp [Definitions.fault, Node.unbound?, Node.broken?]

/-- Where every kind is bound, only addresses are left to fail. -/
theorem definitions_fault_of_bound {settings : Settings} {enclosing : String} {nodes : List Node}
    (h : ((Node.preorderAll enclosing nodes).findSome? fun found => found.2.unbound? settings) =
      none) :
    (Node.visitsAll nodes).findSome? (Definitions.fault settings) =
      (Node.preorderAll enclosing nodes).findSome? fun found => found.2.broken? := by
  rw [definitions_fault settings enclosing]
  rw [List.findSome?_eq_none_iff] at h
  generalize Node.preorderAll enclosing nodes = found at h
  induction found with
  | nil => rfl
  | cons first found ih =>
    obtain ⟨hfirst, hfound⟩ := List.forall_mem_cons.mp h
    rw [List.findSome?_cons, List.findSome?_cons, hfirst, Option.none_or, ih hfound]

end Cpp

/-- The faults that are met while a schema is read. -/
def Error.OfReading : Error → Prop
  | malformed .. => True
  | unterminated .. => True
  | invalidToken .. => True
  | _ => False

theorem Declares.ofReading {line : Line} {r : Except Error Declaration} (h : Declares line r)
    {e : Error} (hr : r = .error e) : e.OfReading := by
  have named : ∀ {token : String} {f : String → Declaration},
      f <$> symbolName token = .error e → e.OfReading := by
    intro token f hf
    rw [symbolName_eq_error (map_eq_error_iff.mp hf)]
    trivial
  cases h with
  | openClass | scalar | sizedName | sizedKind => exact named hr
  | _ =>
    obtain rfl := Except.error.inj hr
    trivial

theorem Schema.Stack.step_eq_error {s : Stack} {line : Line} {e : Error}
    (h : s.step line = .error e) : Declaration.ofLine line = .error e := by
  unfold step at h
  split at h
  · split at h
    · exact nomatch h
    · exact map_eq_error_iff.mp h
  · exact map_eq_error_iff.mp h

theorem Schema.Stack.run_ofReading {s : Stack} {lines : List Line} {e : Error}
    (h : s.run lines = .error e) : e.OfReading := by
  induction lines generalizing s with
  | nil =>
    rw [run_nil, finish] at h
    split at h
    · cases h
    · obtain rfl := Except.error.inj h
      trivial
  | cons line lines ih =>
    rw [run_cons] at h
    cases hstep : s.step line with
    | error e' =>
      rw [hstep, error_bind] at h
      obtain rfl := Except.error.inj h
      exact Declares.ofReading (declares_iff.mpr (step_eq_error hstep)) rfl
    | ok t =>
      rw [hstep, ok_bind] at h
      exact ih h

/-- The first fault of a tree: a clash comes before a missing binding, and that before a broken
address, wherever in the tree each of them is. -/
def Node.fault? (settings : Settings) (className : String) (nodes : List Node) : Option Error :=
  let found := preorderAll className nodes
  (found.findSome? fun found => found.2.clash? found.1).or
    ((found.findSome? fun found => found.2.unbound? settings).or
      (found.findSome? fun found => found.2.broken?))

theorem emitted_eq (settings : Settings) (className : String) (nodes : List Node) :
    (do
      Cpp.checkClassNames className nodes
      let declarations ← (Cpp.declarations settings nodes).outcome
      let definitions ← (Cpp.definitions settings className nodes).outcome
      return (declarations, definitions)) =
    match Node.fault? settings className nodes with
    | some e => .error e
    | none =>
      .ok (Cpp.Row.textAll settings.indent
          (Cpp.Declarations.rowsAll settings 1 (Node.visitsAll nodes)),
        Cpp.Row.textAll settings.indent
          (Cpp.Definitions.rowsAll settings 0 [className] (Node.visitsAll nodes))) := by
  rw [Cpp.checkClassNames_eq, Cpp.declarations_outcome, Cpp.definitions_outcome,
    Cpp.declarations_fault settings className, Node.fault?]
  cases (Node.preorderAll className nodes).findSome? fun found => found.2.clash? found.1 with
  | some e => rfl
  | none =>
    cases hunbound : (Node.preorderAll className nodes).findSome? fun found =>
        found.2.unbound? settings with
    | some e => rfl
    | none =>
      -- With every kind bound, definitions can only be stopped by an address.
      rw [Cpp.definitions_fault_of_bound hunbound]
      cases (Node.preorderAll className nodes).findSome? fun found => found.2.broken? <;> rfl

section Generate
variable (schema : String) (name : QualifiedName) (includeBase : String) (settings : Settings)

theorem generate_of_fault {nodes : List Node} {e : Error}
    (hparse : (Schema.parse schema).outcome = .ok nodes)
    (hfault : Node.fault? settings name.className nodes = some e) :
    (generate schema name includeBase settings).outcome = .error e := by
  have hemitted := emitted_eq settings name.className nodes
  rw [hfault] at hemitted
  simp only [generate, Logged.outcome_bind, hparse, ok_bind, Logged.outcome_ofExcept]
  cases hcheck : Cpp.checkClassNames name.className nodes with
  | error e' => simpa [hcheck] using hemitted
  | ok _ =>
    cases hdeclarations : (Cpp.declarations settings nodes).outcome with
    | error e' => simpa [hcheck, hdeclarations] using hemitted
    | ok declarations =>
      cases hdefinitions : (Cpp.definitions settings name.className nodes).outcome with
      | error e' => simpa [hcheck, hdeclarations, hdefinitions] using hemitted
      | ok definitions => simp [hcheck, hdeclarations, hdefinitions] at hemitted

theorem generate_of_no_fault {nodes : List Node}
    (hparse : (Schema.parse schema).outcome = .ok nodes)
    (hfault : Node.fault? settings name.className nodes = none) :
    ∃ artifacts, (generate schema name includeBase settings).outcome = .ok artifacts := by
  have hemitted := emitted_eq settings name.className nodes
  rw [hfault] at hemitted
  obtain ⟨_, hcheck, hemitted⟩ := bind_eq_ok_iff.mp hemitted
  obtain ⟨declarations, hdeclarations, hemitted⟩ := bind_eq_ok_iff.mp hemitted
  obtain ⟨definitions, hdefinitions, -⟩ := bind_eq_ok_iff.mp hemitted
  have hheader := Template.render_wrapped name includeBase declarations Template.header (by simp)
  have hsource := Template.render_wrapped name includeBase definitions Template.source (by simp)
  simp [generate, hparse, hcheck, hdeclarations, hdefinitions, hheader, hsource]

theorem generate_of_parse_error {e : Error} (hparse : (Schema.parse schema).outcome = .error e) :
    (generate schema name includeBase settings).outcome = .error e := by
  simp [generate, hparse]

end Generate

/-- What a successful run went through. -/
theorem generate_eq_ok {schema includeBase : String} {name : QualifiedName} {settings : Settings}
    {artifacts : Artifacts}
    (h : (generate schema name includeBase settings).outcome = .ok artifacts) :
    ∃ nodes declarations definitions,
      (Schema.parse schema).outcome = .ok nodes ∧
      Cpp.checkClassNames name.className nodes = .ok () ∧
      (Cpp.declarations settings nodes).outcome = .ok declarations ∧
      (Cpp.definitions settings name.className nodes).outcome = .ok definitions ∧
      artifacts.header = Template.filledAll name includeBase Template.header.front ++
        declarations ++ Template.filledAll name includeBase Template.header.back ∧
      artifacts.source = Template.filledAll name includeBase Template.source.front ++
        definitions ++ Template.filledAll name includeBase Template.source.back := by
  simp only [generate, Logged.outcome_bind, Logged.outcome_ofExcept, Logged.outcome_report,
    Logged.outcome_pure] at h
  obtain ⟨nodes, hparse, h⟩ := bind_eq_ok_iff.mp h
  obtain ⟨_, hcheck, h⟩ := bind_eq_ok_iff.mp h
  obtain ⟨declarations, hdeclarations, h⟩ := bind_eq_ok_iff.mp h
  obtain ⟨definitions, hdefinitions, h⟩ := bind_eq_ok_iff.mp h
  rw [ok_bind, Template.render_wrapped name includeBase declarations Template.header (by simp),
    ok_bind, Template.render_wrapped name includeBase definitions Template.source (by simp),
    ok_bind] at h
  obtain rfl := Except.ok.inj h
  exact ⟨nodes, declarations, definitions, hparse, hcheck, hdeclarations, hdefinitions, rfl, rfl⟩

/-- The faults of a tree are clashes, missing bindings and broken addresses. -/
theorem Node.fault?_cases {settings : Settings} {className : String} {nodes : List Node}
    {e : Error} (h : Node.fault? settings className nodes = some e) :
    (∃ type, e = .clash type) ∨ (∃ kind, e = .unbound kind) ∨ ∃ token, e = .invalidToken token := by
  have unbound : ∀ kind, settings.fault? kind = some e → ∃ kind, e = .unbound kind := by
    intro kind hkind
    unfold Settings.fault? at hkind
    split at hkind
    · exact nomatch hkind
    · exact ⟨kind, (Option.some.inj hkind).symm⟩
  rw [Node.fault?, Option.or_eq_some_iff, Option.or_eq_some_iff] at h
  rcases h with hclash | ⟨-, hunbound | ⟨-, hbroken⟩⟩
  · obtain ⟨⟨enclosing, node⟩, -, hnode⟩ := List.exists_of_findSome?_eq_some hclash
    cases node with
    | classDef name address members =>
      simp only [clash?, Option.ite_none_right_eq_some, Option.some.injEq] at hnode
      exact .inl ⟨typeName name, hnode.2.symm⟩
    | scalar | array => exact nomatch hnode
  · obtain ⟨⟨enclosing, node⟩, -, hnode⟩ := List.exists_of_findSome?_eq_some hunbound
    cases node with
    | classDef => exact nomatch hnode
    | scalar kind => exact .inr (.inl (unbound kind hnode))
    | array kind => exact .inr (.inl (unbound kind hnode))
  · obtain ⟨⟨enclosing, node⟩, -, hnode⟩ := List.exists_of_findSome?_eq_some hbroken
    cases node with
    | classDef | array => exact nomatch hnode
    | scalar kind name address =>
      obtain ⟨piece, -, rfl⟩ := Option.map_eq_some_iff.mp hnode
      exact .inr (.inr ⟨piece, rfl⟩)

/-- A fault of reading comes first, then a fault of the tree; without either there are files. The
templates and the name of the output class are never to blame. -/
theorem generate_outcome (schema : String) (name : QualifiedName) (includeBase : String)
    (settings : Settings) :
    (match (Schema.parse schema).outcome with
      | .error e => (generate schema name includeBase settings).outcome = .error e
      | .ok nodes =>
        match Node.fault? settings name.className nodes with
        | some e => (generate schema name includeBase settings).outcome = .error e
        | none =>
          ∃ artifacts, (generate schema name includeBase settings).outcome = .ok artifacts) ∧
    ∀ e, (generate schema name includeBase settings).outcome = .error e →
      (∀ hole, e ≠ .unfilled hole) ∧ ∀ text, e ≠ .invalidName text := by
  cases hparse : (Schema.parse schema).outcome with
  | error e =>
    have hgenerate := generate_of_parse_error schema name includeBase settings hparse
    refine ⟨hgenerate, fun e' he' => ?_⟩
    obtain rfl := Except.error.inj (hgenerate.symm.trans he')
    rw [Schema.parse_outcome] at hparse
    have hreading := Schema.Stack.run_ofReading hparse
    constructor <;> rintro _ rfl <;> exact hreading
  | ok nodes =>
    simp only
    cases hfault : Node.fault? settings name.className nodes with
    | some e =>
      have hgenerate := generate_of_fault schema name includeBase settings hparse hfault
      refine ⟨hgenerate, fun e' he' => ?_⟩
      obtain rfl := Except.error.inj (hgenerate.symm.trans he')
      rcases Node.fault?_cases hfault with ⟨_, rfl⟩ | ⟨_, rfl⟩ | ⟨_, rfl⟩ <;> simp
    | none =>
      obtain ⟨artifacts, hgenerate⟩ :=
        generate_of_no_fault schema name includeBase settings hparse hfault
      refine ⟨⟨artifacts, hgenerate⟩, fun e he => ?_⟩
      rw [hgenerate] at he
      exact nomatch he

end Accessors
