import Accessors.Proofs.Contexts
import Accessors.Proofs.Reports

/-!
Classes named like the class around them. A place in a forest tells which class is directly around it,
and how many nodes come before it in the order of the schema. A forest is refused just if such a class
stands at some place of it, however deep, and the class that is reported is the first one in that order.
What is accepted gives constructors whose scopes never end in one name twice.
-/

set_option autoImplicit false

namespace Accessors

namespace Node

theorem preorderAll_append (enclosing : String) (xs ys : List Node) :
    preorderAll enclosing (xs ++ ys) = preorderAll enclosing xs ++ preorderAll enclosing ys := by
  induction xs with
  | nil => rfl
  | cons node xs ih => rw [List.cons_append, preorderAll, ih, preorderAll, List.append_assoc]

theorem length_preorderAll (enclosing : String) (nodes : List Node) :
    (preorderAll enclosing nodes).length = total nodes := by
  induction nodes using forest_induction generalizing enclosing with
  | nil => rfl
  | classDef name address members rest ihMembers ihRest =>
    rw [preorderAll, preorder, total, size, List.length_append, List.length_cons, ihMembers, ihRest]
    omega
  | scalar kind name address rest ih =>
    rw [preorderAll, preorder, total, Node.size, List.length_append, List.length_singleton, ih]
  | array kind size name address rest ih =>
    rw [preorderAll, preorder, total, Node.size, List.length_append, List.length_singleton, ih]

theorem exists_preorder_cons (enclosing : String) (node : Node) :
    ∃ below, node.preorder enclosing = (enclosing, node) :: below := by
  cases node with
  | classDef name address members => exact ⟨_, rfl⟩
  | scalar kind name address => exact ⟨[], rfl⟩
  | array kind size name address => exact ⟨[], rfl⟩

theorem clash?_eq_some_iff {enclosing : String} {node : Node} {e : Error} :
    node.clash? enclosing = some e ↔ ∃ name address members,
      node = classDef name address members ∧ typeName name = enclosing ∧ e = .clash enclosing := by
  cases node with
  | classDef name address members =>
    rw [clash?, Option.ite_none_right_eq_some, Option.some.injEq]
    constructor
    · rintro ⟨rfl, rfl⟩
      exact ⟨name, address, members, rfl, rfl, rfl⟩
    · rintro ⟨_, _, _, heq, rfl, rfl⟩
      obtain ⟨rfl, -, -⟩ := Node.classDef.inj heq
      exact ⟨rfl, rfl⟩
  | scalar kind name address => simp [clash?]
  | array kind size name address => simp [clash?]

end Node

namespace Around

/-- The type of the class that is directly around the open place. -/
def enclosing (className : String) : Around → String
  | top _ _ => className
  | inside _ name _ _ _ => typeName name

/-- The same place, with one more node in front of the forest. -/
def behind (node : Node) : Around → Around
  | top before after => top (node :: before) after
  | inside outer name address before after => inside (outer.behind node) name address before after

/-- The same place, with its forest as the members of a class. -/
def within (name address : String) (rest : List Node) : Around → Around
  | top before after => inside (top [] rest) name address before after
  | inside outer name' address' before after =>
    inside (outer.within name address rest) name' address' before after

section Outwards
variable (className name address : String) (node hole : Node) (rest : List Node) (around : Around)

theorem plug_behind : (around.behind node).plug hole = node :: around.plug hole := by
  induction around generalizing hole with
  | top before after => rfl
  | inside outer name address before after ih => exact ih _

theorem position_behind : (around.behind node).position = node.size + around.position := by
  induction around with
  | top before after => rfl
  | inside outer name address before after ih =>
    rw [behind, position, ih, position]
    omega

theorem enclosing_behind : (around.behind node).enclosing className = around.enclosing className := by
  cases around <;> rfl

theorem plug_within :
    (around.within name address rest).plug hole =
      .classDef name address (around.plug hole) :: rest := by
  induction around generalizing hole with
  | top before after => rfl
  | inside outer name' address' before after ih => exact ih _

theorem position_within : (around.within name address rest).position = 1 + around.position := by
  induction around with
  | top before after => simp only [within, position, Node.total]
  | inside outer name' address' before after ih =>
    rw [within, position, ih, position]
    omega

theorem enclosing_within :
    (around.within name address rest).enclosing className = around.enclosing (typeName name) := by
  cases around <;> rfl

end Outwards

/-- A node is listed after as many others as its position says. -/
theorem preorderAll_plug (className : String) (around : Around) (node : Node) :
    ∃ earlier later, Node.preorderAll className (around.plug node) =
      earlier ++ (node.preorder (around.enclosing className) ++ later) ∧
        earlier.length = around.position := by
  induction around generalizing node with
  | top before after =>
    refine ⟨Node.preorderAll className before, Node.preorderAll className after, ?_, ?_⟩
    · rw [plug, Node.preorderAll_append]
      rfl
    · exact Node.length_preorderAll className before
  | inside outer name address before after ih =>
    obtain ⟨earlier, later, hlist, hlength⟩ := ih (.classDef name address (before ++ node :: after))
    refine ⟨earlier ++ (outer.enclosing className, .classDef name address (before ++ node :: after)) ::
      Node.preorderAll (typeName name) before, Node.preorderAll (typeName name) after ++ later, ?_, ?_⟩
    · rw [plug, hlist, Node.preorder, Node.preorderAll_append]
      simp [Node.preorderAll, enclosing]
    · rw [List.length_append, List.length_cons, Node.length_preorderAll, hlength, position]
      omega

theorem exists_plug_of_preorderAll {className enclosing : String} {nodes : List Node} {node : Node}
    {i : Nat} (h : (Node.preorderAll className nodes)[i]? = some (enclosing, node)) :
    ∃ around : Around, around.plug node = nodes ∧ around.position = i ∧
      around.enclosing className = enclosing := by
  induction nodes using Node.forest_induction generalizing className i with
  | nil => cases h
  | classDef name address members rest ihMembers ihRest =>
    rw [Node.preorderAll, Node.preorder, List.cons_append] at h
    cases i with
    | zero =>
      obtain ⟨rfl, rfl⟩ := Prod.mk.inj (Option.some.inj h)
      exact ⟨top [] rest, rfl, rfl, rfl⟩
    | succ i =>
      rw [List.getElem?_cons_succ, List.getElem?_append] at h
      split at h
      · obtain ⟨around, rfl, rfl, rfl⟩ := ihMembers h
        refine ⟨around.within name address rest, plug_within .., ?_, enclosing_within ..⟩
        rw [position_within, Nat.add_comm]
      · rename_i hlong
        rw [Node.length_preorderAll] at h hlong
        obtain ⟨around, rfl, hposition, rfl⟩ := ihRest h
        refine ⟨around.behind (.classDef name address members), plug_behind .., ?_,
          enclosing_behind ..⟩
        rw [position_behind, hposition, Node.size]
        omega
  | scalar kind name address rest ih =>
    cases i with
    | zero =>
      obtain ⟨rfl, rfl⟩ := Prod.mk.inj (Option.some.inj h)
      exact ⟨top [] rest, rfl, rfl, rfl⟩
    | succ i =>
      obtain ⟨around, rfl, rfl, rfl⟩ := ih h
      refine ⟨around.behind (.scalar kind name address), plug_behind .., ?_, enclosing_behind ..⟩
      rw [position_behind, Node.size, Nat.add_comm]
  | array kind size name address rest ih =>
    cases i with
    | zero =>
      obtain ⟨rfl, rfl⟩ := Prod.mk.inj (Option.some.inj h)
      exact ⟨top [] rest, rfl, rfl, rfl⟩
    | succ i =>
      obtain ⟨around, rfl, rfl, rfl⟩ := ih h
      refine ⟨around.behind (.array kind size name address), plug_behind .., ?_, enclosing_behind ..⟩
      rw [position_behind, Node.size, Nat.add_comm]

theorem getElem?_preorderAll_plug (className : String) (around : Around) (node : Node) :
    (Node.preorderAll className (around.plug node))[around.position]? =
      some (around.enclosing className, node) := by
  obtain ⟨earlier, later, hlist, hlength⟩ := preorderAll_plug className around node
  obtain ⟨below, hbelow⟩ := node.exists_preorder_cons (around.enclosing className)
  rw [hlist, hbelow, ← hlength, List.getElem?_append_right (Nat.le_refl _), Nat.sub_self]
  rfl

/-- A class stands at a place of a forest, and it has the type name of the class around it. -/
def Clashes (className : String) (nodes : List Node) (around : Around) (type : String) : Prop :=
  ∃ name address members, around.plug (.classDef name address members) = nodes ∧
    typeName name = type ∧ around.enclosing className = type

variable {className type : String} {nodes : List Node} {around : Around}

theorem Clashes.listed (h : around.Clashes className nodes type) :
    ∃ found : String × Node, (Node.preorderAll className nodes)[around.position]? = some found ∧
      found.2.clash? found.1 = some (.clash type) := by
  obtain ⟨name, address, members, rfl, rfl, henclosing⟩ := h
  refine ⟨_, getElem?_preorderAll_plug className around _, ?_⟩
  exact Node.clash?_eq_some_iff.mpr ⟨name, address, members, rfl, henclosing.symm,
    congrArg _ henclosing.symm⟩

theorem exists_clashes {found : String × Node} {e : Error} {i : Nat}
    (hfound : (Node.preorderAll className nodes)[i]? = some found)
    (hclash : found.2.clash? found.1 = some e) :
    ∃ around type, Clashes className nodes around type ∧ around.position = i ∧ e = .clash type := by
  obtain ⟨around, hplug, hposition, henclosing⟩ := exists_plug_of_preorderAll hfound
  obtain ⟨name, address, members, hnode, htype, rfl⟩ := Node.clash?_eq_some_iff.mp hclash
  rw [hnode] at hplug
  exact ⟨around, found.1, ⟨name, address, members, hplug, htype, henclosing⟩, hposition, rfl⟩

/-- Two places after equally many nodes are places of one class. -/
theorem Clashes.type_eq {other : Around} {otherType : String}
    (h : around.Clashes className nodes type) (hother : other.Clashes className nodes otherType)
    (hposition : around.position = other.position) : type = otherType := by
  obtain ⟨found, hfound, hclash⟩ := h.listed
  obtain ⟨found', hfound', hclash'⟩ := hother.listed
  rw [hposition, hfound'] at hfound
  obtain rfl := Option.some.inj hfound
  rw [hclash'] at hclash
  exact (Error.clash.inj (Option.some.inj hclash)).symm

end Around

namespace Cpp

variable {className : String} {nodes : List Node}

theorem checkClassNames_eq_ok_iff :
    checkClassNames className nodes = .ok () ↔
      ∀ (around : Around) (type : String), ¬ around.Clashes className nodes type := by
  rw [checkClassNames_eq]
  constructor
  · intro hok around type hclashes
    obtain ⟨found, hfound, hclash⟩ := hclashes.listed
    split at hok
    · cases hok
    · rename_i hnone
      rw [List.findSome?_eq_none_iff.mp hnone found (List.mem_of_getElem? hfound)] at hclash
      cases hclash
  · intro hfree
    split
    · rename_i e hsome
      obtain ⟨found, hmem, hclash⟩ := List.exists_of_findSome?_eq_some hsome
      obtain ⟨i, hfound⟩ := List.getElem?_of_mem hmem
      obtain ⟨around, type, hclashes, -⟩ := Around.exists_clashes hfound hclash
      exact absurd hclashes (hfree around type)
    · rfl

/-- The class that is reported has the fewest nodes before it. -/
theorem exists_first_of_checkClassNames {e : Error}
    (h : checkClassNames className nodes = .error e) :
    ∃ (around : Around) (type : String), around.Clashes className nodes type ∧
      (∀ (other : Around) (otherType : String), other.Clashes className nodes otherType →
        around.position ≤ other.position) ∧ e = .clash type := by
  rw [checkClassNames_eq] at h
  split at h
  · rename_i e' hsome
    obtain rfl := Except.error.inj h
    obtain ⟨earlier, found, later, hlist, hclash, hearlier⟩ := List.findSome?_eq_some_iff.mp hsome
    have hfound : (Node.preorderAll className nodes)[earlier.length]? = some found := by
      rw [hlist, List.getElem?_append_right (Nat.le_refl _), Nat.sub_self]
      rfl
    obtain ⟨around, type, hclashes, hposition, htype⟩ := Around.exists_clashes hfound hclash
    refine ⟨around, type, hclashes, ?_, htype⟩
    intro other otherType hother
    obtain ⟨found', hfound', hclash'⟩ := hother.listed
    rw [hposition]
    -- What is listed earlier does not clash.
    by_contra hlt
    rw [hlist, List.getElem?_append_left (Nat.lt_of_not_le hlt)] at hfound'
    rw [hearlier found' (List.mem_of_getElem? hfound')] at hclash'
    cases hclash'
  · cases h

theorem checkClassNames_eq_error_iff {e : Error} :
    checkClassNames className nodes = .error e ↔
      ∃ (around : Around) (type : String), around.Clashes className nodes type ∧
        (∀ (other : Around) (otherType : String), other.Clashes className nodes otherType →
          around.position ≤ other.position) ∧ e = .clash type := by
  constructor
  · exact exists_first_of_checkClassNames
  · rintro ⟨around, type, hclashes, hfirst, rfl⟩
    cases hcheck : checkClassNames className nodes with
    | ok _ => exact absurd hclashes (checkClassNames_eq_ok_iff.mp hcheck around type)
    | error e =>
      obtain ⟨other, otherType, hother, hfirst', rfl⟩ := exists_first_of_checkClassNames hcheck
      have hposition := Nat.le_antisymm (hfirst' around type hclashes) (hfirst other otherType hother)
      rw [hother.type_eq hclashes hposition]

end Cpp

/-- The types of the classes around a class, from the output class inwards, and then its own. -/
def Nested.path (className : String) (nested : Nested) : List String :=
  className :: nested.enclosing ++ [nested.type]

/-- The scope of a class that is written somewhere ends in the type of the class around its place, and
in its own type. -/
theorem exists_place_of_nested {className last : String} {enclosing outer : List String}
    {nodes : List Node} {nested : Nested} (hscope : className :: enclosing = outer ++ [last])
    (h : nested ∈ Node.nestedAll enclosing nodes) :
    ∃ (around : Around) (name address : String) (members : List Node) (front : List String),
      around.plug (.classDef name address members) = nodes ∧ typeName name = nested.type ∧
        nested.path className = front ++ [around.enclosing last, nested.type] := by
  induction nodes using Node.forest_induction generalizing enclosing outer last with
  | nil => cases h
  | classDef name address members rest ihMembers ihRest =>
    rw [Node.nestedAll, Node.nested, List.mem_append, List.mem_cons] at h
    rcases h with (rfl | h) | h
    · refine ⟨.top [] rest, name, address, members, outer, rfl, rfl, ?_⟩
      rw [Nested.path, hscope, List.append_assoc]
      rfl
    · have hinner : className :: (enclosing ++ [typeName name]) =
          (className :: enclosing) ++ [typeName name] := rfl
      obtain ⟨around, name', address', members', front, rfl, htype, hpath⟩ := ihMembers hinner h
      refine ⟨around.within name address rest, name', address', members', front,
        Around.plug_within .., htype, ?_⟩
      rw [Around.enclosing_within, hpath]
    · obtain ⟨around, name', address', members', front, rfl, htype, hpath⟩ := ihRest hscope h
      refine ⟨around.behind (.classDef name address members), name', address', members', front,
        Around.plug_behind .., htype, ?_⟩
      rw [Around.enclosing_behind, hpath]
  | scalar kind name address rest ih =>
    obtain ⟨around, name', address', members', front, rfl, htype, hpath⟩ := ih hscope h
    refine ⟨around.behind (.scalar kind name address), name', address', members', front,
      Around.plug_behind .., htype, ?_⟩
    rw [Around.enclosing_behind, hpath]
  | array kind size name address rest ih =>
    obtain ⟨around, name', address', members', front, rfl, htype, hpath⟩ := ih hscope h
    refine ⟨around.behind (.array kind size name address), name', address', members', front,
      Around.plug_behind .., htype, ?_⟩
    rw [Around.enclosing_behind, hpath]

namespace Cpp

def Block.constructor? : Block → Option (String × String)
  | constructor owner type => some (owner, type)
  | getter .. => none

@[simp] theorem Block.constructor?_constructor (owner type : String) :
    (constructor owner type).constructor? = some (owner, type) := rfl

@[simp] theorem Block.constructor?_getter (g : Getter) (value : String) :
    (getter g value).constructor? = none := rfl

theorem Definitions.constructors_blocksAll (settings : Settings) (className : String)
    (enclosing : List String) (nodes : List Node) :
    (blocksAll settings (className :: enclosing) nodes).filterMap Block.constructor? =
      (Node.nestedAll enclosing nodes).map fun c =>
        (String.intercalate "::" (c.path className), c.type) := by
  induction nodes using Node.forest_induction generalizing enclosing with
  | nil => rfl
  | classDef name address members rest ihMembers ihRest =>
    rw [blocksAll_classDef, List.cons_append]
    simp [List.filterMap_cons, Node.nestedAll, Node.nested, Nested.path,
      ihMembers (enclosing ++ [typeName name]), ihRest enclosing]
  | scalar kind name address rest ih =>
    rw [blocksAll, List.filterMap_append, ih enclosing, blocks]
    cases settings.bindings kind <;> cases subscripts address <;> rfl
  | array kind size name address rest ih => exact ih enclosing

theorem path_ends_of_checkClassNames {className : String} {nodes : List Node}
    (h : checkClassNames className nodes = .ok ()) {nested : Nested}
    (hnested : nested ∈ Node.nestedAll [] nodes) {front : List String} {a b : String}
    (hpath : nested.path className = front ++ [a, b]) : a ≠ b := by
  have htop : className :: [] = [] ++ [className] := rfl
  obtain ⟨around, name, address, members, front', hplug, htype, hends⟩ :=
    exists_place_of_nested htop hnested
  obtain ⟨-, hlast⟩ := List.append_inj' (hpath.symm.trans hends) rfl
  obtain ⟨rfl, rfl⟩ : a = around.enclosing className ∧ b = nested.type := by simpa using hlast
  intro heq
  exact checkClassNames_eq_ok_iff.mp h around nested.type
    ⟨name, address, members, hplug, htype, heq⟩

/-- A forest is accepted just if no class in it has the type name of the class directly around it.
Otherwise the first one that does is reported, in the order of the schema. The constructors that are
written for an accepted forest stand in scopes that do not end in one name twice. -/
theorem checkClassNames_first_clash (className : String) (nodes : List Node) :
    (checkClassNames className nodes = .ok () ↔
      ∀ (around : Around) (name address : String) (members : List Node),
        around.plug (.classDef name address members) = nodes →
          typeName name ≠ around.enclosing className) ∧
    (∀ e, checkClassNames className nodes = .error e ↔
      ∃ (around : Around) (type : String), around.Clashes className nodes type ∧
        (∀ (other : Around) (otherType : String), other.Clashes className nodes otherType →
          around.position ≤ other.position) ∧ e = .clash type) ∧
    (checkClassNames className nodes = .ok () →
      ∀ settings text, (definitions settings className nodes).outcome = .ok text →
        text = Block.textAll settings.indent (Definitions.blocksAll settings [className] nodes) ∧
        (Definitions.blocksAll settings [className] nodes).filterMap Block.constructor? =
          (Node.nestedAll [] nodes).map (fun c =>
            (String.intercalate "::" (c.path className), c.type)) ∧
        ∀ nested ∈ Node.nestedAll [] nodes, ∀ front a b,
          nested.path className = front ++ [a, b] → a ≠ b) := by
  refine ⟨?_, fun e => checkClassNames_eq_error_iff, ?_⟩
  · rw [checkClassNames_eq_ok_iff]
    constructor
    · intro h around name address members hplug heq
      exact h around (typeName name) ⟨name, address, members, hplug, rfl, heq.symm⟩
    · rintro h around type ⟨name, address, members, hplug, rfl, henclosing⟩
      exact h around name address members hplug henclosing.symm
  · intro hcheck settings text htext
    refine ⟨definitions_eq_blocks htext, ?_, ?_⟩
    · exact Definitions.constructors_blocksAll settings className [] nodes
    · intro nested hnested front a b hpath
      exact path_ends_of_checkClassNames hcheck hnested hpath

/-- One name in scopes that do not touch is accepted. A clash that is deep down is reported before one
at top level that comes later. -/
theorem checkClassNames_first_clash_scopes :
    let apart : List Node := [.classDef "a" "/a" [.classDef "b" "/a/b" []],
      .classDef "c" "/c" [.classDef "b" "/c/b" [.classDef "a" "/c/b/a" []]]]
    let clashing : List Node := [.scalar .int "doc" "/doc",
      .classDef "a" "/a" [.classDef "b" "/a/b" [.classDef "B" "/a/b/B" []]],
      .classDef "doc" "/doc" []]
    (∃ text, checkClassNames "Doc" apart = .ok () ∧
      (definitions .standard "Doc" apart).outcome = .ok text ∧
      ∀ nested ∈ Node.nestedAll [] apart, ∀ front a b,
        nested.path "Doc" = front ++ [a, b] → a ≠ b) ∧
    checkClassNames "Doc" clashing = .error (.clash "B") ∧
    ∃ around : Around, around.Clashes "Doc" clashing "B" ∧
      ∀ (other : Around) (otherType : String), other.Clashes "Doc" clashing otherType →
        around.position ≤ other.position := by
  intro apart clashing
  have haccepted : checkClassNames "Doc" apart = .ok () := rfl
  have hrefused : checkClassNames "Doc" clashing = .error (.clash "B") := rfl
  have htext := definitions_outcome .standard "Doc" apart
  have hscopes := (checkClassNames_first_clash "Doc" apart).2.2 haccepted .standard _ htext
  obtain ⟨around, type, hclashes, hfirst, htype⟩ :=
    ((checkClassNames_first_clash "Doc" clashing).2.1 (.clash "B")).mp hrefused
  obtain rfl := Error.clash.inj htype
  exact ⟨⟨_, haccepted, htext, hscopes.2.2⟩, hrefused, around, hclashes, hfirst⟩

end Cpp
end Accessors
