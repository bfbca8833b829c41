import Accessors.Proofs.LineForms
import Accessors.Proofs.PrintedValues
import Accessors.Proofs.Reader
import Accessors.Schema.Dump

/-!
Dumped trees. The text of a dump is read as a value, and the member `node` of an object says which
variant it is and so which other members make it up. Every dump gives back the tree that was dumped.
-/

set_option autoImplicit false

namespace Accessors

open Json

namespace Json.Value

def text? : Value → Option String
  | .string body => Literal.decode? body
  | _ => none

/-- The value of the first member with a name. -/
def field? (name : String) (members : List (List Char × Value)) : Option Value :=
  (members.find? fun member => Literal.decode? member.1 == some name).map (·.2)

def textField? (name : String) (members : List (List Char × Value)) : Option String :=
  (field? name members).bind text?

def kindField? (name : String) (members : List (List Char × Value)) : Option Kind :=
  (textField? name members).bind Kind.ofKeyword?

theorem sizeOf_of_field? {name : String} {members : List (List Char × Value)} {v : Value}
    (h : field? name members = some v) : sizeOf v < sizeOf members := by
  obtain ⟨member, hmember, rfl⟩ := Option.map_eq_some_iff.mp h
  have hmem := List.sizeOf_lt_of_mem (List.mem_of_find?_eq_some hmember)
  have hpair : sizeOf member = 1 + sizeOf member.1 + sizeOf member.2 := by
    cases member
    rfl
  omega

/-- The items of a member that is a list. They are smaller than the object. -/
def listField? (name : String) (members : List (List Char × Value)) :
    Option { items : List Value // sizeOf items < sizeOf members } :=
  match h : field? name members with
  | some (.list items) =>
    some ⟨items, Nat.lt_trans (by simp) (sizeOf_of_field? h)⟩
  | _ => none

@[simp]
theorem text?_text (s : String) : text? (.text s) = some s := Literal.decode?_escaped s

@[simp]
theorem field?_fields (name : String) (fields : List (String × Value)) :
    field? name (fields.map fun field => (Literal.escaped field.1, field.2)) =
      fields.lookup name := by
  induction fields with
  | nil => rfl
  | cons field fields ih =>
    obtain ⟨key, v⟩ := field
    rw [List.map_cons, field?, List.find?_cons, List.lookup_cons, ← ih]
    by_cases hname : key = name
    · simp [hname]
    · have hbeq : (some key == some name) = false := by simpa using hname
      have hbeq' : (name == key) = false := by simpa using Ne.symm hname
      simp only [Literal.decode?_escaped, hbeq, hbeq', field?]

theorem listField?_fields (name : String) (fields : List (String × Value)) {items : List Value}
    (h : fields.lookup name = some (.list items)) :
    ∃ hlt, listField? name (fields.map fun field => (Literal.escaped field.1, field.2)) =
      some ⟨items, hlt⟩ := by
  rw [← field?_fields] at h
  refine ⟨Nat.lt_trans (by simp) (sizeOf_of_field? h), ?_⟩
  unfold listField?
  split
  · rename_i items' h'
    obtain rfl := Value.list.inj (Option.some.inj (h'.symm.trans h))
    rfl
  · rename_i hne
    exact (hne items h).elim

end Json.Value

namespace Node

open Value

mutual

/-- Reads a node from its value. -/
def ofValue? : Value → Option Node
  | .object members => do
    let name ← textField? "name" members
    let address ← textField? "address" members
    match ← textField? "node" members with
    | "class" =>
      let ⟨items, _⟩ ← listField? "members" members
      return .classDef name address (← ofValues? items)
    | "primitive" => return .scalar (← kindField? "kind" members) name address
    | "array" =>
      let size ← textField? "size" members
      return .array (← kindField? "element_kind" members) size name address
    | _ => none
  | _ => none
termination_by v => sizeOf v

def ofValues? : List Value → Option (List Node)
  | [] => some []
  | v :: vs => do return (← ofValue? v) :: (← ofValues? vs)
termination_by vs => sizeOf vs

end

/-- Reads the nodes of a tree from the text of a dump. -/
def readTree? (text : String) : Option (List Node) := do
  match ← Value.read? text.toList with
  | .object members =>
    let ⟨items, _⟩ ← listField? "nodes" members
    ofValues? items
  | _ => none

mutual

/-- The value that is printed for a node. -/
def toValue : Node → Value
  | classDef name address members =>
    .fields [("node", .text "class"), ("name", .text name), ("address", .text address),
      ("members", .list (toValues members))]
  | scalar kind name address =>
    .fields [("node", .text "primitive"), ("kind", .text kind.keyword), ("name", .text name),
      ("address", .text address)]
  | array kind size name address =>
    .fields [("node", .text "array"), ("element_kind", .text kind.keyword), ("size", .text size),
      ("name", .text name), ("address", .text address)]

def toValues : List Node → List Value
  | [] => []
  | node :: nodes => toValue node :: toValues nodes

end

mutual

theorem prints_dump (level : Nat) : ∀ node : Node, node.toValue.Prints (dump level node)
  | classDef name address members => by
    have hmembers := prints_list (level + 1) (prints_dumpAll (level + 2) members)
    exact prints_object level (by simp [PrintsField, prints_text, hmembers])
  | scalar kind name address => prints_object level (by simp [PrintsField, prints_text])
  | array kind size name address => prints_object level (by simp [PrintsField, prints_text])

theorem prints_dumpAll (level : Nat) :
    ∀ nodes : List Node, List.Forall₂ Prints (toValues nodes) (dumpAll level nodes)
  | [] => .nil
  | node :: nodes => .cons (prints_dump level node) (prints_dumpAll level nodes)

end

mutual

theorem ofValue?_toValue : ∀ node : Node, ofValue? node.toValue = some node
  | classDef name address members => by
    have hmembers := ofValues?_toValues members
    obtain ⟨hlt, hlist⟩ := listField?_fields "members" [("node", .text "class"),
      ("name", .text name), ("address", .text address), ("members", .list (toValues members))] rfl
    rw [toValue, Value.fields, ofValue?]
    simp [textField?, -List.map_cons, List.lookup_cons, hlist, hmembers]
  | scalar kind name address => by
    rw [toValue, Value.fields, ofValue?]
    simp [textField?, kindField?, -List.map_cons, List.lookup_cons, Kind.ofKeyword?_keyword]
  | array kind size name address => by
    rw [toValue, Value.fields, ofValue?]
    simp [textField?, kindField?, -List.map_cons, List.lookup_cons, Kind.ofKeyword?_keyword]

theorem ofValues?_toValues : ∀ nodes : List Node, ofValues? (toValues nodes) = some nodes
  | [] => by rw [toValues, ofValues?]
  | node :: nodes => by
    simp [toValues, ofValues?, ofValue?_toValue node, ofValues?_toValues nodes]

end

theorem readTree?_of_writes {nodes : List Node} {text : String}
    (h : (Value.fields [("nodes", .list (toValues nodes))]).Writes text.toList) :
    readTree? text = some nodes := by
  obtain ⟨hlt, hlist⟩ :=
    listField?_fields "nodes" [("nodes", .list (toValues nodes))] rfl
  rw [readTree?, read?_eq_some_iff.mpr h, Value.fields]
  simp [-List.map_cons, hlist, ofValues?_toValues]

theorem prints_dumpTree (nodes : List Node) :
    Prints (.fields [("nodes", .list (toValues nodes))]) (dumpTree nodes) := by
  have hnodes := prints_list 1 (prints_dumpAll 2 nodes)
  exact prints_object 0 (by simp [PrintsField, hnodes])

/-- The text of a dump is valid, with or without the end of its line, and no other tree has it. -/
theorem dumpTree_determines_tree (nodes : List Node) :
    (∃ v : Value, v.Writes (dumpTree nodes).toList) ∧
      readTree? (dumpTree nodes) = some nodes ∧
      readTree? (dumpTree nodes ++ "\n") = some nodes ∧
      ∀ others : List Node, dumpTree others = dumpTree nodes ↔ others = nodes := by
  have hread (nodes : List Node) := readTree?_of_writes (prints_dumpTree nodes).writes
  refine ⟨⟨_, (prints_dumpTree nodes).writes⟩, hread nodes, ?_, ?_⟩
  · exact readTree?_of_writes ((prints_dumpTree nodes).writes_append (by simp [Cursor.isSpace]))
  · intro others
    refine ⟨fun heq => ?_, congrArg dumpTree⟩
    have hothers := hread others
    rw [heq, hread nodes] at hothers
    exact (Option.some.inj hothers).symm

end Node
end Accessors
