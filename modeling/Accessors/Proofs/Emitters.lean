import Accessors.Cpp.Declarations
import Accessors.Cpp.Definitions
import Accessors.Proofs.Segments
import Accessors.Proofs.Trace

/-!
What the two emitters do on a visit. Whether a visit is refused depends on the visit alone. What is
written depends also on a context, which is a level for declarations and a scope for definitions;
the context changes with every visit, whatever was written before.
-/

set_option autoImplicit false

namespace Accessors

/-- Pairs every item of a list with the context that it is met in. -/
def contexts {κ α : Type} (after : κ → α → κ) : κ → List α → List (κ × α)
  | _, [] => []
  | k, x :: xs => (k, x) :: contexts after (after k x) xs

section Contexts
variable {κ α : Type} (after : κ → α → κ)

theorem contexts_append (k : κ) (xs ys : List α) :
    contexts after k (xs ++ ys) =
      contexts after k xs ++ contexts after (xs.foldl after k) ys := by
  induction xs generalizing k with
  | nil => rfl
  | cons x xs ih => simp [contexts, ih]

theorem map_snd_contexts (k : κ) (xs : List α) : (contexts after k xs).map Prod.snd = xs := by
  induction xs generalizing k with
  | nil => rfl
  | cons x xs ih => simp [contexts, ih]

theorem contexts_length (k : κ) (xs : List α) :
    (contexts after k xs).length = xs.length := by
  have h := congrArg List.length (map_snd_contexts after k xs)
  rwa [List.length_map] at h

theorem mem_of_mem_contexts {k : κ} {xs : List α} {p : κ × α} (h : p ∈ contexts after k xs) :
    p.2 ∈ xs := by
  rw [← map_snd_contexts after k xs]
  exact List.mem_map_of_mem h

/-- What every step keeps holds of every context. -/
theorem forall_mem_contexts {P : κ → Prop} {k : κ} {xs : List α} (hk : P k)
    (hstep : ∀ x ∈ xs, ∀ k, P k → P (after k x)) : ∀ p ∈ contexts after k xs, P p.1 := by
  induction xs generalizing k with
  | nil => exact nofun
  | cons x xs ih =>
    obtain ⟨hx, hxs⟩ := List.forall_mem_cons.mp hstep
    exact List.forall_mem_cons.mpr ⟨hk, ih (hx k hk) hxs⟩

end Contexts

/-- The fault of a kind without a binding. -/
def Settings.fault? (settings : Settings) (kind : Kind) : Option Error :=
  match settings.bindings kind with
  | some _ => none
  | none => some (.unbound kind)

theorem Settings.fault?_eq_none_iff {settings : Settings} {kind : Kind} :
    settings.fault? kind = none ↔ ∃ binding, settings.bindings kind = some binding := by
  unfold fault?
  split <;> simp_all

/-- The fault of an address with a broken piece. -/
def Address.fault? (address : String) : Option Error := (broken? address).map .invalidToken

theorem Address.segments_of_fault {address : String} {e : Error} (h : fault? address = some e) :
    segments address = .error e := by
  obtain ⟨piece, hpiece, rfl⟩ := Option.map_eq_some_iff.mp h
  rw [segments_eq, hpiece]

theorem Address.segments_of_no_fault {address : String} (h : fault? address = none) :
    segments address = .ok ((pieces address).filterMap Segment.ofPiece?) := by
  rw [segments_eq, Option.map_eq_none_iff.mp h]

namespace Cpp

/-- A line of generated code before it is indented. -/
inductive Row where
  | blank
  | code (level : Nat) (content : String)

namespace Row

def text (unit : String) : Row → String
  | blank => "\n"
  | code level content => Writer.copies unit level ++ content ++ "\n"

def textAll (unit : String) (rows : List Row) : String := String.join (rows.map (text unit))

@[simp] theorem textAll_nil (unit : String) : textAll unit [] = "" := rfl

@[simp] theorem textAll_append (unit : String) (xs ys : List Row) :
    textAll unit (xs ++ ys) = textAll unit xs ++ textAll unit ys := by
  simp [textAll, String.join_append]

@[simp] theorem textAll_cons (unit : String) (row : Row) (rows : List Row) :
    textAll unit (row :: rows) = row.text unit ++ textAll unit rows := by
  simp [textAll]

end Row

namespace Declarations

def fault (settings : Settings) : Visit → Option Error
  | .enter .. => none
  | .leave .. => none
  | .scalar kind _ _ => settings.fault? kind
  | .array kind _ _ _ => settings.fault? kind

def next (settings : Settings) (s : Declarations) : Visit → Declarations
  | .enter name _ _ => s.enterClass name
  | .leave name _ _ => s.leaveClass name
  | .scalar kind name _ =>
    match settings.bindings kind with
    | some binding => s.getter binding.native name
    | none => s
  | .array kind _ name _ =>
    match settings.bindings kind with
    | some binding => s.getter (binding.native ++ "*") name
    | none => s

theorem follows (settings : Settings) :
    Emit.Follows (visit settings) (fault settings) (next settings) := by
  intro v s
  cases v with
  | enter name address members => rfl
  | leave name address members => rfl
  | scalar kind name address =>
    simp only [visit, Emit.ofExcept_bind, Settings.binding, fault, Settings.fault?, next]
    cases settings.bindings kind <;> rfl
  | array kind size name address =>
    simp only [visit, Emit.ofExcept_bind, Settings.binding, fault, Settings.fault?, next]
    cases settings.bindings kind <;> rfl

def levelAfter (level : Nat) : Visit → Nat
  | .enter .. => level + 1
  | .leave .. => level - 1
  | .scalar .. => level
  | .array .. => level

def getterRow (level : Nat) (type name : String) : Row :=
  .code level (type ++ " " ++ accessorName name ++ "() const;")

/-- What is written on a visit at some level. -/
def rows (settings : Settings) (level : Nat) : Visit → List Row
  | .enter name _ _ =>
    let type := typeName name
    [.blank,
      .code level ("class " ++ type ++ " \x7b"),
      .code level "public:",
      .code (level + 1) (type ++ "() = default;"),
      .code (level + 1) (type ++ "(const " ++ type ++ "& other) = default;"),
      .code (level + 1) (type ++ "(const " ++ handleType ++ " &root);"),
      .blank]
  | .leave name _ _ =>
    [.code (level - 1) "private:",
      .code (level - 1 + 1) (handleType ++ " " ++ handleField ++ ";"),
      .code (level - 1) "\x7d;",
      getterRow (level - 1) (typeName name) name]
  | .scalar kind name _ =>
    (settings.bindings kind).toList.map fun binding => getterRow level binding.native name
  | .array kind _ name _ =>
    (settings.bindings kind).toList.map fun binding =>
      getterRow level (binding.native ++ "*") name

theorem next_out (settings : Settings) (s : Declarations) (v : Visit) :
    (next settings s v).out = ⟨s.out.unit, levelAfter s.out.level v,
      s.out.text ++ Row.textAll s.out.unit (rows settings s.out.level v)⟩ := by
  cases v with
  | enter name address members =>
    simp [next, enterClass, rows, levelAfter, Row.text, Writer.line, Writer.blank, Writer.indent,
      String.append_assoc]
  | leave name address members =>
    simp [next, leaveClass, rows, levelAfter, getterRow, Row.text, Writer.line, Writer.dedent,
      Writer.indent, String.append_assoc]
  | scalar kind name address =>
    cases h : settings.bindings kind <;>
      simp [next, h, rows, levelAfter, getter, getterRow, Row.text, Writer.line,
        String.append_assoc]
  | array kind size name address =>
    cases h : settings.bindings kind <;>
      simp [next, h, rows, levelAfter, getter, getterRow, Row.text, Writer.line,
        String.append_assoc]

def rowsAll (settings : Settings) (level : Nat) (vs : List Visit) : List Row :=
  (contexts levelAfter level vs).flatMap fun (level, v) => rows settings level v

theorem foldl_next_out (settings : Settings) (s : Declarations) (vs : List Visit) :
    (vs.foldl (next settings) s).out = ⟨s.out.unit, vs.foldl levelAfter s.out.level,
      s.out.text ++ Row.textAll s.out.unit (rowsAll settings s.out.level vs)⟩ := by
  induction vs generalizing s with
  | nil => simp [rowsAll, contexts]
  | cons v vs ih =>
    rw [List.foldl_cons, ih, next_out]
    simp [rowsAll, contexts, String.append_assoc]

end Declarations

theorem declarations_outcome (settings : Settings) (nodes : List Node) :
    (declarations settings nodes).outcome =
      match (Node.visitsAll nodes).findSome? (Declarations.fault settings) with
      | some e => .error e
      | none =>
        .ok (Row.textAll settings.indent
          (Declarations.rowsAll settings 1 (Node.visitsAll nodes))) := by
  rw [declarations, (Declarations.follows settings).logged_outcome, Declarations.foldl_next_out]
  cases (Node.visitsAll nodes).findSome? (Declarations.fault settings) <;>
    simp [Declarations.new, Writer.new]

theorem no_fault_of_declarations {settings : Settings} {text : String} {nodes : List Node}
    (h : (declarations settings nodes).outcome = .ok text) :
    (∀ v ∈ Node.visitsAll nodes, Declarations.fault settings v = none) ∧
      text = Row.textAll settings.indent
        (Declarations.rowsAll settings 1 (Node.visitsAll nodes)) := by
  rw [declarations_outcome] at h
  split at h
  · exact nomatch h
  · rename_i hfault
    exact ⟨List.findSome?_eq_none_iff.mp hfault, (Except.ok.inj h).symm⟩

namespace Definitions

def fault (settings : Settings) : Visit → Option Error
  | .enter .. => none
  | .leave .. => none
  | .scalar kind _ address => (settings.fault? kind).or (Address.fault? address)
  | .array kind _ _ _ => settings.fault? kind

/-- A scalar that is not refused has a binding and a path. -/
theorem exists_of_scalar {settings : Settings} {kind : Kind} {name address : String}
    (h : fault settings (.scalar kind name address) = none) :
    ∃ binding path, settings.bindings kind = some binding ∧ subscripts address = .ok path := by
  rw [fault, Option.or_eq_none_iff] at h
  obtain ⟨binding, hbinding⟩ := Settings.fault?_eq_none_iff.mp h.1
  exact ⟨binding, _, hbinding, by rw [subscripts_eq_map, Address.segments_of_no_fault h.2]; rfl⟩

def body (binding : Binding) (path : String) : String :=
  "(*" ++ handleField ++ ")" ++ path ++ "." ++ binding.extract ++ "()"

def next (settings : Settings) (s : Definitions) : Visit → Definitions
  | .enter name _ _ => s.enterClass name
  | .leave name _ _ => s.leaveClass name
  | .scalar kind name address =>
    match settings.bindings kind, subscripts address with
    | some binding, .ok path => s.getter binding.native name (body binding path)
    | _, _ => s
  | .array _ _ name _ => s.report (.bodyless (s.qualified ++ "::" ++ accessorName name))

theorem follows (settings : Settings) :
    Emit.Follows (visit settings) (fault settings) (next settings) := by
  intro v s
  cases v with
  | enter name address members => rfl
  | leave name address members => rfl
  | scalar kind name address =>
    simp only [visit, Emit.ofExcept_bind, Settings.binding, fault, Settings.fault?, next]
    cases settings.bindings kind with
    | none => rfl
    | some binding =>
      cases hf : Address.fault? address with
      | some e => simp [subscripts_eq_map, Address.segments_of_fault hf]
      | none =>
        simp [subscripts_eq_map, Address.segments_of_no_fault hf]
        rfl
  | array kind size name address =>
    simp only [visit, Emit.ofExcept_bind, Settings.binding, fault, Settings.fault?, next]
    cases settings.bindings kind <;> rfl

def scopeAfter (scope : List String) : Visit → List String
  | .enter name _ _ => scope ++ [typeName name]
  | .leave .. => scope.dropLast
  | .scalar .. => scope
  | .array .. => scope

/-- The heading of a getter, its body and an empty line after it. -/
def getterRows (level : Nat) (scope : List String) (type name value : String) : List Row :=
  [.code level (type ++ " " ++ String.intercalate "::" scope ++ "::" ++ accessorName name ++
      "() const \x7b"),
    .code (level + 1) ("return " ++ value ++ ";"),
    .code level "\x7d",
    .blank]

theorem textAll_getterRows (unit : String) (scope : List String) (type name value : String) :
    Row.textAll unit (getterRows 0 scope type name value) =
      type ++ " " ++ (String.intercalate "::" scope ++ "::" ++ accessorName name) ++
        "() const \x7b\n" ++ unit ++ "return " ++ value ++ ";\n\x7d\n\n" := by
  rw [← String.toList_inj]
  simp [getterRows, Row.text, Writer.copies]

/-- What is written on a visit in some scope. The level is the same on every visit. -/
def rows (settings : Settings) (level : Nat) (scope : List String) : Visit → List Row
  | .enter name _ _ =>
    [.code level (String.intercalate "::" (scope ++ [typeName name]) ++ "::" ++ typeName name ++
        "(const " ++ handleType ++ " &root) : " ++ handleField ++ "(root) \x7b"),
      .blank,
      .code level "\x7d",
      .blank]
  | .leave name _ _ =>
    getterRows level scope.dropLast
      (String.intercalate "::" scope.dropLast ++ "::" ++ typeName name) name
      (typeName name ++ "(" ++ handleField ++ ")")
  | .scalar kind name address =>
    match settings.bindings kind, subscripts address with
    | some binding, .ok path => getterRows level scope binding.native name (body binding path)
    | _, _ => []
  | .array .. => []

theorem getter_out (s : Definitions) (type name value : String) :
    (s.getter type name value).out = ⟨s.out.unit, s.out.level,
      s.out.text ++ Row.textAll s.out.unit (getterRows s.out.level s.scope type name value)⟩ := by
  simp [getter, getterRows, qualified, Row.text, Writer.line, Writer.blank, Writer.indent,
    Writer.dedent, String.append_assoc]

theorem next_scope (settings : Settings) (s : Definitions) (v : Visit) :
    (next settings s v).scope = scopeAfter s.scope v := by
  cases v with
  | enter name address members => rfl
  | leave name address members => rfl
  | scalar kind name address =>
    simp only [next]
    split <;> rfl
  | array kind size name address => rfl

theorem next_out (settings : Settings) (s : Definitions) (v : Visit) :
    (next settings s v).out = ⟨s.out.unit, s.out.level,
      s.out.text ++ Row.textAll s.out.unit (rows settings s.out.level s.scope v)⟩ := by
  cases v with
  | enter name address members =>
    simp [next, enterClass, rows, qualified, Row.text, Writer.line, Writer.blank,
      String.append_assoc, -String.reduceAppend]
  | leave name address members =>
    exact getter_out { s with scope := s.scope.dropLast } _ name _
  | scalar kind name address =>
    cases hb : settings.bindings kind <;> cases hp : subscripts address <;>
      simp [next, rows, hb, hp, getter_out]
  | array kind size name address => simp [next, report, rows]

def rowsAll (settings : Settings) (level : Nat) (scope : List String) (vs : List Visit) :
    List Row :=
  (contexts scopeAfter scope vs).flatMap fun (scope, v) => rows settings level scope v

theorem foldl_next_scope (settings : Settings) (s : Definitions) (vs : List Visit) :
    (vs.foldl (next settings) s).scope = vs.foldl scopeAfter s.scope := by
  induction vs generalizing s with
  | nil => rfl
  | cons v vs ih => rw [List.foldl_cons, ih, next_scope, List.foldl_cons]

theorem foldl_next_out (settings : Settings) (s : Definitions) (vs : List Visit) :
    (vs.foldl (next settings) s).out = ⟨s.out.unit, s.out.level,
      s.out.text ++ Row.textAll s.out.unit (rowsAll settings s.out.level s.scope vs)⟩ := by
  induction vs generalizing s with
  | nil => simp [rowsAll, contexts]
  | cons v vs ih =>
    rw [List.foldl_cons, ih, next_out, next_scope]
    simp [rowsAll, contexts, String.append_assoc]

end Definitions

theorem definitions_outcome (settings : Settings) (className : String) (nodes : List Node) :
    (definitions settings className nodes).outcome =
      match (Node.visitsAll nodes).findSome? (Definitions.fault settings) with
      | some e => .error e
      | none =>
        .ok (Row.textAll settings.indent
          (Definitions.rowsAll settings 0 [className] (Node.visitsAll nodes))) := by
  rw [definitions, (Definitions.follows settings).logged_outcome, Definitions.foldl_next_out]
  cases (Node.visitsAll nodes).findSome? (Definitions.fault settings) <;>
    simp [Definitions.new, Writer.new]

theorem no_fault_of_definitions {settings : Settings} {className text : String}
    {nodes : List Node} (h : (definitions settings className nodes).outcome = .ok text) :
    (∀ v ∈ Node.visitsAll nodes, Definitions.fault settings v = none) ∧
      text = Row.textAll settings.indent
        (Definitions.rowsAll settings 0 [className] (Node.visitsAll nodes)) := by
  rw [definitions_outcome] at h
  split at h
  · exact nomatch h
  · rename_i hfault
    exact ⟨List.findSome?_eq_none_iff.mp hfault, (Except.ok.inj h).symm⟩

end Cpp
end Accessors
