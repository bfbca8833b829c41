import Accessors.Proofs.Spelling

/-!
The lines of a schema and the visits of its tree. A walk makes one visit for each line, in the same
order: what a line declares is visited where the line stands, inside the class that is open there, and
a closing line leaves that class.
-/

set_option autoImplicit false

namespace Accessors

namespace Node

/-- The visits of a walk, as a visitor writes them down that refuses none. -/
def recorded (nodes : List Node) : List Visit :=
  ((walkAll (fun v => modify (· ++ [v])) nodes : StateM (List Visit) Unit).run []).2

theorem forM_record (vs start : List Visit) :
    ((forM vs fun v => modify (· ++ [v]) : StateM (List Visit) Unit).run start).2 = start ++ vs := by
  induction vs generalizing start with
  | nil => exact (List.append_nil start).symm
  | cons v vs ih =>
    rw [List.forM_cons]
    exact (ih (start ++ [v])).trans (by rw [List.append_assoc, List.singleton_append])

theorem recorded_eq_visitsAll (nodes : List Node) : recorded nodes = visitsAll nodes := by
  rw [recorded, walkAll_eq_forM, forM_record, List.nil_append]

mutual

/-- The number of classes in a tree. -/
def classes : Node → Nat
  | classDef _ _ members => 1 + classesAll members
  | scalar .. => 0
  | array .. => 0

def classesAll : List Node → Nat
  | [] => 0
  | node :: rest => node.classes + classesAll rest

end

end Node

namespace Visit

def isLeave : Visit → Bool
  | leave .. => true
  | _ => false

/-- The classes that have been entered and not left, the innermost first. -/
def openAfter (opened : List Node) : Visit → List Node
  | enter name address members => .classDef name address members :: opened
  | leave .. => opened.tail
  | scalar .. => opened
  | array .. => opened

end Visit

namespace Node

theorem total_eq_countP (nodes : List Node) :
    total nodes = (visitsAll nodes).countP (!·.isLeave) := by
  induction nodes using forest_induction with
  | nil => rfl
  | classDef name address members rest ihMembers ihRest =>
    simp [total, size, Visit.isLeave, ihMembers, ihRest]
    omega
  | scalar kind name address rest ih => simp [total, size, Visit.isLeave, ih, Nat.add_comm]
  | array kind size name address rest ih =>
    simp [total, Node.size, Visit.isLeave, ih, Nat.add_comm]

theorem classesAll_eq_countP (nodes : List Node) :
    classesAll nodes = (visitsAll nodes).countP Visit.isLeave := by
  induction nodes using forest_induction with
  | nil => rfl
  | classDef name address members rest ihMembers ihRest =>
    simp [classesAll, classes, Visit.isLeave, List.countP_cons, ihMembers, ihRest]
    omega
  | scalar kind name address rest ih => simp [classesAll, classes, Visit.isLeave, ih]
  | array kind size name address rest ih => simp [classesAll, classes, Visit.isLeave, ih]

end Node

theorem countP_eq_of_forall₂ {α β : Type} {R : α → β → Prop} {p : α → Bool} {q : β → Bool}
    {xs : List α} {ys : List β} (h : List.Forall₂ R xs ys) (hpq : ∀ x y, R x y → p x = q y) :
    xs.countP p = ys.countP q := by
  induction h with
  | nil => rfl
  | cons hxy _ ih => rw [List.countP_cons, List.countP_cons, ih, hpq _ _ hxy]

def Line.startsWithBrace (line : Line) : Bool := line.text.toList.head? == some '}'

theorem Line.startsWithBrace_of_mem_ofText {source : String} {line : Line}
    (h : line ∈ ofText source) : line.startsWithBrace = line.closes := by
  rw [Bool.eq_iff_iff, startsWithBrace, beq_iff_eq]
  exact (closes_iff_of_mem_ofText h).symm

namespace Schema

/-- The address of the innermost open class. -/
def openAddress : List Node → String
  | [] => Address.root
  | c :: _ => c.address

/-- What a line makes a walk do, with the classes that are open there. A declaration is visited in the
innermost of them. -/
inductive Corresponds : List Node × Visit → Line → Prop where
  | leave {name address : String} {members outer : List Node} {line : Line} :
      line.startsWithBrace = true →
      Corresponds (.classDef name address members :: outer, .leave name address members) line
  | enter {opened members : List Node} {name token : String} {line : Line} :
      line.startsWithBrace = false → line.tokens.head? = some "class" →
      Declaration.ofLine line = .ok (.openClass name token) →
      Corresponds (opened, .enter name (Address.extend (openAddress opened) token) members) line
  | scalar {opened : List Node} {kind : Kind} {name token : String} {more : List String}
      {line : Line} :
      line.startsWithBrace = false → line.tokens = kind.keyword :: token :: more →
      Declaration.endsInBracket token = false →
      Declaration.ofLine line = .ok (.scalar kind name token) →
      Corresponds (opened, .scalar kind name (Address.extend (openAddress opened) token)) line
  | array {opened : List Node} {kind : Kind} {size name token : String} {line : Line} :
      line.startsWithBrace = false → line.tokens.head? ≠ some "class" →
      (∀ kind word more, line.tokens = Kind.keyword kind :: word :: more →
        Declaration.endsInBracket word = true) →
      Declaration.ofLine line = .ok (.array kind size name token) →
      Corresponds (opened, .array kind size name (Address.extend (openAddress opened) token)) line

theorem Corresponds.isLeave {found : List Node × Visit} {line : Line} (h : Corresponds found line) :
    found.2.isLeave = line.startsWithBrace := by
  cases h with
  | leave hbrace => exact hbrace.symm
  | enter hbrace => exact hbrace.symm
  | scalar hbrace => exact hbrace.symm
  | array hbrace => exact hbrace.symm

section Lines
variable {line : Line} {opened : List Node} {name token : String}

theorem corresponds_enter (hbrace : line.startsWithBrace = line.closes)
    (hline : Declaration.ofLine line = .ok (.openClass name token)) (members : List Node) :
    Corresponds (opened, .enter name (Address.extend (openAddress opened) token) members) line := by
  rw [Declaration.not_closes_of_ofLine hline] at hbrace
  obtain ⟨keyword, token', more, htokens, -, rfl, -⟩ := Declaration.spelledBy_of_ofLine hline
  exact .enter hbrace (by rw [htokens, List.head?_cons]) hline

theorem corresponds_scalar (hbrace : line.startsWithBrace = line.closes) {kind : Kind}
    (hline : Declaration.ofLine line = .ok (.scalar kind name token)) :
    Corresponds (opened, .scalar kind name (Address.extend (openAddress opened) token)) line := by
  rw [Declaration.not_closes_of_ofLine hline] at hbrace
  obtain ⟨keyword, token', more, htokens, rfl, rfl, hplain, -⟩ :=
    Declaration.spelledBy_of_ofLine hline
  exact .scalar hbrace htokens hplain hline

/-- A line that declares an array is none of the others. -/
theorem corresponds_array (hbrace : line.startsWithBrace = line.closes) {kind : Kind} {size : String}
    (hline : Declaration.ofLine line = .ok (.array kind size name token)) :
    Corresponds (opened, .array kind size name (Address.extend (openAddress opened) token)) line := by
  rw [Declaration.not_closes_of_ofLine hline] at hbrace
  obtain ⟨keyword, token', more, htokens, rfl, hforms⟩ := Declaration.spelledBy_of_ofLine hline
  refine .array hbrace ?_ ?_ hline
  · rw [htokens, List.head?_cons]
    rcases hforms with ⟨rfl, -⟩ | ⟨hsized, -⟩
    · simpa using kind.keyword_ne_class
    · simpa using hsized.ne_class
  · intro kind' word more' htokens'
    obtain ⟨rfl, rfl, -⟩ : keyword = kind'.keyword ∧ token = word ∧ more = more' := by
      simpa [htokens] using htokens'
    rcases hforms with ⟨-, front, hsized, -⟩ | ⟨hsized, -⟩
    · exact hsized.endsInBracket
    · exact absurd rfl (hsized.ne_keyword kind')

end Lines

/-- The lines of a forest correspond to its visits, and these leave open what was open before. -/
theorem Spells.corresponds {address : String} {lines : List Line} {nodes : List Node}
    (h : Spells address lines nodes)
    (hlines : ∀ line ∈ lines, line.startsWithBrace = line.closes) {opened : List Node}
    (hopened : openAddress opened = address) :
    (Node.visitsAll nodes).foldl Visit.openAfter opened = opened ∧
      List.Forall₂ Corresponds (contexts Visit.openAfter opened (Node.visitsAll nodes)) lines := by
  induction h generalizing opened with
  | nil => exact ⟨rfl, .nil⟩
  | @classDef address name token line close inner lines members nodes hline hinner hclose hrest
      ihInner ihRest =>
    subst hopened
    rw [List.forall_mem_cons, List.forall_mem_append, List.forall_mem_cons] at hlines
    obtain ⟨hbrace, hinner', hbrace', hrest'⟩ := hlines
    -- The members are visited with the class on top of what was open, the rest without it.
    have hclass : openAddress (.classDef name (Address.extend (openAddress opened) token) members ::
        opened) = Address.extend (openAddress opened) token := rfl
    obtain ⟨hfold, hcorresponds⟩ := ihInner hinner' hclass
    obtain ⟨hfold', hcorresponds'⟩ := ihRest hrest' rfl
    rw [Node.visitsAll_classDef]
    constructor
    · rw [List.foldl_cons, List.foldl_append, Visit.openAfter, hfold, List.foldl_cons,
        Visit.openAfter, List.tail_cons, hfold']
    · rw [contexts, contexts_append, Visit.openAfter, hfold, contexts, Visit.openAfter,
        List.tail_cons]
      refine .cons (corresponds_enter hbrace hline members) ?_
      exact List.rel_append hcorresponds (.cons (.leave (hbrace'.trans hclose)) hcorresponds')
  | @scalar address name token kind line lines nodes hline hrest ih =>
    subst hopened
    obtain ⟨hbrace, hrest'⟩ := List.forall_mem_cons.mp hlines
    obtain ⟨hfold, hcorresponds⟩ := ih hrest' rfl
    exact ⟨hfold, .cons (corresponds_scalar hbrace hline) hcorresponds⟩
  | @array address size name token kind line lines nodes hline hrest ih =>
    subst hopened
    obtain ⟨hbrace, hrest'⟩ := List.forall_mem_cons.mp hlines
    obtain ⟨hfold, hcorresponds⟩ := ih hrest' rfl
    exact ⟨hfold, .cons (corresponds_array hbrace hline) hcorresponds⟩

/-- Every line of a schema is visited once and in its place, so the nodes of the tree are the lines that
close nothing, and its classes are the others. -/
theorem lines_correspond_to_visits {source : String} {nodes : List Node}
    (h : (parse source).outcome = .ok nodes) :
    (Node.recorded nodes).length = (Line.ofText source).length ∧
      List.Forall₂ Corresponds (contexts Visit.openAfter [] (Node.recorded nodes))
        (Line.ofText source) ∧
      Node.total nodes = (Line.ofText source).countP (!·.startsWithBrace) ∧
      Node.classesAll nodes = (Line.ofText source).countP Line.startsWithBrace := by
  have hbraces := fun line hline => @Line.startsWithBrace_of_mem_ofText source line hline
  have htop : openAddress [] = Address.root := rfl
  have hcorresponds := ((spells_of_parse h).corresponds hbraces htop).2
  have hvisits := map_snd_contexts Visit.openAfter [] (Node.visitsAll nodes)
  rw [Node.recorded_eq_visitsAll]
  refine ⟨?_, hcorresponds, ?_, ?_⟩
  · rw [← hcorresponds.length_eq, contexts_length]
  · rw [Node.total_eq_countP, ← hvisits, List.countP_map]
    exact countP_eq_of_forall₂ hcorresponds fun found line hfound => by simp [hfound.isLeave]
  · rw [Node.classesAll_eq_countP, ← hvisits, List.countP_map]
    exact countP_eq_of_forall₂ hcorresponds fun found line hfound => hfound.isLeave

/-- An array of each form, and a class that is closed inside another. -/
theorem lines_correspond_to_visits_nested :
    let nodes : List Node :=
      [.classDef "a" "/a" [.array .int "2" "b" "/a/b[2]", .classDef "c" "/a/c" [],
        .array .float "3" "d" "/a/d"], .scalar .bool "e" "/e"]
    (parse "class a\nint b[2]\nclass c\n\x7d\nfloat[3] d\n\x7d\nbool e").outcome = .ok nodes ∧
      List.Forall₂ Corresponds (contexts Visit.openAfter [] (Node.recorded nodes))
        (Line.ofText "class a\nint b[2]\nclass c\n\x7d\nfloat[3] d\n\x7d\nbool e") ∧
      Node.total nodes = 5 ∧ Node.classesAll nodes = 2 := by
  intro nodes
  have hparse : (parse "class a\nint b[2]\nclass c\n\x7d\nfloat[3] d\n\x7d\nbool e").outcome =
      .ok nodes := by
    rw [parse_outcome]
    rfl
  obtain ⟨-, hcorresponds, htotal, hclasses⟩ := lines_correspond_to_visits hparse
  exact ⟨hparse, hcorresponds, htotal, hclasses⟩

end Schema
end Accessors
