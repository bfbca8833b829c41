import Accessors.Proofs.Concatenation

/-!
The place of a node in a schema. Whatever node is found at a line, the lines that follow put the same
forest around it, and the lines before it say how far down in that forest it stands.
-/

set_option autoImplicit false

namespace Accessors

/-- A forest with one node left out: what stands before and after it, and the classes around it. -/
inductive Around where
  | top (before after : List Node)
  | inside (outer : Around) (name address : String) (before after : List Node)

namespace Around

/-- The forest with a node in the open place. -/
def plug : Around → Node → List Node
  | top before after, node => before ++ node :: after
  | inside outer name address before after, node =>
    outer.plug (.classDef name address (before ++ node :: after))

/-- How many nodes come before the open place, in the order of the schema. -/
def position : Around → Nat
  | top before _ => Node.total before
  | inside outer _ _ before _ => outer.position + 1 + Node.total before

end Around

theorem Node.total_append (xs ys : List Node) : total (xs ++ ys) = total xs + total ys := by
  induction xs with
  | nil => simp [total]
  | cons node xs ih => rw [List.cons_append, total, ih, total, Nat.add_assoc]

namespace Schema.Stack

/-- The number of nodes that have been found, open classes included. -/
def size (s : Stack) : Nat :=
  s.classes.foldr (fun c found => found + 1 + Node.total c.members) (Node.total s.nodes)

theorem size_append (s : Stack) (node : Node) : (s.append node).size = s.size + node.size := by
  obtain ⟨nodes, _ | ⟨c, outer⟩⟩ := s
  · simp [append, size, Node.total_append, Node.total]
  · simp only [append, size, List.foldr_cons, Node.total_append, Node.total]
    omega

/-- Every line finds one more node, but for those that close a class. -/
theorem size_step {s t : Stack} {line : Line} (h : s.step line = .ok t) :
    t.size = s.size + if line.closes then 0 else 1 := by
  cases hcloses : line.closes with
  | true =>
    obtain ⟨nodes, _ | ⟨c, outer⟩⟩ := s
    · obtain ⟨declaration, hline, -⟩ := map_eq_ok_iff.mp h
      exact nomatch (Declaration.not_closes_of_ofLine hline).symm.trans hcloses
    · rw [step_of_closes hcloses] at h
      obtain rfl := Except.ok.inj h
      rw [size_append]
      simp only [size, OpenClass.closed, Node.size, List.foldr_cons, if_true]
      omega
  | false =>
    rw [step_of_not_closing (by simp [hcloses])] at h
    obtain ⟨declaration, -, rfl⟩ := map_eq_ok_iff.mp h
    cases declaration with
    | openClass name token =>
      simp only [declare, size, List.foldr_cons, Node.total, Bool.false_eq_true, if_false]
    | scalar kind name token => exact size_append s _
    | array kind size name token => exact size_append s _

theorem size_of_foldlM {s t : Stack} {lines : List Line} (h : lines.foldlM step s = .ok t) :
    t.size = s.size + lines.countP (!·.closes) := by
  induction lines generalizing s with
  | nil =>
    obtain rfl := Except.ok.inj h
    rfl
  | cons line lines ih =>
    rw [List.foldlM_cons] at h
    obtain ⟨u, hstep, hrest⟩ := bind_eq_ok_iff.mp h
    rw [ih hrest, size_step hstep, List.countP_cons]
    cases line.closes with
    | true => rfl
    | false =>
      simp only [Bool.not_false, Bool.false_eq_true, if_true, if_false]
      omega

/-- How reading goes on does not depend on the last node that was found: the node stays where it is
put, and all the rest is the same whatever the node. -/
theorem exists_around (nodes : List Node) (classes : List OpenClass) (lines : List Line) :
    ∃ r : Except Error Around,
      (∀ node, (append ⟨nodes, classes⟩ node).run lines = (·.plug node) <$> r) ∧
        ∀ around, r = .ok around → around.position = (⟨nodes, classes⟩ : Stack).size := by
  -- The members that follow the node end its class. The class is then the last node of the class
  -- around it, so the induction is on the classes that are open.
  induction classes generalizing lines with
  | nil =>
    refine ⟨(Around.top nodes ·) <$> start.run lines, fun node => ?_, fun around hr => ?_⟩
    · rw [append, run_top]
      cases start.run lines <;> simp [Around.plug]
    · obtain ⟨after, -, rfl⟩ := map_eq_ok_iff.mp hr
      rfl
  | cons c outer ih =>
    have hrun : ∀ node, (append ⟨nodes, c :: outer⟩ node).run lines =
        (members (scope ⟨nodes, c :: outer⟩) lines).outcome >>= fun found =>
          run (append ⟨nodes, outer⟩
            (.classDef c.name c.address (c.members ++ node :: found.1))) found.2.val := by
      intro node
      rw [run_eq_members, scope_append]
      simp only [resume_append]
      rfl
    cases hmembers : (members (scope ⟨nodes, c :: outer⟩) lines).outcome with
    | error e =>
      refine ⟨.error e, fun node => ?_, fun around hr => ?_⟩
      · rw [hrun, hmembers]
        rfl
      · cases hr
    | ok found =>
      obtain ⟨r, hr, hposition⟩ := ih found.2.val
      refine ⟨(Around.inside · c.name c.address c.members found.1) <$> r, fun node => ?_,
        fun around haround => ?_⟩
      · rw [hrun, hmembers, ok_bind, hr]
        cases r <;> rfl
      · obtain ⟨inner, hinner, rfl⟩ := map_eq_ok_iff.mp haround
        rw [Around.position, hposition inner hinner]
        rfl

end Schema.Stack

end Accessors
