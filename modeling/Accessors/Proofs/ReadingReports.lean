import Accessors.Proofs.Agreement

/-!
What reading a schema reports. Each class is reported on its closing line, with its name and the number
of its members. A tree that is read is reported at the end, after all of its classes, and these come in
post-order. Where there is no tree, the report ends before the fault.
-/

set_option autoImplicit false

namespace Accessors

namespace Node

def isClass : Node → Bool
  | classDef .. => true
  | _ => false

/-- What is reported of a node: classes alone are reported. -/
def closing? : Node → Option Event
  | classDef name _ members => some (.closedClass name members.length)
  | _ => none

/-- The classes of a forest, members before their class. -/
def classNodes (nodes : List Node) : List Node := (postorderAll nodes).filter isClass

theorem postorderAll_append (xs ys : List Node) :
    postorderAll (xs ++ ys) = postorderAll xs ++ postorderAll ys := by
  induction xs with
  | nil => rfl
  | cons node xs ih => rw [List.cons_append, postorderAll, ih, postorderAll, List.append_assoc]

theorem classNodes_concat (nodes : List Node) (node : Node) :
    classNodes (nodes ++ [node]) = classNodes nodes ++ classNodes [node] := by
  rw [classNodes, postorderAll_append, List.filter_append, classNodes, classNodes]

theorem classNodes_classDef (name address : String) (members : List Node) :
    classNodes [classDef name address members] =
      classNodes members ++ [classDef name address members] := by
  simp [classNodes, postorderAll, postorder, isClass]

theorem filterMap_closing?_classNodes (nodes : List Node) :
    (classNodes nodes).filterMap closing? = (postorderAll nodes).filterMap closing? := by
  rw [classNodes, List.filterMap_filter]
  apply List.filterMap_congr
  intro node _
  cases node <;> rfl

end Node

namespace Schema

namespace Stack

/-- The classes that are complete, in the order in which they were closed. -/
def complete (s : Stack) : List Node :=
  s.classes.foldr (fun c found => found ++ Node.classNodes c.members) (Node.classNodes s.nodes)

theorem complete_append (s : Stack) (node : Node) :
    (s.append node).complete = s.complete ++ Node.classNodes [node] := by
  obtain ⟨nodes, _ | ⟨c, outer⟩⟩ := s
  · exact Node.classNodes_concat nodes node
  · simp only [append, complete, List.foldr_cons, Node.classNodes_concat, List.append_assoc]

theorem complete_close (top : List Node) (c : OpenClass) (outer : List OpenClass) :
    (append ⟨top, outer⟩ c.closed).complete =
      (⟨top, c :: outer⟩ : Stack).complete ++ [c.closed] := by
  rw [complete_append, OpenClass.closed, Node.classNodes_classDef, ← List.append_assoc]
  rfl

theorem complete_declare (s : Stack) (line : Line) (declaration : Declaration) :
    (s.declare line declaration).complete = s.complete := by
  cases declaration with
  | openClass name token => exact List.append_nil _
  | scalar kind name token => exact (complete_append s _).trans (List.append_nil _)
  | array kind size name token => exact (complete_append s _).trans (List.append_nil _)

/-- Lines that are read without a fault, with the classes that they close: one on each closing line, in
the same order. -/
inductive Reads : Stack → List Line → List OpenClass → Stack → Prop where
  | nil (s : Stack) : Reads s [] [] s
  | close {s t : Stack} {c : OpenClass} {outer closed : List OpenClass} {line : Line}
      {lines : List Line} :
      s.classes = c :: outer → line.text.toList.head? = some '}' →
      Reads (append ⟨s.nodes, outer⟩ c.closed) lines closed t →
      Reads s (line :: lines) (c :: closed) t
  | declare {s t : Stack} {declaration : Declaration} {closed : List OpenClass} {line : Line}
      {lines : List Line} :
      (s.classes = [] ∨ line.text.toList.head? ≠ some '}') → Declares line (.ok declaration) →
      Reads (s.declare line declaration) lines closed t → Reads s (line :: lines) closed t

/-- How a run ends that has come to some line. -/
inductive Ends : Stack → List Line → Except Error (List Node) → Prop where
  | finished {s : Stack} : s.classes = [] → Ends s [] (.ok s.nodes)
  | unterminated {s : Stack} {c : OpenClass} {outer : List OpenClass} :
      s.classes = c :: outer → Ends s [] (.error (.unterminated c.line c.name))
  | failed {s : Stack} {line : Line} {lines : List Line} {e : Error} :
      Step s line (.error e) → Ends s (line :: lines) (.error e)

theorem ends_finish (s : Stack) : Ends s [] s.finish := by
  obtain ⟨nodes, _ | ⟨c, outer⟩⟩ := s
  · exact .finished rfl
  · exact .unterminated rfl

theorem Reads.complete {s t : Stack} {lines : List Line} {closed : List OpenClass}
    (h : Reads s lines closed t) :
    t.complete = s.complete ++ closed.map OpenClass.closed := by
  induction h with
  | nil s => exact (List.append_nil _).symm
  | @close s t c outer closed line lines hclasses _ _ ih =>
    obtain ⟨nodes, classes⟩ := s
    obtain rfl : classes = c :: outer := hclasses
    rw [ih, complete_close, List.append_assoc, List.map_cons, List.singleton_append]
  | declare _ _ _ ih => rw [ih, complete_declare]

/-- A run reads some lines without a fault and then ends. What it reports are the classes that are
closed on these lines. -/
theorem exists_reads (s : Stack) {lines : List Line}
    (hlines : ∀ line ∈ lines, line.closes = true ↔ line.text.toList.head? = some '}') :
    ∃ earlier later closed t, lines = earlier ++ later ∧ Reads s earlier closed t ∧
      Ends t later (s.readAll lines).outcome ∧
      (s.readAll lines).events = closed.map OpenClass.report := by
  induction lines generalizing s with
  | nil =>
    rw [readAll_nil]
    exact ⟨[], [], [], s, rfl, .nil s, ends_finish s, rfl⟩
  | cons line lines ih =>
    obtain ⟨hline, hlines⟩ := List.forall_mem_cons.mp hlines
    rw [readAll_cons]
    by_cases hclosing : (s.scope.opening.isSome && line.closes) = true
    · obtain ⟨hopening, hcloses⟩ := Bool.and_eq_true_iff.mp hclosing
      obtain ⟨nodes, _ | ⟨c, outer⟩⟩ := s
      · cases hopening
      · obtain ⟨earlier, later, closed, t, rfl, hreads, hends, hevents⟩ :=
          ih (append ⟨nodes, outer⟩ c.closed) hlines
        rw [read_of_closes hcloses]
        refine ⟨line :: earlier, later, c :: closed, t, rfl, ?_, hends, congrArg (c.report :: ·) hevents⟩
        exact .close rfl (hline.mp hcloses) hreads
    · have hopen : s.classes = [] ∨ line.text.toList.head? ≠ some '}' := by
        obtain ⟨nodes, _ | ⟨c, outer⟩⟩ := s
        · exact .inl rfl
        · exact .inr fun hbrace => hclosing (hline.mpr hbrace)
      rw [read_of_not_closing hclosing]
      cases hdeclares : Declaration.ofLine line with
      | error e =>
        refine ⟨[], line :: lines, [], s, rfl, .nil s, .failed ?_, rfl⟩
        exact (step_iff hline).mpr (by rw [step_of_not_closing hclosing, hdeclares, Except.map_error])
      | ok declaration =>
        obtain ⟨earlier, later, closed, t, rfl, hreads, hends, hevents⟩ :=
          ih (s.declare line declaration) hlines
        rw [Except.map_ok, Logged.ofExcept_ok, pure_bind]
        refine ⟨line :: earlier, later, closed, t, rfl, ?_, hends, hevents⟩
        exact .declare hopen (declares_iff.mpr hdeclares) hreads

theorem Ends.nodes_eq {s : Stack} {lines : List Line} {nodes : List Node}
    (h : Ends s lines (.ok nodes)) : s = ⟨nodes, []⟩ := by
  cases h with
  | finished hclasses =>
    obtain ⟨nodes, classes⟩ := s
    exact congrArg _ hclasses

end Stack

theorem OpenClass.map_report (closed : List OpenClass) :
    closed.map report = (closed.map OpenClass.closed).filterMap Node.closing? := by
  rw [List.filterMap_map, ← List.filterMap_eq_map]
  rfl

/-- Reading goes through the lines up to the end or to the first fault, and reports the classes that are
closed on these lines. If it comes to the end of a tree, these are the classes of the tree in post-order,
and the number of all nodes is reported last. -/
theorem parse_reports_closings (source : String) :
    ∃ earlier later closed s,
      Line.ofText source = earlier ++ later ∧ Stack.Reads .start earlier closed s ∧
      Stack.Ends s later (parse source).outcome ∧
      match (parse source).outcome with
      | .ok nodes =>
        closed.map OpenClass.closed = Node.classNodes nodes ∧
        (parse source).events =
          (Node.postorderAll nodes).filterMap Node.closing? ++ [.parsedSchema (Node.total nodes)]
      | .error _ => (parse source).events = closed.map OpenClass.report := by
  obtain ⟨earlier, later, closed, s, hlines, hreads, hends, hevents⟩ :=
    Stack.start.exists_reads fun line hline => @Line.closes_iff_of_mem_ofText source line hline
  rw [parse_eq_readAll]
  generalize Stack.start.readAll (Line.ofText source) = read at hends hevents ⊢
  obtain ⟨events, outcome⟩ := read
  refine ⟨earlier, later, closed, s, hlines, hreads, ?_⟩
  cases outcome with
  | error e => exact ⟨hends, hevents⟩
  | ok nodes =>
    have hclosed : closed.map OpenClass.closed = Node.classNodes nodes := by
      have hcomplete := hreads.complete
      rw [hends.nodes_eq] at hcomplete
      exact hcomplete.symm
    refine ⟨hends, hclosed, ?_⟩
    rw [← Node.filterMap_closing?_classNodes, ← hclosed, ← OpenClass.map_report, ← hevents]
    rfl

/-- A class is closed before the fault, and the class around it is still open there. -/
example : (parse "class a\nclass b\nint c\n\x7d\nint").events = [.closedClass "b" 1] := by
  rw [parse_eq_readAll]
  rfl

end Schema
end Accessors
