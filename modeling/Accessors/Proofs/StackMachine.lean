import Accessors.Proofs.LineForms
import Accessors.Proofs.Outcomes
import Accessors.Schema.Parse

/-!
Reading a schema with an explicit stack. The machine takes one line at a time: a line opens a
class, closes the innermost one, or adds a node to it. The recursive reader and the machine give
the same tree, and where there is none the same fault. They also report the same, at the same lines.

The machine is given twice: as a relation that says what a line may do, and as a fold over the
lines. The fold is what later modules reason about.
-/

set_option autoImplicit false

namespace Accessors.Schema

/-- A class whose closing line is still to come. -/
structure OpenClass where
  line : Nat
  name : String
  address : String
  members : List Node

def OpenClass.closed (c : OpenClass) : Node := .classDef c.name c.address c.members

/-- What is reported when the class is closed. -/
def OpenClass.report (c : OpenClass) : Event := .closedClass c.name c.members.length

/-- The innermost open class comes first. Below all of them is the root frame, at the root
address, with the nodes found at top level. -/
structure Stack where
  nodes : List Node
  classes : List OpenClass

namespace Stack

def start : Stack := ⟨[], []⟩

def address (s : Stack) : String :=
  match s.classes with
  | [] => Address.root
  | c :: _ => c.address

/-- Adds a node to the innermost frame. -/
def append (s : Stack) (node : Node) : Stack :=
  match s.classes with
  | [] => ⟨s.nodes ++ [node], []⟩
  | c :: outer => ⟨s.nodes, { c with members := c.members ++ [node] } :: outer⟩

def declare (s : Stack) (line : Line) : Declaration → Stack
  | .openClass name token =>
    ⟨s.nodes, ⟨line.number, name, Address.extend s.address token, []⟩ :: s.classes⟩
  | .scalar kind name token => s.append (.scalar kind name (Address.extend s.address token))
  | .array kind size name token =>
    s.append (.array kind size name (Address.extend s.address token))

/-- What a machine does on one line. -/
inductive Step (s : Stack) (line : Line) : Except Error Stack → Prop where
  | close {c : OpenClass} {outer : List OpenClass} :
      s.classes = c :: outer → line.text.toList.head? = some '}' →
      Step s line (.ok (append ⟨s.nodes, outer⟩ c.closed))
  | read {r : Except Error Declaration} :
      (s.classes = [] ∨ line.text.toList.head? ≠ some '}') → Declares line r →
      Step s line (s.declare line <$> r)

/-- The first fault ends a run. At the end of the text no class may be open. -/
inductive Run : Stack → List Line → Except Error (List Node) → Prop where
  | finished {s : Stack} : s.classes = [] → Run s [] (.ok s.nodes)
  | unterminated {s : Stack} {c : OpenClass} {outer : List OpenClass} :
      s.classes = c :: outer → Run s [] (.error (.unterminated c.line c.name))
  | failed {s : Stack} {line : Line} {lines : List Line} {e : Error} :
      Step s line (.error e) → Run s (line :: lines) (.error e)
  | next {s t : Stack} {line : Line} {lines : List Line} {r : Except Error (List Node)} :
      Step s line (.ok t) → Run t lines r → Run s (line :: lines) r

def step (s : Stack) (line : Line) : Except Error Stack :=
  match s.classes with
  | c :: outer =>
    if line.closes then .ok (append ⟨s.nodes, outer⟩ c.closed)
    else s.declare line <$> Declaration.ofLine line
  | [] => s.declare line <$> Declaration.ofLine line

def finish (s : Stack) : Except Error (List Node) :=
  match s.classes with
  | [] => .ok s.nodes
  | c :: _ => .error (.unterminated c.line c.name)

def run (s : Stack) (lines : List Line) : Except Error (List Node) :=
  lines.foldlM step s >>= finish

def scope (s : Stack) : Scope := ⟨s.address, s.classes.head?.map fun c => (c.line, c.name)⟩

/-- What the machine does after the members of the innermost scope. -/
def resume (s : Stack) (nodes : List Node) (rest : List Line) : Except Error (List Node) :=
  match s.classes with
  | [] => .ok (s.nodes ++ nodes)
  | c :: outer =>
    run (append ⟨s.nodes, outer⟩ { c with members := c.members ++ nodes }.closed) rest

theorem run_nil (s : Stack) : s.run [] = s.finish := by simp [run]

theorem run_cons (s : Stack) (line : Line) (lines : List Line) :
    s.run (line :: lines) = s.step line >>= fun t => t.run lines := by
  simp [run]

theorem scope_append (s : Stack) (node : Node) : (s.append node).scope = s.scope := by
  obtain ⟨nodes, _ | ⟨c, outer⟩⟩ := s <;> rfl

theorem resume_append (s : Stack) (node : Node) (nodes : List Node) (rest : List Line) :
    (s.append node).resume nodes rest = s.resume (node :: nodes) rest := by
  obtain ⟨top, _ | ⟨c, outer⟩⟩ := s <;> simp [append, resume]

theorem step_of_closes {line : Line} (h : line.closes = true) (top : List Node) (c : OpenClass)
    (outer : List OpenClass) :
    step ⟨top, c :: outer⟩ line = .ok (append ⟨top, outer⟩ c.closed) := by
  simp [step, h]

theorem step_of_not_closing {s : Stack} {line : Line}
    (h : ¬(s.scope.opening.isSome && line.closes) = true) :
    s.step line = s.declare line <$> Declaration.ofLine line := by
  obtain ⟨nodes, _ | ⟨c, outer⟩⟩ := s
  · rfl
  · have hopen : ¬line.closes = true := by simpa [scope] using h
    simp [step, hopen]

theorem step_iff {s : Stack} {line : Line} {r : Except Error Stack}
    (hline : line.closes = true ↔ line.text.toList.head? = some '}') :
    Step s line r ↔ s.step line = r := by
  constructor
  · intro h
    cases h with
    | close hs hclose => simp [step, hs, hline.mpr hclose]
    | read hopen hr =>
      rw [step_of_not_closing, declares_iff.mp hr]
      rcases hopen with hs | hopen
      · simp [scope, hs]
      · simp [mt hline.mp hopen]
  · rintro rfl
    obtain ⟨nodes, _ | ⟨c, outer⟩⟩ := s
    · exact .read (.inl rfl) (declares_iff.mpr rfl)
    · by_cases hclose : line.closes = true
      · simpa [step, hclose] using Step.close rfl (hline.mp hclose)
      · simpa [step, hclose] using
          Step.read (.inr (mt hline.mpr hclose)) (declares_iff.mpr rfl)

theorem run_iff {s : Stack} {lines : List Line} {r : Except Error (List Node)}
    (hlines : ∀ line ∈ lines, line.closes = true ↔ line.text.toList.head? = some '}') :
    Run s lines r ↔ s.run lines = r := by
  induction lines generalizing s with
  | nil =>
    rw [run_nil]
    constructor
    · rintro (hs | hs) <;> simp [finish, hs]
    · rintro rfl
      obtain ⟨nodes, _ | ⟨c, outer⟩⟩ := s
      · exact .finished rfl
      · exact .unterminated rfl
  | cons line lines ih =>
    obtain ⟨hline, hlines⟩ := List.forall_mem_cons.mp hlines
    rw [run_cons]
    constructor
    · intro h
      cases h with
      | failed hstep => rw [(step_iff hline).mp hstep, error_bind]
      | next hstep hrun => rw [(step_iff hline).mp hstep, ok_bind, (ih hlines).mp hrun]
    · intro h
      cases hstep : s.step line with
      | error e =>
        rw [hstep, error_bind] at h
        exact h ▸ .failed ((step_iff hline).mpr hstep)
      | ok t =>
        rw [hstep, ok_bind] at h
        exact .next ((step_iff hline).mpr hstep) ((ih hlines).mpr h)

/-- What is reported on one line. -/
def reported (s : Stack) (line : Line) : List Event :=
  match s.classes with
  | c :: _ => if line.closes then [c.report] else []
  | [] => []

def read (s : Stack) (line : Line) : Logged Stack := ⟨s.reported line, s.step line⟩

/-- A run with its reports. -/
def readAll (s : Stack) (lines : List Line) : Logged (List Node) := do
  let t ← lines.foldlM read s
  .ofExcept t.finish

/-- What the machine does and reports after the members of the innermost scope. -/
def goOn (s : Stack) (nodes : List Node) (rest : List Line) : Logged (List Node) :=
  match s.classes with
  | [] => pure (s.nodes ++ nodes)
  | c :: outer => do
    let c := { c with members := c.members ++ nodes }
    Logged.report c.report
    readAll (append ⟨s.nodes, outer⟩ c.closed) rest

theorem readAll_nil (s : Stack) : s.readAll [] = .ofExcept s.finish := by
  rw [readAll, List.foldlM_nil, pure_bind]

theorem readAll_cons (s : Stack) (line : Line) (lines : List Line) :
    s.readAll (line :: lines) = s.read line >>= fun t => t.readAll lines := by
  rw [readAll, List.foldlM_cons, bind_assoc]
  rfl

theorem outcome_readAll (s : Stack) (lines : List Line) : (s.readAll lines).outcome = s.run lines := by
  induction lines generalizing s with
  | nil => rw [readAll_nil, run_nil, Logged.outcome_ofExcept]
  | cons line lines ih =>
    rw [readAll_cons, run_cons, Logged.outcome_bind]
    simp only [ih]
    rfl

theorem read_of_closes {line : Line} (h : line.closes = true) (top : List Node) (c : OpenClass)
    (outer : List OpenClass) :
    read ⟨top, c :: outer⟩ line = ⟨[c.report], .ok (append ⟨top, outer⟩ c.closed)⟩ := by
  simp [read, reported, step_of_closes h, h]

theorem read_of_not_closing {s : Stack} {line : Line}
    (h : ¬(s.scope.opening.isSome && line.closes) = true) :
    s.read line = .ofExcept (s.declare line <$> Declaration.ofLine line) := by
  rw [read, step_of_not_closing h]
  obtain ⟨nodes, _ | ⟨c, outer⟩⟩ := s
  · rfl
  · have hopen : ¬line.closes = true := by simpa [scope] using h
    simp [reported, hopen, Logged.ofExcept]

theorem goOn_append (s : Stack) (node : Node) (nodes : List Node) (rest : List Line) :
    (s.append node).goOn nodes rest = s.goOn (node :: nodes) rest := by
  obtain ⟨top, _ | ⟨c, outer⟩⟩ := s <;> simp [append, goOn]

theorem goOn_openClass (s : Stack) (c : OpenClass) (nodes : List Node) (rest : List Line) :
    (⟨s.nodes, c :: s.classes⟩ : Stack).goOn nodes rest =
      Logged.report { c with members := c.members ++ nodes }.report >>= fun _ =>
        (s.append { c with members := c.members ++ nodes }.closed).readAll rest := rfl

theorem outcome_goOn (s : Stack) (nodes : List Node) (rest : List Line) :
    (s.goOn nodes rest).outcome = s.resume nodes rest := by
  obtain ⟨top, _ | ⟨c, outer⟩⟩ := s
  · rfl
  · exact outcome_readAll _ rest

/-- The members of a scope are what the machine adds to its innermost frame before that frame is
closed. Both report the same until then, and both meet the same fault first. -/
theorem readAll_eq_members (s : Stack) (lines : List Line) :
    s.readAll lines = members s.scope lines >>= fun found => s.goOn found.1 found.2.val := by
  -- The stack is general: the members of a class are read with the class on it, what follows the
  -- class without.
  generalize hscope : s.scope = scope
  induction scope, lines using members.induct generalizing s with
  | case1 scope h =>
    subst hscope
    obtain ⟨nodes, _ | ⟨c, outer⟩⟩ := s
    · rw [members, h, pure_bind, readAll_nil, goOn, List.append_nil]
      rfl
    · cases h
  | case2 scope number name h =>
    subst hscope
    obtain ⟨nodes, _ | ⟨c, outer⟩⟩ := s
    · cases h
    · obtain ⟨rfl, rfl⟩ := Prod.mk.inj (Option.some.inj h)
      rw [members, h, readAll_nil, finish]
      rfl
  | case3 scope line lines h =>
    subst hscope
    obtain ⟨nodes, _ | ⟨c, outer⟩⟩ := s
    · cases h
    · have hclose : line.closes = true := by simpa [scope] using h
      rw [members, if_pos h, pure_bind, readAll_cons, read_of_closes hclose]
      simp only [goOn, List.append_nil]
      rfl
  | case4 scope line lines h ihInner ihRest ihLines =>
    subst hscope
    rw [members, if_neg h, readAll_cons, read_of_not_closing h]
    cases hline : Declaration.ofLine line with
    | error e => rfl
    | ok declaration =>
      rw [Except.map_ok, Logged.ofExcept_ok, pure_bind, Logged.ofExcept_ok, pure_bind]
      cases declaration with
      | scalar kind name token =>
        rw [declare, ihLines (s.append _) (scope_append ..)]
        simp [goOn_append, scope]
      | array kind size name token =>
        rw [declare, ihLines (s.append _) (scope_append ..)]
        simp [goOn_append, scope]
      | openClass name token =>
        rw [declare, ihInner name token _ rfl]
        simp only [bind_assoc]
        apply bind_congr
        rintro ⟨inner, rest, hrest⟩
        rw [goOn_openClass]
        apply bind_congr
        intro _
        rw [ihRest rest hrest _ (scope_append ..)]
        simp [goOn_append, OpenClass.closed, scope]

theorem run_eq_members (s : Stack) (lines : List Line) :
    s.run lines =
      (members s.scope lines).outcome >>= fun found => s.resume found.1 found.2.val := by
  rw [← outcome_readAll, readAll_eq_members, Logged.outcome_bind]
  simp only [outcome_goOn]

end Stack

theorem parse_eq_readAll (source : String) :
    parse source = Stack.start.readAll (Line.ofText source) >>= fun nodes =>
      Logged.report (.parsedSchema (Node.total nodes)) >>= fun _ => pure nodes := by
  rw [Stack.readAll_eq_members, bind_assoc]
  rfl

theorem parse_outcome (source : String) :
    (parse source).outcome = Stack.start.run (Line.ofText source) := by
  rw [Stack.run_eq_members]
  simp [parse, Stack.resume, Stack.start, Stack.scope, Stack.address, Scope.top]

/-- The recursive reader gives a tree or a fault exactly when the machine does. -/
theorem parse_outcome_iff_run (source : String) (r : Except Error (List Node)) :
    (parse source).outcome = r ↔ Stack.Run .start (Line.ofText source) r := by
  rw [Stack.run_iff fun line hline => Line.closes_iff_of_mem_ofText hline, parse_outcome]

end Accessors.Schema
