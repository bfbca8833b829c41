import Mathlib.Data.List.Forall2
import Accessors.Proofs.StackMachine

/-!
The same lines at other places. Two schemas whose lines have the same texts are read alike: they give
the same tree, or the same fault, on the line at the same place of the list. How the numbers of such
lines are related is a parameter.
-/

set_option autoImplicit false

namespace Accessors

variable {R : Nat → Nat → Prop}

section Outcomes
variable {α β α' β' : Type} {S : α → β → Prop} {T : α' → β' → Prop}

/-- Outcomes that differ in the numbers of lines alone: results are related by `S`, and a fault is the
same one, with the number of its line related by `R`. -/
inductive Relocated (R : Nat → Nat → Prop) (S : α → β → Prop) :
    Except Error α → Except Error β → Prop where
  | ok {a : α} {b : β} : S a b → Relocated R S (.ok a) (.ok b)
  | malformed {n n' : Nat} {text : String} {reason : Reason} :
      R n n' → Relocated R S (.error (.malformed n text reason)) (.error (.malformed n' text reason))
  | unterminated {n n' : Nat} {name : String} :
      R n n' → Relocated R S (.error (.unterminated n name)) (.error (.unterminated n' name))
  | invalidToken {token : String} :
      Relocated R S (.error (.invalidToken token)) (.error (.invalidToken token))

namespace Relocated

theorem bind {x : Except Error α} {y : Except Error β} {f : α → Except Error α'}
    {g : β → Except Error β'} (h : Relocated R S x y)
    (hnext : ∀ a b, S a b → Relocated R T (f a) (g b)) : Relocated R T (x >>= f) (y >>= g) := by
  cases h with
  | ok hab => exact hnext _ _ hab
  | malformed hn => exact .malformed hn
  | unterminated hn => exact .unterminated hn
  | invalidToken => exact .invalidToken

theorem map {x : Except Error α} {y : Except Error β} {f : α → α'} {g : β → β'}
    (h : Relocated R S x y) (hmap : ∀ a b, S a b → T (f a) (g b)) :
    Relocated R T (f <$> x) (g <$> y) := by
  rw [← bind_ok_eq_map, ← bind_ok_eq_map]
  exact h.bind fun a b hab => .ok (hmap a b hab)

theorem eq_ok {x y : Except Error α} {a : α} (h : Relocated R Eq x y) (hx : x = .ok a) :
    y = .ok a := by
  subst hx
  cases h with
  | ok hab => rw [hab]

end Relocated

theorem relocated_symbolName (token : String) :
    Relocated R Eq (symbolName token) (symbolName token) := by
  unfold symbolName
  split
  · exact .invalidToken
  · exact .ok rfl

end Outcomes

/-- A line with the same text somewhere else. -/
structure Line.Moved (R : Nat → Nat → Prop) (line line' : Line) : Prop where
  text : line'.text = line.text
  number : R line.number line'.number

theorem Line.Moved.closes {line line' : Line} (h : Line.Moved R line line') :
    line'.closes = line.closes := by
  rw [Line.closes, Line.closes, h.text]

/-- The form of a line does not depend on its number. -/
theorem Declares.moved {line line' : Line} (h : Line.Moved R line line')
    {r : Except Error Declaration} (hr : Declares line r) :
    ∃ r', Declares line' r' ∧ Relocated R Eq r r' := by
  obtain ⟨n, text⟩ := line
  obtain ⟨n', text'⟩ := line'
  obtain ⟨htext, hn⟩ := h
  obtain rfl : text' = text := htext
  have named : ∀ (token : String) (f : String → Declaration),
      Relocated R Eq (f <$> symbolName token) (f <$> symbolName token) :=
    fun token f => (relocated_symbolName token).map fun _ _ => congrArg f
  cases hr with
  | missingName hshort => exact ⟨_, .missingName hshort, .malformed hn⟩
  | openClass htokens => exact ⟨_, .openClass htokens, named _ _⟩
  | scalar htokens hplain => exact ⟨_, .scalar htokens hplain, named _ _⟩
  | sizedName htokens hsized => exact ⟨_, .sizedName htokens hsized, named _ _⟩
  | unsizedName htokens hbracket hunsized =>
    exact ⟨_, .unsizedName htokens hbracket hunsized, .malformed hn⟩
  | sizedKind htokens hsized => exact ⟨_, .sizedKind htokens hsized, named _ _⟩
  | unknownSizedKind htokens hsized hfront =>
    exact ⟨_, .unknownSizedKind htokens hsized hfront, .malformed hn⟩
  | unsizedKind htokens hbracket hunsized =>
    exact ⟨_, .unsizedKind htokens hbracket hunsized, .malformed hn⟩
  | unknownElement htokens hclass hkind hplain hbracket =>
    exact ⟨_, .unknownElement htokens hclass hkind hplain hbracket, .malformed hn⟩
  | unknownKeyword htokens hclass hkind hplain hbracket =>
    exact ⟨_, .unknownKeyword htokens hclass hkind hplain hbracket, .malformed hn⟩

theorem Declaration.relocated_ofLine {line line' : Line} (h : Line.Moved R line line') :
    Relocated R Eq (ofLine line) (ofLine line') := by
  obtain ⟨r, hr⟩ := exists_declares line
  obtain ⟨r', hr', hrelocated⟩ := hr.moved h
  rwa [ofLine_of_declares hr, ofLine_of_declares hr']

namespace Schema

/-- An open class that differs in the number of its line alone. -/
structure OpenClass.Moved (R : Nat → Nat → Prop) (c c' : OpenClass) : Prop where
  line : R c.line c'.line
  name : c'.name = c.name
  address : c'.address = c.address
  members : c'.members = c.members

theorem OpenClass.Moved.closed {c c' : OpenClass} (h : OpenClass.Moved R c c') :
    c'.closed = c.closed := by
  rw [OpenClass.closed, OpenClass.closed, h.name, h.address, h.members]

/-- The same frames, with the classes opened on other lines. -/
structure Stack.Moved (R : Nat → Nat → Prop) (s s' : Stack) : Prop where
  nodes : s'.nodes = s.nodes
  classes : List.Forall₂ (OpenClass.Moved R) s.classes s'.classes

namespace Stack

variable {s s' : Stack} {line line' : Line}

theorem Moved.address (h : Moved R s s') : s'.address = s.address := by
  obtain ⟨nodes, classes⟩ := s
  obtain ⟨nodes', classes'⟩ := s'
  cases h.classes with
  | nil => rfl
  | cons hc _ => exact hc.address

theorem Moved.append (h : Moved R s s') (node : Node) : Moved R (s.append node) (s'.append node) := by
  obtain ⟨nodes, classes⟩ := s
  obtain ⟨nodes', classes'⟩ := s'
  obtain ⟨hnodes, hclasses⟩ := h
  obtain rfl : nodes' = nodes := hnodes
  cases hclasses with
  | nil => exact ⟨rfl, .nil⟩
  | cons hc houter =>
    refine ⟨rfl, .cons ⟨hc.line, hc.name, hc.address, ?_⟩ houter⟩
    rw [hc.members]

theorem Moved.declare (h : Moved R s s') (hline : Line.Moved R line line')
    (declaration : Declaration) :
    Moved R (s.declare line declaration) (s'.declare line' declaration) := by
  cases declaration with
  | openClass name token =>
    refine ⟨h.nodes, .cons ⟨hline.number, rfl, ?_, rfl⟩ h.classes⟩
    rw [h.address]
  | scalar kind name token =>
    simp only [Stack.declare, h.address]
    exact h.append _
  | array kind size name token =>
    simp only [Stack.declare, h.address]
    exact h.append _

/-- One line takes related stacks to related stacks, or is the same fault for both. -/
theorem Moved.step (h : Moved R s s') (hline : Line.Moved R line line') :
    Relocated R (Moved R) (s.step line) (s'.step line') := by
  have hdeclare : Relocated R (Moved R) (s.declare line <$> Declaration.ofLine line)
      (s'.declare line' <$> Declaration.ofLine line') := by
    apply (Declaration.relocated_ofLine hline).map
    rintro declaration _ rfl
    exact h.declare hline declaration
  obtain ⟨nodes, classes⟩ := s
  obtain ⟨nodes', classes'⟩ := s'
  obtain ⟨hnodes, hclasses⟩ := h
  cases hclasses with
  | nil => exact hdeclare
  | @cons c c' outer outer' hc houter =>
    cases hclose : line.closes with
    | false => simpa [Stack.step, hline.closes, hclose] using hdeclare
    | true =>
      have hbelow : Moved R ⟨nodes, outer⟩ ⟨nodes', outer'⟩ := ⟨hnodes, houter⟩
      simp only [Stack.step, hline.closes, hclose, if_true, hc.closed]
      exact .ok (hbelow.append c.closed)

theorem Moved.finish (h : Moved R s s') : Relocated R Eq s.finish s'.finish := by
  obtain ⟨nodes, classes⟩ := s
  obtain ⟨nodes', classes'⟩ := s'
  obtain ⟨hnodes, hclasses⟩ := h
  cases hclasses with
  | nil => exact .ok hnodes.symm
  | cons hc _ =>
    simp only [Stack.finish, hc.name]
    exact .unterminated hc.line

/-- A whole run gives the same tree on both sides, or the same fault. -/
theorem Moved.run (h : Moved R s s') {lines lines' : List Line}
    (hlines : List.Forall₂ (Line.Moved R) lines lines') :
    Relocated R Eq (s.run lines) (s'.run lines') := by
  induction hlines generalizing s s' with
  | nil =>
    rw [run_nil, run_nil]
    exact h.finish
  | cons hline _ ih =>
    rw [run_cons, run_cons]
    exact (h.step hline).bind fun _ _ hnext => ih hnext

end Stack

theorem relocated_parse {source source' : String}
    (h : List.Forall₂ (Line.Moved R) (Line.ofText source) (Line.ofText source')) :
    Relocated R Eq (parse source).outcome (parse source').outcome := by
  rw [parse_outcome, parse_outcome]
  exact Stack.Moved.run ⟨rfl, .nil⟩ h

end Schema
end Accessors
