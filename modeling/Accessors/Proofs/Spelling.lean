import Mathlib.Data.List.Forall2
import Accessors.Proofs.Emitters
import Accessors.Proofs.StackMachine

/-!
How a tree is spelled by lines. `Spells` follows the nesting of a schema: each line that opens a
class comes with the lines of its members and the line that closes it. From it the visits of a walk
and the lines of the schema are matched one by one, each line with the tokens of the class lines
around it.
-/

set_option autoImplicit false

namespace Accessors.Schema

/-- The lines spell the nodes, at an address. -/
inductive Spells : String → List Line → List Node → Prop where
  | nil {address : String} : Spells address [] []
  | classDef {address name token : String} {line close : Line} {inner lines : List Line}
      {members nodes : List Node} :
      Declaration.ofLine line = .ok (.openClass name token) →
      Spells (Address.extend address token) inner members → close.closes = true →
      Spells address lines nodes →
      Spells address (line :: (inner ++ close :: lines))
        (.classDef name (Address.extend address token) members :: nodes)
  | scalar {address name token : String} {kind : Kind} {line : Line} {lines : List Line}
      {nodes : List Node} :
      Declaration.ofLine line = .ok (.scalar kind name token) →
      Spells address lines nodes →
      Spells address (line :: lines) (.scalar kind name (Address.extend address token) :: nodes)
  | array {address size name token : String} {kind : Kind} {line : Line} {lines : List Line}
      {nodes : List Node} :
      Declaration.ofLine line = .ok (.array kind size name token) →
      Spells address lines nodes →
      Spells address (line :: lines)
        (.array kind size name (Address.extend address token) :: nodes)

/-- The lines that a scope takes: at top level all of them, in a class those up to its closing
line. -/
def Taken (scope : Scope) (lines inner rest : List Line) : Prop :=
  match scope.opening with
  | none => lines = inner ∧ rest = []
  | some _ => ∃ close, lines = inner ++ close :: rest ∧ close.closes = true

theorem Taken.append {scope : Scope} {lines inner rest : List Line}
    (h : Taken scope lines inner rest) (before : List Line) :
    Taken scope (before ++ lines) (before ++ inner) rest := by
  unfold Taken at h ⊢
  split at h
  · exact ⟨by rw [h.1], h.2⟩
  · obtain ⟨close, rfl, hclose⟩ := h
    exact ⟨close, by rw [List.append_assoc], hclose⟩

theorem spells_of_members (scope : Scope) (lines : List Line) {found : List Node × Rest lines}
    (h : (members scope lines).outcome = .ok found) :
    ∃ inner, Taken scope lines inner found.2.val ∧ Spells scope.address inner found.1 := by
  induction scope, lines using members.induct with
  | case1 scope hopening =>
    rw [members, hopening] at h
    obtain rfl := Except.ok.inj h
    exact ⟨[], by simp [Taken, hopening], .nil⟩
  | case2 scope number name hopening =>
    rw [members, hopening] at h
    cases h
  | case3 scope line lines hclose =>
    rw [members, if_pos hclose] at h
    obtain rfl := Except.ok.inj h
    obtain ⟨hopening, hline⟩ := Bool.and_eq_true_iff.mp hclose
    obtain ⟨opening, hopening⟩ := Option.isSome_iff_exists.mp hopening
    refine ⟨[], ?_, .nil⟩
    rw [Taken, hopening]
    exact ⟨line, rfl, hline⟩
  | case4 scope line lines hopen ihInner ihRest ihLines =>
    rw [members, if_neg hopen, Logged.outcome_bind, Logged.outcome_ofExcept] at h
    obtain ⟨declaration, hline, h⟩ := bind_eq_ok_iff.mp h
    cases declaration with
    | openClass name token =>
      rw [Logged.outcome_bind] at h
      obtain ⟨⟨members, rest, hrest⟩, hmembers, h⟩ := bind_eq_ok_iff.mp h
      rw [Logged.outcome_bind, Logged.outcome_report, ok_bind, Logged.outcome_bind] at h
      obtain ⟨⟨nodes, rest', hrest'⟩, hnodes, h⟩ := bind_eq_ok_iff.mp h
      obtain rfl := Except.ok.inj h
      obtain ⟨inner, ⟨close, hlines, hclose⟩, hinner⟩ := ihInner name token hmembers
      obtain ⟨after, hafter, hspells⟩ := ihRest rest hrest hnodes
      refine ⟨line :: (inner ++ close :: after), ?_, .classDef hline hinner hclose hspells⟩
      simpa [hlines] using hafter.append (line :: (inner ++ [close]))
    | scalar kind name token =>
      rw [Logged.outcome_bind] at h
      obtain ⟨⟨nodes, rest, hrest⟩, hnodes, h⟩ := bind_eq_ok_iff.mp h
      obtain rfl := Except.ok.inj h
      obtain ⟨inner, hinner, hspells⟩ := ihLines hnodes
      exact ⟨line :: inner, hinner.append [line], .scalar hline hspells⟩
    | array kind size name token =>
      rw [Logged.outcome_bind] at h
      obtain ⟨⟨nodes, rest, hrest⟩, hnodes, h⟩ := bind_eq_ok_iff.mp h
      obtain rfl := Except.ok.inj h
      obtain ⟨inner, hinner, hspells⟩ := ihLines hnodes
      exact ⟨line :: inner, hinner.append [line], .array hline hspells⟩

theorem spells_of_parse {source : String} {nodes : List Node}
    (h : (parse source).outcome = .ok nodes) :
    Spells Address.root (Line.ofText source) nodes := by
  rw [parse, Logged.outcome_bind] at h
  obtain ⟨found, hfound, h⟩ := bind_eq_ok_iff.mp h
  obtain rfl := Except.ok.inj h
  obtain ⟨inner, htaken, hspells⟩ := spells_of_members _ _ hfound
  obtain ⟨rfl, -⟩ := htaken
  exact hspells

namespace Stack

theorem step_of_ofLine {line : Line} {declaration : Declaration}
    (h : Declaration.ofLine line = .ok declaration) (s : Stack) :
    s.step line = .ok (s.declare line declaration) := by
  rw [step_of_not_closing, h, Except.map_ok]
  simp [Declaration.not_closes_of_ofLine h]

theorem foldl_append_top (top nodes : List Node) :
    nodes.foldl append ⟨top, []⟩ = ⟨top ++ nodes, []⟩ := by
  induction nodes generalizing top with
  | nil => simp
  | cons node nodes ih => simp [append, ih]

theorem foldl_append_class (top nodes : List Node) (c : OpenClass) (outer : List OpenClass) :
    nodes.foldl append ⟨top, c :: outer⟩ =
      ⟨top, { c with members := c.members ++ nodes } :: outer⟩ := by
  induction nodes generalizing c with
  | nil => simp
  | cons node nodes ih => simp [append, ih]

theorem address_append (s : Stack) (node : Node) : (s.append node).address = s.address :=
  congrArg Scope.address (scope_append s node)

/-- On lines that spell some nodes the machine adds these nodes to its innermost frame. -/
theorem foldlM_of_spells {address : String} {lines : List Line} {nodes : List Node}
    (h : Spells address lines nodes) {s : Stack} (hs : s.address = address) :
    lines.foldlM step s = .ok (nodes.foldl append s) := by
  induction h generalizing s with
  | nil => rfl
  | @classDef address name token line close inner lines members nodes hline hinner hclose hrest
      ihInner ihRest =>
    subst hs
    rw [List.foldlM_cons, step_of_ofLine hline, ok_bind, List.foldlM_append, declare,
      ihInner rfl, ok_bind, foldl_append_class, List.foldlM_cons, step_of_closes hclose, ok_bind]
    exact ihRest (address_append s _)
  | scalar hline hrest ih =>
    subst hs
    rw [List.foldlM_cons, step_of_ofLine hline, ok_bind]
    exact ih (address_append s _)
  | array hline hrest ih =>
    subst hs
    rw [List.foldlM_cons, step_of_ofLine hline, ok_bind]
    exact ih (address_append s _)

theorem run_of_spells {lines : List Line} {nodes : List Node}
    (h : Spells Address.root lines nodes) : start.run lines = .ok nodes := by
  have hstart : start.address = Address.root := rfl
  rw [run, foldlM_of_spells h hstart, ok_bind, start, foldl_append_top]
  rfl

end Stack

end Accessors.Schema

namespace Accessors

/-- The tokens of the class lines that are open after a line, outermost first. -/
def Line.tokensAfter (opened : List String) (line : Line) : List String :=
  if !opened.isEmpty && line.closes then opened.dropLast
  else
    match line.tokens with
    | keyword :: token :: _ => if keyword = "class" then opened ++ [token] else opened
    | _ => opened

theorem Line.tokensAfter_of_closes {line : Line} (h : line.closes = true) (opened : List String)
    (token : String) : tokensAfter (opened ++ [token]) line = opened := by
  simp [tokensAfter, h]

theorem Line.tokensAfter_of_ofLine {line : Line} {declaration : Declaration}
    (h : Declaration.ofLine line = .ok declaration) (opened : List String) :
    tokensAfter opened line = match declaration with
      | .openClass _ token => opened ++ [token]
      | _ => opened := by
  obtain ⟨keyword, token, more, htokens, hspelled⟩ := Declaration.spelledBy_of_ofLine h
  rw [tokensAfter, Declaration.not_closes_of_ofLine h, htokens]
  cases declaration with
  | openClass name t =>
    obtain ⟨rfl, rfl, -⟩ := hspelled
    simp
  | scalar kind name t =>
    obtain ⟨-, rfl, -⟩ := hspelled
    simp [kind.keyword_ne_class]
  | array kind size name t =>
    rcases hspelled.2 with ⟨rfl, -⟩ | ⟨hsized, -⟩
    · simp [kind.keyword_ne_class]
    · simp [hsized.ne_class]

namespace Schema

/-- A visit in a scope is what a line says inside the class lines with the given tokens. The scope
starts with the output class, and then has the type names of those tokens. -/
inductive Matches (className : String) : List String × Visit → List String × Line → Prop where
  | enter {opened names : List String} {name token : String} {members : List Node} {line : Line} :
      opened.mapM symbolName = .ok names →
      Declaration.ofLine line = .ok (.openClass name token) →
      Matches className
        (className :: names.map typeName,
          .enter name ((opened ++ [token]).foldl Address.extend Address.root) members)
        (opened, line)
  | leave {opened names : List String} {name token : String} {members : List Node} {line : Line} :
      (opened ++ [token]).mapM symbolName = .ok (names ++ [name]) → line.closes = true →
      Matches className
        (className :: (names ++ [name]).map typeName,
          .leave name ((opened ++ [token]).foldl Address.extend Address.root) members)
        (opened ++ [token], line)
  | scalar {opened names : List String} {name token : String} {kind : Kind} {line : Line} :
      opened.mapM symbolName = .ok names →
      Declaration.ofLine line = .ok (.scalar kind name token) →
      Matches className
        (className :: names.map typeName,
          .scalar kind name ((opened ++ [token]).foldl Address.extend Address.root))
        (opened, line)
  | array {opened names : List String} {size name token : String} {kind : Kind} {line : Line} :
      opened.mapM symbolName = .ok names →
      Declaration.ofLine line = .ok (.array kind size name token) →
      Matches className
        (className :: names.map typeName,
          .array kind size name ((opened ++ [token]).foldl Address.extend Address.root))
        (opened, line)

/-- Reading the lines of a forest and walking it go through the same scopes, and both end where they
began. -/
theorem Spells.matches {address : String} {lines : List Line} {nodes : List Node}
    (h : Spells address lines nodes) (className : String) {opened names : List String}
    (haddress : address = opened.foldl Address.extend Address.root)
    (hnames : opened.mapM symbolName = .ok names) :
    (Node.visitsAll nodes).foldl Cpp.Definitions.scopeAfter (className :: names.map typeName) =
        className :: names.map typeName ∧
      lines.foldl Line.tokensAfter opened = opened ∧
      List.Forall₂ (Matches className)
        (contexts Cpp.Definitions.scopeAfter (className :: names.map typeName)
          (Node.visitsAll nodes))
        (contexts Line.tokensAfter opened lines) := by
  -- That both folds come back is part of the induction: what follows a class needs it.
  induction h generalizing opened names with
  | nil => exact ⟨rfl, rfl, .nil⟩
  | @classDef address name token line close inner lines members nodes hline hinner hclose hrest
      ihInner ihRest =>
    subst haddress
    obtain ⟨keyword, token', more, -, hspelled⟩ := Declaration.spelledBy_of_ofLine hline
    obtain ⟨rfl, -, hname⟩ := hspelled
    have hnames' : (opened ++ [token]).mapM symbolName = .ok (names ++ [name]) := by
      simp [List.mapM_append, hnames, hname]
    have haddress : Address.extend (opened.foldl Address.extend Address.root) token =
        (opened ++ [token]).foldl Address.extend Address.root := by simp
    have henter : ∀ address members, Cpp.Definitions.scopeAfter (className :: names.map typeName)
        (.enter name address members) = className :: (names ++ [name]).map typeName := by
      simp [Cpp.Definitions.scopeAfter]
    have hleave : ∀ address members,
        Cpp.Definitions.scopeAfter (className :: (names ++ [name]).map typeName)
          (.leave name address members) = className :: names.map typeName := by
      intro address members
      rw [Cpp.Definitions.scopeAfter, List.map_append, ← List.cons_append]
      exact List.dropLast_concat
    obtain ⟨hvisits, htokens, hmatches⟩ := ihInner haddress hnames'
    obtain ⟨hvisits', htokens', hmatches'⟩ := ihRest rfl hnames
    rw [haddress, Node.visitsAll_classDef]
    refine ⟨?_, ?_, ?_⟩
    · rw [List.foldl_cons, henter, List.foldl_append, hvisits, List.foldl_cons, hleave, hvisits']
    · rw [List.foldl_cons, Line.tokensAfter_of_ofLine hline, List.foldl_append, htokens,
        List.foldl_cons, Line.tokensAfter_of_closes hclose, htokens']
    · rw [contexts, henter, contexts_append, hvisits, contexts, hleave, contexts,
        Line.tokensAfter_of_ofLine hline, contexts_append, htokens, contexts,
        Line.tokensAfter_of_closes hclose]
      refine .cons (.enter hnames hline) ?_
      exact List.rel_append hmatches (.cons (.leave hnames' hclose) hmatches')
  | scalar hline hrest ih =>
    subst haddress
    obtain ⟨hvisits, htokens, hmatches⟩ := ih rfl hnames
    refine ⟨hvisits, ?_, ?_⟩
    · rwa [List.foldl_cons, Line.tokensAfter_of_ofLine hline]
    · rw [Node.visitsAll_scalar, contexts, contexts, Line.tokensAfter_of_ofLine hline]
      refine .cons ?_ hmatches
      simpa using Matches.scalar hnames hline
  | array hline hrest ih =>
    subst haddress
    obtain ⟨hvisits, htokens, hmatches⟩ := ih rfl hnames
    refine ⟨hvisits, ?_, ?_⟩
    · rwa [List.foldl_cons, Line.tokensAfter_of_ofLine hline]
    · rw [Node.visitsAll_array, contexts, contexts, Line.tokensAfter_of_ofLine hline]
      refine .cons ?_ hmatches
      simpa using Matches.array hnames hline

theorem matches_of_parse {source : String} {nodes : List Node}
    (h : (parse source).outcome = .ok nodes) (className : String) :
    List.Forall₂ (Matches className)
      (contexts Cpp.Definitions.scopeAfter [className] (Node.visitsAll nodes))
      (contexts Line.tokensAfter [] (Line.ofText source)) := by
  have hnames : ([] : List String).mapM symbolName = .ok [] := rfl
  exact ((spells_of_parse h).matches className rfl hnames).2.2

end Schema

end Accessors
