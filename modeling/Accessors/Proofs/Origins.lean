import Accessors.Proofs.Printing
import Accessors.Proofs.ReadBack
import Accessors.Proofs.Verdict

/-!
The nodes of a tree and the lines they come from. The origin of a node is a line that declares
something, together with the tokens of the class lines that are open there. It determines the
address of the node, its name and, for an array, the size.

A token that names a class never ends in a separator. Below a class, an address is therefore always
extended by a separator and the next token, and only the root, which is a separator itself, is not.
-/

set_option autoImplicit false

namespace Accessors

/-- The declaration of a node that was declared with a token. -/
def Node.declaration (token : String) : Node → Declaration
  | classDef name _ _ => .openClass name token
  | scalar kind name _ => .scalar kind name token
  | array kind size name _ => .array kind size name token

def Node.arraySize? : Node → Option String
  | array _ size _ _ => some size
  | _ => none

/-- The node that is met on a visit for the first time. -/
def Visit.declared? : Visit → Option Node
  | enter name address members => some (.classDef name address members)
  | leave .. => none
  | scalar kind name address => some (.scalar kind name address)
  | array kind size name address => some (.array kind size name address)

theorem Node.name_declaration (token : String) (node : Node) :
    (node.declaration token).name = node.name := by
  cases node <;> rfl

theorem Node.token_declaration (node : Node) (token : String) :
    (node.declaration token).token = token := by
  cases node <;> rfl

theorem Node.filterMap_declared? (enclosing : String) (nodes : List Node) :
    (visitsAll nodes).filterMap Visit.declared? = (preorderAll enclosing nodes).map Prod.snd := by
  induction nodes using forest_induction generalizing enclosing with
  | nil => rfl
  | classDef name address members rest ihMembers ihRest =>
    simp [List.filterMap_cons, preorderAll, preorder, Visit.declared?, ihMembers (typeName name),
      ihRest enclosing]
  | scalar kind name address rest ih =>
    simp [preorderAll, preorder, Visit.declared?, ih enclosing]
  | array kind size name address rest ih =>
    simp [preorderAll, preorder, Visit.declared?, ih enclosing]

/-- The lines that close nothing, with the tokens of the class lines around them. -/
def Line.origins (source : String) : List (List String × Line) :=
  (contexts tokensAfter [] (ofText source)).filter fun origin => !origin.2.closes

theorem Address.foldl_extend {opened names : List String}
    (h : opened.mapM symbolName = .ok names) (token : String) :
    (opened ++ [token]).foldl extend root =
      "/" ++ String.intercalate "/" (opened ++ [token]) := by
  induction opened using List.reverseRecOn generalizing names token with
  | nil => rfl
  | append_singleton opened last ih =>
    obtain ⟨names', name, hnames, hname, -⟩ := mapM_concat_eq_ok_iff.mp h
    have hopened := ih hnames last
    rw [List.foldl_append, List.foldl_cons, List.foldl_nil] at hopened
    have hjoin := @String.intercalate_append_of_ne_nil (opened ++ [last]) [token] "/"
      (by simp) (by simp)
    calc (opened ++ [last] ++ [token]).foldl extend root
      _ = extend (extend (opened.foldl extend root) last) token := by simp
      _ = extend (opened.foldl extend root) last ++ "/" ++ token := extend_of_symbolName hname _ _
      _ = "/" ++ String.intercalate "/" (opened ++ [last]) ++ "/" ++ token := by rw [hopened]
      _ = "/" ++ String.intercalate "/" (opened ++ [last] ++ [token]) := by
        rw [hjoin, String.intercalate_singleton, String.append_assoc, String.append_assoc,
          String.append_assoc]

namespace Schema

/-- Under a class, an address goes on after a separator of its own. -/
def Separates : Node → Prop
  | .classDef _ address _ =>
    address.toList.getLast? ≠ some '/' ∧
      ∀ token, Address.extend address token = address ++ "/" ++ token
  | _ => True

/-- A node as the two words of its line declare it, inside class lines with the given tokens. -/
structure WellFormed (opened : List String) (keyword token : String) (node : Node) : Prop where
  spelled : (node.declaration token).SpelledBy keyword token
  address : node.address = "/" ++ String.intercalate "/" (opened ++ [token])
  separates : Separates node
  name_ne : node.name ≠ ""
  name_word : ∀ c ∈ node.name.toList, Text.isWord c = true
  size : ∀ size ∈ node.arraySize?, ∀ c ∈ size.toList,
    Declaration.isBracket c = false ∧ Text.isBlank c = false

def HasOrigin (node : Node) (origin : List String × Line) : Prop :=
  ∃ keyword token more, origin.2.tokens = keyword :: token :: more ∧
    WellFormed origin.1 keyword token node

theorem size_of_isSized {line : Line} {text front size : String} (htext : text ∈ line.tokens)
    (h : Declaration.IsSized text front size) :
    ∀ c ∈ size.toList, Declaration.isBracket c = false ∧ Text.isBlank c = false := by
  intro c hc
  have hmem : c ∈ text.toList := by
    rw [h.eq]
    simp [hc]
  exact ⟨h.size_free c hc, (Line.mem_tokens htext).2 c hmem⟩

theorem hasOrigin_of_ofLine {node : Node} {opened names : List String} {token : String}
    {line : Line} (hnames : opened.mapM symbolName = .ok names)
    (hline : Declaration.ofLine line = .ok (node.declaration token))
    (haddress : node.address = (opened ++ [token]).foldl Address.extend Address.root) :
    HasOrigin node (opened, line) := by
  obtain ⟨keyword, token', more, htokens, hspelled⟩ := Declaration.spelledBy_of_ofLine hline
  obtain rfl : token = token' := (node.token_declaration token).symm.trans hspelled.token_eq
  obtain ⟨text, hname⟩ := hspelled.exists_symbol
  rw [Node.name_declaration] at hname
  obtain ⟨front, back, hcut⟩ := exists_symbolAt hname
  refine ⟨keyword, token, more, htokens, hspelled, ?_, ?_, hcut.ne_empty, hcut.word, ?_⟩
  · rw [haddress, Address.foldl_extend hnames]
  · cases node with
    | classDef name address members =>
      obtain ⟨-, -, hclass⟩ := hspelled
      obtain rfl : address = Address.extend (opened.foldl Address.extend Address.root) token := by
        simpa [Node.address] using haddress
      exact ⟨Address.getLast?_extend hclass _, Address.extend_of_symbolName hclass _⟩
    | scalar kind name address => trivial
    | array kind size name address => trivial
  · intro size hsize
    cases node with
    | classDef name address members => cases hsize
    | scalar kind name address => cases hsize
    | array kind size' name address =>
      obtain rfl := Option.some.inj hsize
      -- The size is cut from one of the two words.
      have hkeyword : keyword ∈ line.tokens := by simp [htokens]
      have htoken : token ∈ line.tokens := by simp [htokens]
      rcases hspelled.2 with ⟨-, front, hsized, -⟩ | ⟨hsized, -⟩
      · exact size_of_isSized htoken hsized
      · exact size_of_isSized hkeyword hsized

/-- Visits that leave a class and lines that close one have no part in it. -/
theorem Matches.hasOrigin {className : String} {found : List String × Visit}
    {origin : List String × Line} (h : Matches className found origin) :
    Option.Rel HasOrigin found.2.declared? (Option.guard (fun o => !o.2.closes) origin) := by
  cases h with
  | enter hnames hline =>
    rw [Option.guard, Declaration.not_closes_of_ofLine hline]
    exact .some (hasOrigin_of_ofLine hnames hline rfl)
  | leave hnames hclose =>
    rw [Option.guard, hclose]
    exact .none
  | scalar hnames hline =>
    rw [Option.guard, Declaration.not_closes_of_ofLine hline]
    exact .some (hasOrigin_of_ofLine hnames hline rfl)
  | array hnames hline =>
    rw [Option.guard, Declaration.not_closes_of_ofLine hline]
    exact .some (hasOrigin_of_ofLine hnames hline rfl)

/-- Every node of a tree has its origin in the schema, in the same order. -/
theorem parse_wellFormed {source : String} {nodes : List Node}
    (h : (parse source).outcome = .ok nodes) (enclosing : String) :
    (∀ token, Address.extend Address.root token = Address.root ++ token) ∧
      List.Forall₂ (fun found origin => HasOrigin found.2 origin)
        (Node.preorderAll enclosing nodes) (Line.origins source) := by
  refine ⟨fun token => rfl, ?_⟩
  have horigins : List.Forall₂ HasOrigin
      ((contexts Cpp.Definitions.scopeAfter [enclosing] (Node.visitsAll nodes)).filterMap
        (Visit.declared? ∘ Prod.snd))
      ((contexts Line.tokensAfter [] (Line.ofText source)).filterMap
        (Option.guard fun origin => !origin.2.closes)) :=
    List.rel_filterMap (fun _ _ hmatch => hmatch.hasOrigin) (matches_of_parse h enclosing)
  rw [← List.filterMap_map, map_snd_contexts, Node.filterMap_declared? enclosing,
    List.forall₂_map_left_iff, List.filterMap_eq_filter] at horigins
  exact horigins

/-- Tokens of several steps, the two forms of an array, and a class in a class. -/
theorem parse_wellFormed_steps :
    let nodes : List Node :=
      [.classDef "b" "//a/b[0]" [.array .float "3" "c" "//a/b[0]/c[3]",
          .classDef "e" "//a/b[0]/d/e" [.array .int "n" "f" "//a/b[0]/d/e/f"]],
        .scalar .bool "g" "/g"]
    (parse "class /a/b[0]\nfloat c[3]\nclass d/e\nint[n] f\n\x7d\n\x7d\nbool g").outcome = .ok nodes ∧
      List.Forall₂ (fun found origin => HasOrigin found.2 origin) (Node.preorderAll "Doc" nodes)
        (Line.origins "class /a/b[0]\nfloat c[3]\nclass d/e\nint[n] f\n\x7d\n\x7d\nbool g") ∧
      ((Node.preorderAll "Doc" nodes).map fun found => found.2.address) =
        ["//a/b[0]", "//a/b[0]/c[3]", "//a/b[0]/d/e", "//a/b[0]/d/e/f", "/g"] := by
  intro nodes
  have hparse : (parse "class /a/b[0]\nfloat c[3]\nclass d/e\nint[n] f\n\x7d\n\x7d\nbool g").outcome =
      .ok nodes := by
    rw [parse_outcome]
    rfl
  exact ⟨hparse, (parse_wellFormed hparse "Doc").2, rfl⟩

end Schema
end Accessors
