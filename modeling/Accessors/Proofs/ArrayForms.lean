import Accessors.Proofs.Contexts
import Accessors.Proofs.Printing
import Accessors.Proofs.Verdict

/-!
The two forms of an array: the size may stand behind the name or behind the kind. Both forms declare
the same array, but for its address, which keeps the token as it was written. Generated code never
goes to the address of an array, so the files are the same.
-/

set_option autoImplicit false

namespace Accessors

theorem Word.sized {front size : String} (hfront : Word front)
    (hsize : ∀ c ∈ size.toList, Text.isBlank c = false) : Word (front ++ "[" ++ size ++ "]") := by
  refine ⟨fun hempty => ?_, ?_⟩
  · simpa using congrArg String.toList hempty
  · simp only [String.toList_append, List.forall_mem_append]
    exact ⟨⟨⟨hfront.not_blank, by simp [Text.isBlank]⟩, hsize⟩, by simp [Text.isBlank]⟩

/-- What stands on a line around its first two words. -/
structure Spacing where
  left : String
  gap : String
  right : String
  blank : ∀ c ∈ (left ++ gap).toList, Text.isBlank c = true
  gap_ne : gap ≠ ""
  right_blank : ∀ c ∈ right.toList.head?, Text.isBlank c = true
  newline_free : '\n' ∉ (left ++ gap ++ right).toList

namespace Spacing

def line (spacing : Spacing) (keyword token : String) : String :=
  spacing.left ++ keyword ++ spacing.gap ++ token ++ spacing.right

/-- A single space between the two words, and nothing else. -/
def single : Spacing where
  left := ""
  gap := " "
  right := ""
  blank := by simp [Text.isBlank]
  gap_ne := by decide
  right_blank := by simp
  newline_free := by simp

variable (spacing : Spacing) {keyword token : String}

theorem words_line (hkeyword : Word keyword) (htoken : Word token) :
    Text.words (spacing.line keyword token).toList =
      keyword.toList :: token.toList :: Text.words spacing.right.toList := by
  obtain ⟨b, gap, hgap⟩ := List.exists_cons_of_ne_nil
    (mt String.toList_eq_nil_iff.mp spacing.gap_ne)
  have hblank := spacing.blank
  rw [String.toList_append, List.forall_mem_append, hgap, List.forall_mem_cons] at hblank
  obtain ⟨hleft, hb, hrest⟩ := hblank
  have hright : Text.words (token.toList ++ spacing.right.toList) =
      token.toList :: Text.words spacing.right.toList := by
    have hhead := spacing.right_blank
    cases hcs : spacing.right.toList with
    | nil => rw [List.append_nil, htoken.words]; rfl
    | cons c cs =>
      rw [hcs] at hhead
      have hc := hhead c rfl
      rw [Text.words_append_blank _ _ hc, htoken.words, Text.words_cons_blank cs hc]
      rfl
  have htext : (spacing.line keyword token).toList =
      spacing.left.toList ++
        (keyword.toList ++ b :: (gap ++ (token.toList ++ spacing.right.toList))) := by
    simp [line, hgap]
  rw [htext, Text.words_blank_append hleft, Text.words_append_blank _ _ hb, hkeyword.words,
    Text.words_blank_append hrest, hright]
  rfl

theorem newline_free_line (hkeyword : Word keyword) (htoken : Word token) :
    '\n' ∉ (spacing.line keyword token).toList := by
  have hspacing := spacing.newline_free
  simp only [String.toList_append, List.mem_append, not_or] at hspacing
  simp [line, hspacing, hkeyword.newline_free, htoken.newline_free]

end Spacing

namespace Line

/-- A line that starts with a kind is read, and does not close a class. -/
theorem read?_spacing (spacing : Spacing) (kind : Kind) {keyword token : String}
    (hkind : kind.keyword.toList <+: keyword.toList) (hkeyword : Word keyword)
    (htoken : Word token) (number : Nat) :
    ∃ line more, read? (spacing.line keyword token).toList number = some line ∧
      line.closes = false ∧ line.tokens = keyword :: token :: more := by
  have hhead : keyword.toList.head? ≠ some '#' ∧ keyword.toList.head? ≠ some '}' := by
    obtain ⟨ending, hending⟩ := hkind
    rw [← hending]
    cases kind <;> simp [Kind.keyword]
  obtain ⟨line, hread, htokens⟩ :=
    read?_of_words (spacing.words_line hkeyword htoken) hhead.1 number
  simp only [List.map_cons, String.ofList_toList] at htokens
  exact ⟨line, _, hread, not_closes_of_tokens htokens hhead.2, htokens⟩

/-- The lines around one line of a text do not depend on it. -/
theorem ofText_at (before after : List String) :
    ∃ number rest, ∀ line : String, '\n' ∉ line.toList →
      ofText (String.intercalate "\n" (before ++ line :: after)) =
        ofText (String.intercalate "\n" before) ++ ((read? line.toList number).toList ++ rest) := by
  refine ⟨1 + (physical before).length,
    numbered (1 + (physical before).length + 1) (physical after), fun line hline => ?_⟩
  rw [ofText_joined, ofText_joined, physical, List.flatMap_append, List.flatMap_cons,
    List.splitOn_eq_singleton hline, numbered_append, List.singleton_append, numbered_cons]
  rfl

end Line

namespace Node

mutual

/-- A node without the addresses of its arrays. -/
def forget : Node → Node
  | classDef name address members => classDef name address (forgetAll members)
  | scalar kind name address => scalar kind name address
  | array kind size name _ => array kind size name ""

def forgetAll : List Node → List Node
  | [] => []
  | node :: rest => node.forget :: forgetAll rest

end

theorem forgetAll_append (xs ys : List Node) :
    forgetAll (xs ++ ys) = forgetAll xs ++ forgetAll ys := by
  induction xs with
  | nil => rfl
  | cons node xs ih => rw [List.cons_append, forgetAll, ih, forgetAll, List.cons_append]

/-- A walk goes the same way if its visits do not look at members, nor at addresses of arrays. -/
theorem walkAll_forgetAll {m : Type → Type} [Monad m] {visit : Visit → m Unit}
    (henter : ∀ name address members others,
      visit (.enter name address members) = visit (.enter name address others))
    (hleave : ∀ name address members others,
      visit (.leave name address members) = visit (.leave name address others))
    (harray : ∀ kind size name address other,
      visit (.array kind size name address) = visit (.array kind size name other))
    (nodes : List Node) : walkAll visit (forgetAll nodes) = walkAll visit nodes := by
  induction nodes using forest_induction with
  | nil => rfl
  | classDef name address members rest ihMembers ihRest =>
    simp only [forgetAll, forget, walkAll, walk, ihMembers, ihRest]
    rw [henter _ _ (forgetAll members) members, hleave _ _ (forgetAll members) members]
  | scalar kind name address rest ih => simp only [forgetAll, forget, walkAll, walk, ih]
  | array kind size name address rest ih =>
    simp only [forgetAll, forget, walkAll, walk, ih]
    rw [harray kind size name "" address]

end Node

namespace Cpp

theorem checkClassNames_forgetAll (enclosing : String) (nodes : List Node) :
    checkClassNames enclosing (Node.forgetAll nodes) = checkClassNames enclosing nodes := by
  induction nodes using Node.forest_induction generalizing enclosing with
  | nil => rfl
  | classDef name address members rest ihMembers ihRest =>
    simp only [Node.forgetAll, Node.forget, checkClassNames, checkNode, ihMembers, ihRest]
  | scalar kind name address rest ih =>
    simp only [Node.forgetAll, Node.forget, checkClassNames, checkNode, ih]
  | array kind size name address rest ih =>
    simp only [Node.forgetAll, Node.forget, checkClassNames, checkNode, ih]

theorem declarations_forgetAll (settings : Settings) (nodes : List Node) :
    declarations settings (Node.forgetAll nodes) = declarations settings nodes := by
  rw [declarations, Emit.walk, Node.walkAll_forgetAll, declarations, Emit.walk]
  · exact fun _ _ _ _ => rfl
  · exact fun _ _ _ _ => rfl
  · exact fun _ _ _ _ _ => rfl

theorem definitions_forgetAll (settings : Settings) (className : String) (nodes : List Node) :
    definitions settings className (Node.forgetAll nodes) =
      definitions settings className nodes := by
  rw [definitions, Emit.walk, Node.walkAll_forgetAll, definitions, Emit.walk]
  · exact fun _ _ _ _ => rfl
  · exact fun _ _ _ _ => rfl
  · exact fun _ _ _ _ _ => rfl

end Cpp

/-- Trees that differ in the addresses of arrays alone give the same files, or the same fault. -/
theorem generate_of_forget {schema other : String} {nodes others : List Node}
    (h : (Schema.parse schema).outcome = .ok nodes)
    (hother : (Schema.parse other).outcome = .ok others)
    (hforget : Node.forgetAll nodes = Node.forgetAll others) (name : QualifiedName)
    (includeBase : String) (settings : Settings) :
    (generate schema name includeBase settings).outcome =
      (generate other name includeBase settings).outcome := by
  have hcheck : Cpp.checkClassNames name.className nodes =
      Cpp.checkClassNames name.className others := by
    rw [← Cpp.checkClassNames_forgetAll, hforget, Cpp.checkClassNames_forgetAll]
  have hdeclarations : Cpp.declarations settings nodes = Cpp.declarations settings others := by
    rw [← Cpp.declarations_forgetAll, hforget, Cpp.declarations_forgetAll]
  have hdefinitions : Cpp.definitions settings name.className nodes =
      Cpp.definitions settings name.className others := by
    rw [← Cpp.definitions_forgetAll, hforget, Cpp.definitions_forgetAll]
  simp only [generate, Logged.outcome_bind, h, hother, ok_bind, hcheck, hdeclarations, hdefinitions]

theorem Around.forgetAll_plug {node other : Node} (h : node.forget = other.forget)
    (around : Around) :
    Node.forgetAll (around.plug node) = Node.forgetAll (around.plug other) := by
  induction around generalizing node other with
  | top before after =>
    simp only [Around.plug, Node.forgetAll_append, Node.forgetAll, h]
  | inside outer name address before after ih =>
    apply ih
    simp only [Node.forget, Node.forgetAll_append, Node.forgetAll, h]

theorem Address.extend_append (parent token ending : String) :
    extend parent (token ++ ending) = extend parent token ++ ending := by
  unfold extend
  split <;> simp [String.append_assoc]

namespace Schema.Stack

/-- Lines that declare an array alike but for the end of its token give trees that are alike but for
the end of its address, or the same fault. -/
theorem runs_of_forms {front rest : List Line} {line other : Line} {kind : Kind}
    {size token ending : String} (hline : line.closes = false) (hother : other.closes = false)
    (hform : Declaration.ofLine line =
      (.array kind size · (token ++ ending)) <$> symbolName token)
    (hform' : Declaration.ofLine other = (.array kind size · token) <$> symbolName token) :
    (∃ (around : Around) (name address : String),
        start.run (front ++ line :: rest) =
          .ok (around.plug (.array kind size name (address ++ ending))) ∧
        start.run (front ++ other :: rest) = .ok (around.plug (.array kind size name address)) ∧
        around.position = front.countP (!·.closes)) ∨
      ∃ e, start.run (front ++ line :: rest) = .error e ∧
        start.run (front ++ other :: rest) = .error e := by
  rw [run_append, run_append]
  cases hfront : front.foldlM step start with
  | error e => exact .inr ⟨e, rfl, rfl⟩
  | ok s =>
    rw [ok_bind, ok_bind, run_cons, run_cons, step_of_not_closing (by simp [hline]),
      step_of_not_closing (by simp [hother]), hform, hform']
    cases symbolName token with
    | error e => exact .inr ⟨e, rfl, rfl⟩
    | ok name =>
      obtain ⟨r, hrun, hposition⟩ := exists_around s.nodes s.classes rest
      simp only [Except.map_ok, ok_bind, declare]
      rw [hrun, hrun]
      cases r with
      | error e => exact .inr ⟨e, rfl, rfl⟩
      | ok around =>
        refine .inl ⟨around, name, Address.extend s.address token, ?_, rfl, ?_⟩
        · rw [Address.extend_append]
          rfl
        · rw [hposition around rfl, size_of_foldlM hfront]
          exact Nat.zero_add _

end Schema.Stack

open Schema

/-- A schema with a line that starts with a kind is read up to that line, then from it on. What is
read before and after does not depend on the line. -/
theorem Schema.parse_at (before after : List String) (spacing : Spacing) (kind : Kind) :
    ∃ rest, ∀ keyword token, kind.keyword.toList <+: keyword.toList → Word keyword → Word token →
      ∃ line more, line.closes = false ∧ line.tokens = keyword :: token :: more ∧
        (parse (String.intercalate "\n" (before ++ spacing.line keyword token :: after))).outcome =
          Stack.start.run (Line.ofText (String.intercalate "\n" before) ++ line :: rest) := by
  obtain ⟨number, rest, hlines⟩ := Line.ofText_at before after
  refine ⟨rest, fun keyword token hkind hkeyword htoken => ?_⟩
  obtain ⟨line, more, hread, hcloses, htokens⟩ :=
    Line.read?_spacing spacing kind hkind hkeyword htoken number
  refine ⟨line, more, hcloses, htokens, ?_⟩
  rw [parse_outcome, hlines _ (spacing.newline_free_line hkeyword htoken), hread]
  rfl

/-- An array may have its size behind its name or behind its kind, on any line of a schema. The
files are the same, and so is the tree around the array; only the address of the array has the size
in it or not. -/
theorem array_forms_interchange (before after : List String) (spacing : Spacing) (kind : Kind)
    {token size : String} (htoken : Word token)
    (hsize : ∀ c ∈ size.toList, Text.isBlank c = false ∧ Declaration.isBracket c = false) :
    let first := String.intercalate "\n"
      (before ++ spacing.line kind.keyword (token ++ "[" ++ size ++ "]") :: after)
    let second := String.intercalate "\n"
      (before ++ spacing.line (kind.keyword ++ "[" ++ size ++ "]") token :: after)
    (∀ name includeBase settings,
        (generate first name includeBase settings).outcome =
          (generate second name includeBase settings).outcome) ∧
      ((∃ (around : Around) (name address : String),
          (parse first).outcome =
            .ok (around.plug (.array kind size name (address ++ ("[" ++ size ++ "]")))) ∧
          (parse second).outcome = .ok (around.plug (.array kind size name address)) ∧
          around.position = (Line.ofText (String.intercalate "\n" before)).countP (!·.closes)) ∨
        ∃ e, (parse first).outcome = .error e ∧ (parse second).outcome = .error e) := by
  intro first second
  have hblank : ∀ c ∈ size.toList, Text.isBlank c = false := fun c hc => (hsize c hc).1
  have hbracket : ∀ c ∈ size.toList, Declaration.isBracket c = false := fun c hc => (hsize c hc).2
  have hname : Word (token ++ "[" ++ size ++ "]") := htoken.sized hblank
  have hkind : Word (kind.keyword ++ "[" ++ size ++ "]") := (Word.kind kind).sized hblank
  obtain ⟨rest, hparse⟩ := parse_at before after spacing kind
  obtain ⟨line, more, hline, htokens, hfirst⟩ := hparse _ _ List.prefix_rfl (.kind kind) hname
  obtain ⟨other, more', hother, htokens', hsecond⟩ := hparse _ _ (by simp) hkind htoken
  have hform := Declaration.ofLine_of_declares
    (.sizedName htokens ⟨rfl, htoken.ne_empty, hbracket⟩)
  have hform' := Declaration.ofLine_of_declares
    (.sizedKind htokens' ⟨rfl, (Word.kind kind).ne_empty, hbracket⟩)
  have htext : token ++ "[" ++ size ++ "]" = token ++ ("[" ++ size ++ "]") := by
    simp only [String.append_assoc]
  rw [htext] at hform
  rcases Stack.runs_of_forms hline hother hform hform' with
    ⟨around, symbol, address, hrun, hrun', hposition⟩ | ⟨e, hrun, hrun'⟩
  · have htree := hfirst.trans hrun
    have htree' := hsecond.trans hrun'
    refine ⟨generate_of_forget htree htree' ?_,
      .inl ⟨around, symbol, address, htree, htree', hposition⟩⟩
    apply around.forgetAll_plug
    rw [Node.forget, Node.forget]
  · have hfault := hfirst.trans hrun
    have hfault' := hsecond.trans hrun'
    refine ⟨fun name includeBase settings => ?_, .inr ⟨e, hfault, hfault'⟩⟩
    rw [generate_of_parse_error _ _ _ _ hfault, generate_of_parse_error _ _ _ _ hfault']

theorem array_forms_interchange_nested :
    let first := "class p\n\tint a[0]/b[n] # list\n\x7d"
    let second := "class p\n\tint[n] a[0]/b # list\n\x7d"
    Word "a[0]/b" ∧
      (∀ c ∈ "n".toList, Text.isBlank c = false ∧ Declaration.isBracket c = false) ∧
      (∀ name includeBase settings,
        (generate first name includeBase settings).outcome =
          (generate second name includeBase settings).outcome) ∧
      (parse first).outcome =
        .ok [.classDef "p" "/p" [.array .int "n" "b" "/p/a[0]/b[n]"]] ∧
      (parse second).outcome = .ok [.classDef "p" "/p" [.array .int "n" "b" "/p/a[0]/b"]] ∧
      ∀ name includeBase settings,
        (generate "int ][]" name includeBase settings).outcome =
          (generate "int[] ]" name includeBase settings).outcome := by
  have htoken : Word "a[0]/b" := ⟨by decide, by simp [Text.isBlank]⟩
  have hsize : ∀ c ∈ "n".toList, Text.isBlank c = false ∧ Declaration.isBracket c = false := by
    simp [Text.isBlank, Declaration.isBracket]
  have h := array_forms_interchange ["class p"] ["\x7d"]
    ⟨"\t", " ", " # list", by simp [Text.isBlank], by decide, by simp [Text.isBlank], by simp⟩
    .int htoken hsize
  have hunnamed := @array_forms_interchange [] [] .single .int "]" ""
    ⟨by decide, by simp [Text.isBlank]⟩ (by simp)
  refine ⟨htoken, hsize, h.1, ?_, ?_, hunnamed.1⟩
  · rw [parse_outcome]
    rfl
  · rw [parse_outcome]
    rfl

end Accessors
