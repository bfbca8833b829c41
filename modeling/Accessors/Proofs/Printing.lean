import Accessors.Proofs.Outline
import Accessors.Proofs.Relocation
import Accessors.Proofs.Spelling

/-!
Writing a tree as a schema. An address ends in the token that was declared, so the tree has all that is
needed to write its lines again, and the schema that is written has the same tree.

A field that is an array can be declared in two ways, of which the tree does not tell which one was
used. The one that is written gives the same node.
-/

set_option autoImplicit false

namespace Accessors

namespace Node

/-- The token of a node, from its address and what stands there in front of the token. -/
def token (above address : String) : String :=
  String.ofList (address.toList.drop above.toList.length)

/-- Whether `token` is `front[size]`, with `name` the symbol of its front. -/
def hasSize (size name token : String) : Bool :=
  match Declaration.sized? token with
  | some (front, size') => size' == size && decide (symbolName front = .ok name)
  | none => false

/-- The first word of the line of an array: its size is left out if the token has it. -/
def arrayKeyword (kind : Kind) (size name token : String) : String :=
  if hasSize size name token then kind.keyword else kind.keyword ++ "[" ++ size ++ "]"

def declared (keyword token : String) : String := keyword ++ " " ++ token

mutual

def printed (above : String) : Node → List String
  | classDef _ address members =>
    declared "class" (token above address) :: (printedAll (address ++ "/") members ++ ["\x7d"])
  | scalar kind _ address => [declared kind.keyword (token above address)]
  | array kind size name address =>
    [declared (arrayKeyword kind size name (token above address)) (token above address)]

def printedAll (above : String) : List Node → List String
  | [] => []
  | node :: rest => node.printed above ++ printedAll above rest

end

def print (nodes : List Node) : String := String.intercalate "\n" (printedAll Address.root nodes)

theorem token_extend {address above : String}
    (habove : ∀ token, Address.extend address token = above ++ token) (token : String) :
    Node.token above (Address.extend address token) = token := by
  simp [Node.token, habove]

section Printed
variable (above name address size : String) (kind : Kind) (members rest : List Node)

theorem printedAll_classDef :
    printedAll above (.classDef name address members :: rest) =
      declared "class" (token above address) ::
        (printedAll (address ++ "/") members ++ "\x7d" :: printedAll above rest) := by
  simp [printedAll, printed]

theorem printedAll_scalar :
    printedAll above (.scalar kind name address :: rest) =
      declared kind.keyword (token above address) :: printedAll above rest := rfl

theorem printedAll_array :
    printedAll above (.array kind size name address :: rest) =
      declared (arrayKeyword kind size name (token above address)) (token above address) ::
        printedAll above rest := rfl

end Printed

theorem hasSize_iff {size name token : String} :
    hasSize size name token = true ↔
      ∃ front, Declaration.IsSized token front size ∧ symbolName front = .ok name := by
  unfold hasSize
  constructor
  · intro h
    split at h
    · rename_i front size' hsized
      rw [Bool.and_eq_true_iff, beq_iff_eq, decide_eq_true_eq] at h
      obtain ⟨rfl, hname⟩ := h
      exact ⟨front, Declaration.sized?_eq_some_iff.mp hsized, hname⟩
    · exact nomatch h
  · rintro ⟨front, hsized, hname⟩
    rw [Declaration.sized?_eq_some_iff.mpr hsized]
    simp [hname]

end Node

/-- The last piece of a token that has a symbol is not empty. -/
theorem getLast?_of_symbolName {token name : String} (h : symbolName token = .ok name) :
    ∃ c ∈ token.toList.getLast?, c ≠ '/' := by
  obtain ⟨front, back, hcut⟩ := exists_symbolAt h
  have hne : name.toList ++ back.toList ≠ [] := by simp [hcut.ne_empty]
  refine ⟨(name.toList ++ back.toList).getLast hne, ?_, ?_⟩
  · rw [hcut.toList_token, List.getLast?_append_of_ne_nil _ hne, List.getLast?_eq_some_getLast hne]
    rfl
  · intro hslash
    apply hcut.slash_free_piece
    rw [← hslash]
    exact List.getLast_mem hne

theorem Address.exists_extend (parent token : String) :
    ∃ front, extend parent token = front ++ token := by
  unfold extend
  split
  · exact ⟨parent, rfl⟩
  · exact ⟨parent ++ "/", rfl⟩

theorem Address.getLast?_extend {token name : String} (h : symbolName token = .ok name)
    (parent : String) : (extend parent token).toList.getLast? ≠ some '/' := by
  obtain ⟨c, hc, hslash⟩ := getLast?_of_symbolName h
  obtain ⟨front, hfront⟩ := exists_extend parent token
  rw [hfront, String.toList_append, List.getLast?_append, Option.mem_def.mp hc, Option.some_or]
  simpa using hslash

/-- Below a class an address goes on after a separator. -/
theorem Address.extend_of_symbolName {token name : String} (h : symbolName token = .ok name)
    (parent next : String) :
    extend (extend parent token) next = extend parent token ++ "/" ++ next := by
  rw [extend, if_neg (getLast?_extend h parent)]

/-- A text without blanks. -/
structure Word (text : String) : Prop where
  ne_empty : text ≠ ""
  not_blank : ∀ c ∈ text.toList, Text.isBlank c = false

theorem Word.of_mem_tokens {line : Line} {text : String} (h : text ∈ line.tokens) : Word text :=
  ⟨(Line.mem_tokens h).1, (Line.mem_tokens h).2⟩

theorem Word.kind (kind : Kind) : Word kind.keyword := by
  cases kind <;> exact ⟨by decide, by simp [Kind.keyword, Text.isBlank]⟩

theorem Word.words {text : String} (h : Word text) : Text.words text.toList = [text.toList] := by
  rw [Text.words, List.splitOnP_eq_singleton h.not_blank]
  simp [h.ne_empty]

theorem Word.newline_free {text : String} (h : Word text) : '\n' ∉ text.toList :=
  Text.not_mem_of_isBlank (by decide) h.not_blank

/-- A line that is read as it stands. -/
structure Written (text : String) : Prop where
  newline_free : '\n' ∉ text.toList
  trimmed : Text.trim text.toList = text.toList
  logical : Line.isLogical text.toList = true

theorem Text.words_pair {a b : String} (ha : Word a) (hb : Word b) :
    words (Node.declared a b).toList = [a.toList, b.toList] := by
  have htext : (Node.declared a b).toList = a.toList ++ ' ' :: b.toList := by simp [Node.declared]
  rw [htext, words_append_blank _ _ rfl, ha.words, hb.words]
  rfl

theorem Line.tokens_declared {a b : String} (ha : Word a) (hb : Word b) (number : Nat) :
    Line.tokens ⟨number, Node.declared a b⟩ = [a, b] := by
  rw [tokens, Text.words_pair ha hb]
  simp

theorem Written.declared {a b : String} (ha : Word a) (hb : Word b)
    (hhash : a.toList.head? ≠ some '#') : Written (Node.declared a b) := by
  have hleads : Cpp.Leads a := .of_not_blank ha.ne_empty ha.not_blank
  have htrails : Cpp.Trails b := .of_not_blank hb.ne_empty hb.not_blank
  have hspace : '\n' ∉ (" " : String).toList := by decide
  have hstart := (hleads.append hspace).append htrails.newline_free
  have hend := htrails.append (hleads.append hspace).newline_free
  obtain ⟨c, hc, -⟩ := hleads.head
  refine ⟨hstart.newline_free, ?_, ?_⟩
  · exact @Text.trim_append [] _ nofun hstart.head hend.last
  · rw [Option.mem_def.mp hc] at hhash
    simp [Line.isLogical, Node.declared, List.head?_append, Option.mem_def.mp hc, hhash]

theorem Written.brace : Written "\x7d" := ⟨by decide, by decide, by decide⟩

theorem Written.read? {text : String} (h : Written text) (number : Nat) :
    Line.read? text.toList number = some ⟨number, text⟩ := by
  simp [Line.read?, h.trimmed, h.logical]

/-- Written lines are read as they stand, whatever their numbers. -/
theorem Line.forall₂_numbered {texts : List String} (h : ∀ text ∈ texts, Written text)
    (start : Nat) :
    List.Forall₂ (Line.Moved fun _ _ => True) (texts.map (Line.mk 0))
      (Line.numbered start (texts.map String.toList)) := by
  induction texts generalizing start with
  | nil => exact .nil
  | cons text texts ih =>
    obtain ⟨htext, htexts⟩ := List.forall_mem_cons.mp h
    rw [List.map_cons, List.map_cons, Line.numbered_cons, htext.read?]
    exact .cons ⟨rfl, trivial⟩ (ih htexts (start + 1))

theorem Declaration.SpelledBy.declared {keyword token : String} {declaration : Declaration}
    (h : declaration.SpelledBy keyword token) (hkeyword : Word keyword) (htoken : Word token) :
    ofLine ⟨0, Node.declared keyword token⟩ = .ok declaration ∧
      Written (Node.declared keyword token) := by
  refine ⟨ofLine_of_spelledBy (Line.tokens_declared hkeyword htoken 0) h, ?_⟩
  apply Written.declared hkeyword htoken
  intro hhash
  obtain ⟨c, hc, hletter⟩ := h.head_mem
  obtain rfl := Option.mem_unique hhash hc
  exact absurd hletter (by decide)

/-- If the token does not have the size of an array, the first word has it, and is written again. -/
theorem Declaration.SpelledBy.arrayKeyword {keyword token size name t : String} {kind : Kind}
    (h : (Declaration.array kind size name t).SpelledBy keyword token) (hkeyword : Word keyword) :
    (Declaration.array kind size name t).SpelledBy (Node.arrayKeyword kind size name token) token ∧
      Word (Node.arrayKeyword kind size name token) := by
  obtain ⟨rfl, hforms⟩ := h
  by_cases hsize : Node.hasSize size name t = true
  · rw [Node.arrayKeyword, if_pos hsize]
    exact ⟨⟨rfl, .inl ⟨rfl, Node.hasSize_iff.mp hsize⟩⟩, .kind kind⟩
  · rw [Node.arrayKeyword, if_neg hsize]
    rcases hforms with ⟨-, hsized⟩ | ⟨hsized, hname⟩
    · exact absurd (Node.hasSize_iff.mpr hsized) hsize
    · rw [← hsized.eq]
      exact ⟨⟨rfl, .inr ⟨hsized, hname⟩⟩, hkeyword⟩

namespace Schema

theorem exists_words_of_ofLine {line : Line} {declaration : Declaration}
    (h : Declaration.ofLine line = .ok declaration) :
    ∃ keyword token, declaration.SpelledBy keyword token ∧ Word keyword ∧ Word token := by
  obtain ⟨keyword, token, more, htokens, hspelled⟩ := Declaration.spelledBy_of_ofLine h
  have hkeyword : keyword ∈ line.tokens := by simp [htokens]
  have htoken : token ∈ line.tokens := by simp [htokens]
  exact ⟨keyword, token, hspelled, .of_mem_tokens hkeyword, .of_mem_tokens htoken⟩

/-- The printed lines of nodes that some lines spell spell them again. -/
theorem Spells.printed {address above : String} {lines : List Line} {nodes : List Node}
    (h : Spells address lines nodes)
    (habove : ∀ token, Address.extend address token = above ++ token) :
    Spells address ((Node.printedAll above nodes).map (Line.mk 0)) nodes ∧
      ∀ text ∈ Node.printedAll above nodes, Written text := by
  -- What stands before a token is general: at top level it is the root, in a class its address with
  -- a separator.
  induction h generalizing above with
  | nil => exact ⟨.nil, nofun⟩
  | @classDef address name token line close inner lines members nodes hline hinner hclose hrest
      ihInner ihRest =>
    obtain ⟨keyword, token', hspelled, hkeyword, htoken⟩ := exists_words_of_ofLine hline
    obtain ⟨hline', hwritten⟩ := hspelled.declared hkeyword htoken
    obtain ⟨rfl, rfl, hname⟩ := hspelled
    obtain ⟨hspells, htexts⟩ := ihInner (Address.extend_of_symbolName hname address)
    obtain ⟨hspells', htexts'⟩ := ihRest habove
    rw [Node.printedAll_classDef, Node.token_extend habove]
    constructor
    · rw [List.map_cons, List.map_append, List.map_cons]
      exact .classDef hline' hspells rfl hspells'
    · rw [List.forall_mem_cons, List.forall_mem_append, List.forall_mem_cons]
      exact ⟨hwritten, htexts, .brace, htexts'⟩
  | @scalar address name token kind line lines nodes hline hrest ih =>
    obtain ⟨keyword, token', hspelled, hkeyword, htoken⟩ := exists_words_of_ofLine hline
    obtain ⟨hline', hwritten⟩ := hspelled.declared hkeyword htoken
    obtain ⟨rfl, rfl, -⟩ := hspelled
    obtain ⟨hspells, htexts⟩ := ih habove
    rw [Node.printedAll_scalar, Node.token_extend habove]
    exact ⟨.scalar hline' hspells, List.forall_mem_cons.mpr ⟨hwritten, htexts⟩⟩
  | @array address size name token kind line lines nodes hline hrest ih =>
    obtain ⟨keyword, token', hspelled, hkeyword, htoken⟩ := exists_words_of_ofLine hline
    obtain ⟨hspelled', hkeyword'⟩ := hspelled.arrayKeyword hkeyword
    obtain ⟨hline', hwritten⟩ := hspelled'.declared hkeyword' htoken
    obtain ⟨rfl, -⟩ := hspelled
    obtain ⟨hspells, htexts⟩ := ih habove
    rw [Node.printedAll_array, Node.token_extend habove]
    exact ⟨.array hline' hspells, List.forall_mem_cons.mpr ⟨hwritten, htexts⟩⟩

/-- A schema can be written from its tree. -/
theorem parse_print {source : String} {nodes : List Node}
    (h : (parse source).outcome = .ok nodes) :
    (parse (Node.print nodes)).outcome = .ok nodes := by
  have htop : ∀ token, Address.extend Address.root token = Address.root ++ token := fun _ => rfl
  obtain ⟨hspells, hwritten⟩ := (spells_of_parse h).printed htop
  have hrun := Stack.run_of_spells hspells
  have hmoved : Stack.Moved (fun _ _ => True) .start .start := ⟨rfl, .nil⟩
  have hlines := Line.forall₂_numbered hwritten 1
  rw [parse_outcome, Node.print, Line.ofText_intercalate fun text h => (hwritten text h).newline_free]
  exact (hmoved.run hlines).eq_ok hrun

/-- Tokens with several steps and with brackets, and the two forms of an array. The size that a token
already has is not written twice. -/
theorem parse_print_arrays :
    let nodes : List Node :=
      [.classDef "q" "//p/q[0]" [.array .float "9" "a" "//p/q[0]/a[3]",
          .array .int "b/c" "a" "//p/q[0]/a[b/c]", .array .bool "" "e" "//p/q[0]/d[1]/e"],
        .scalar .int "s" "/s"]
    (parse "class /p/q[0]\nfloat[9] a[3]\nint a[b/c]\nbool[] d[1]/e x\n\x7d y\nint s").outcome =
        .ok nodes ∧
      Node.print nodes =
        "class /p/q[0]\nfloat[9] a[3]\nint a[b/c]\nbool[] d[1]/e\n\x7d\nint s" ∧
      (parse (Node.print nodes)).outcome = .ok nodes := by
  intro nodes
  have hparse :
      (parse "class /p/q[0]\nfloat[9] a[3]\nint a[b/c]\nbool[] d[1]/e x\n\x7d y\nint s").outcome =
        .ok nodes := by
    rw [parse_outcome]
    rfl
  exact ⟨hparse, rfl, parse_print hparse⟩

end Schema
end Accessors
