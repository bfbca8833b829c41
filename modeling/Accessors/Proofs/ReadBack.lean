import Accessors.Proofs.Outline
import Accessors.Proofs.Spelling

/-!
Reading back what the two emitters write. No name, type, key or index of a schema can end a line or
be taken for another form of line, so the lines of a visit say just what the visit is about.
-/

set_option autoImplicit false

namespace Accessors

namespace Visit

def name : Visit → String
  | enter name _ _ => name
  | leave name _ _ => name
  | scalar _ name _ => name
  | array _ _ name _ => name

def address : Visit → String
  | enter _ address _ => address
  | leave _ address _ => address
  | scalar _ _ address => address
  | array _ _ _ address => address

/-- What a visit brings into a line does not end it. -/
structure Tidy (v : Visit) : Prop where
  plain : Plain v.name
  address : '\n' ∉ v.address.toList

end Visit

theorem Address.newline_free_extend {address token : String} (haddress : '\n' ∉ address.toList)
    (htoken : '\n' ∉ token.toList) : '\n' ∉ (extend address token).toList := by
  unfold extend
  split <;> simp [haddress, htoken]

namespace Declaration

def name : Declaration → String
  | openClass name _ => name
  | scalar _ name _ => name
  | array _ _ name _ => name

def token : Declaration → String
  | openClass _ token => token
  | scalar _ _ token => token
  | array _ _ _ token => token

theorem SpelledBy.token_eq {keyword token : String} {declaration : Declaration}
    (h : declaration.SpelledBy keyword token) : declaration.token = token := by
  cases declaration with
  | openClass name t => exact h.1
  | scalar kind name t => exact h.1
  | array kind size name t => exact h.1

theorem SpelledBy.exists_symbol {keyword token : String} {declaration : Declaration}
    (h : declaration.SpelledBy keyword token) :
    ∃ text, symbolName text = .ok declaration.name := by
  cases declaration with
  | openClass name t => exact ⟨token, h.2.2⟩
  | scalar kind name t => exact ⟨token, h.2.2.2⟩
  | array kind size name t =>
    rcases h.2 with ⟨-, front, -, hname⟩ | ⟨-, hname⟩
    · exact ⟨front, hname⟩
    · exact ⟨token, hname⟩

theorem tidy_of_ofLine {line : Line} {declaration : Declaration}
    (h : ofLine line = .ok declaration) :
    Plain declaration.name ∧ '\n' ∉ declaration.token.toList := by
  obtain ⟨keyword, token, more, htokens, hspelled⟩ := spelledBy_of_ofLine h
  obtain ⟨text, hname⟩ := hspelled.exists_symbol
  have hmem : declaration.token ∈ line.tokens := by simp [htokens, hspelled.token_eq]
  exact ⟨.of_symbolName hname, Text.not_mem_of_isBlank rfl (Line.mem_tokens hmem).2⟩

end Declaration

theorem Schema.Spells.tidy {address : String} {lines : List Line} {nodes : List Node}
    (h : Spells address lines nodes) (haddress : '\n' ∉ address.toList) :
    ∀ v ∈ Node.visitsAll nodes, v.Tidy := by
  induction h with
  | nil => exact nofun
  | classDef hline hinner hclose hrest ihInner ihRest =>
    obtain ⟨hname, htoken⟩ := Declaration.tidy_of_ofLine hline
    have hextend := Address.newline_free_extend haddress htoken
    rw [Node.visitsAll_classDef, List.forall_mem_cons, List.forall_mem_append,
      List.forall_mem_cons]
    exact ⟨⟨hname, hextend⟩, ihInner hextend, ⟨hname, hextend⟩, ihRest haddress⟩
  | scalar hline hrest ih =>
    obtain ⟨hname, htoken⟩ := Declaration.tidy_of_ofLine hline
    rw [Node.visitsAll_scalar, List.forall_mem_cons]
    exact ⟨⟨hname, Address.newline_free_extend haddress htoken⟩, ih haddress⟩
  | array hline hrest ih =>
    obtain ⟨hname, htoken⟩ := Declaration.tidy_of_ofLine hline
    rw [Node.visitsAll_array, List.forall_mem_cons]
    exact ⟨⟨hname, Address.newline_free_extend haddress htoken⟩, ih haddress⟩

/-- Settings that keep every row on one line and let it start with its own first character. -/
structure Settings.Readable (settings : Settings) : Prop where
  indent : ∀ c ∈ settings.indent.toList, Text.isBlank c = true ∧ c ≠ '\n'
  native : ∀ kind binding, settings.bindings kind = some binding → Cpp.Leads binding.native
  extract : ∀ kind binding, settings.bindings kind = some binding →
    '\n' ∉ binding.extract.toList

theorem Settings.Readable.newline_free {settings : Settings} (h : settings.Readable) :
    '\n' ∉ settings.indent.toList := fun hmem => (h.indent _ hmem).2 rfl

theorem Settings.standard_readable : Settings.standard.Readable where
  indent := by simp [standard, Text.isBlank]
  native := by
    intro kind binding h
    cases kind <;> obtain rfl := Option.some.inj h <;> decide
  extract := by
    intro kind binding h
    cases kind <;> obtain rfl := Option.some.inj h <;> decide

namespace Cpp

/-- Reads a row that has lost its indentation. -/
def HeaderLine.ofRow? (row : Row) : Option HeaderLine := ofLine? row.content

namespace Declarations

/-- What the rows of a visit say. -/
def statements (settings : Settings) : Visit → List HeaderLine
  | .enter name _ _ => [.opens (typeName name), .constructor (typeName name)]
  | .leave name _ _ => [.closes, .getter (typeName name) (accessorName name)]
  | .scalar kind name _ =>
    (settings.bindings kind).toList.map fun binding => .getter binding.native (accessorName name)
  | .array kind _ name _ =>
    (settings.bindings kind).toList.map fun binding =>
      .getter (binding.native ++ "*") (accessorName name)

theorem tidy_getterRow {type name : String} (level : Nat) (htype : Leads type)
    (hname : Plain name) : (getterRow level type name).Tidy :=
  Row.tidy_append level ((htype.append (by decide)).append hname.accessorName.newline_free)
    (by decide)

theorem tidy_rows {settings : Settings} (hsettings : settings.Readable) {v : Visit} (hv : v.Tidy)
    (level : Nat) : ∀ row ∈ rows settings level v, row.Tidy := by
  cases v with
  | enter name address members =>
    have htype : Plain (typeName name) := hv.plain.typeName
    have hnewline := htype.newline_free
    have hleads := Leads.of_plain htype
    have hclass : Leads ("class " ++ typeName name) := .append (by decide) hnewline
    have hcopy : Leads (typeName name ++ "(const " ++ typeName name) :=
      (hleads.append (by decide)).append hnewline
    have hroot : Leads (typeName name ++ "(const " ++ handleType) :=
      (hleads.append (by decide)).append (by decide)
    simp only [rows, List.forall_mem_cons, List.not_mem_nil, false_implies, implies_true, and_true]
    exact ⟨trivial, Row.tidy_append _ hclass (by decide), ⟨by decide, by decide⟩,
      Row.tidy_append _ hleads (by decide), Row.tidy_append _ hcopy (by decide),
      Row.tidy_append _ hroot (by decide), trivial⟩
  | leave name address members =>
    have hgetter := tidy_getterRow (level - 1) (.of_plain hv.plain.typeName) hv.plain
    simp only [rows, List.forall_mem_cons, List.not_mem_nil, false_implies, implies_true, and_true]
    exact ⟨⟨by decide, by decide⟩, ⟨by decide, by decide⟩, ⟨by decide, by decide⟩, hgetter⟩
  | scalar kind name address =>
    simp only [rows, List.forall_mem_map, Option.mem_toList]
    intro binding hbinding
    exact tidy_getterRow level (hsettings.native kind binding hbinding) hv.plain
  | array kind size name address =>
    simp only [rows, List.forall_mem_map, Option.mem_toList]
    intro binding hbinding
    have htype := (hsettings.native kind binding hbinding).append (t := "*") (by decide)
    exact tidy_getterRow level htype hv.plain

theorem ofRow?_getterRow {name : String} (level : Nat) (type : String) (hname : Plain name) :
    HeaderLine.ofRow? (getterRow level type name) = some (.getter type (accessorName name)) :=
  HeaderLine.ofLine?_getter type hname.accessorName.space_free (accessorName_get name)

theorem filterMap_rows (settings : Settings) {v : Visit} (hv : v.Tidy) (level : Nat) :
    (rows settings level v).filterMap HeaderLine.ofRow? = statements settings v := by
  have hblank : HeaderLine.ofRow? .blank = none := rfl
  cases v with
  | enter name address members =>
    have htype : Plain (typeName name) := hv.plain.typeName
    have hopens : HeaderLine.ofRow? (.code level ("class " ++ typeName name ++ " \x7b")) =
        some (.opens (typeName name)) := HeaderLine.ofLine?_opens htype
    have hpublic : HeaderLine.ofRow? (.code level "public:") = none := rfl
    have hdefault : HeaderLine.ofRow? (.code (level + 1) (typeName name ++ "() = default;")) =
        none := HeaderLine.ofLine?_eq_none (by decide)
    have hcopy : HeaderLine.ofRow? (.code (level + 1)
        (typeName name ++ "(const " ++ typeName name ++ "& other) = default;")) = none :=
      HeaderLine.ofLine?_eq_none (by decide)
    have hroot : HeaderLine.ofRow? (.code (level + 1)
        (typeName name ++ "(const " ++ handleType ++ " &root);")) =
          some (.constructor (typeName name)) := by
      rw [String.append_assoc, String.append_assoc]
      exact HeaderLine.ofLine?_constructor htype
    simp only [rows, statements, List.filterMap_cons, List.filterMap_nil, hblank, hopens, hpublic,
      hdefault, hcopy, hroot]
  | leave name address members =>
    have hname : Plain name := hv.plain
    have hprivate : HeaderLine.ofRow? (.code (level - 1) "private:") = none := rfl
    have hfield : HeaderLine.ofRow? (.code (level - 1 + 1)
        (handleType ++ " " ++ handleField ++ ";")) = none := rfl
    have hcloses : HeaderLine.ofRow? (.code (level - 1) "\x7d;") = some .closes := rfl
    simp only [rows, statements, List.filterMap_cons, List.filterMap_nil, hprivate, hfield,
      hcloses, ofRow?_getterRow (level - 1) (typeName name) hname]
  | scalar kind name address =>
    have hname : Plain name := hv.plain
    cases hbinding : settings.bindings kind <;>
      simp [rows, statements, hbinding, ofRow?_getterRow level _ hname]
  | array kind size name address =>
    have hname : Plain name := hv.plain
    cases hbinding : settings.bindings kind <;>
      simp [rows, statements, hbinding, ofRow?_getterRow level _ hname]

/-- The lines of declarations say what their visits say, at whatever level these are met. -/
theorem filterMap_lines {settings : Settings} (hsettings : settings.Readable) {vs : List Visit}
    (hvs : ∀ v ∈ vs, v.Tidy) (level : Nat) :
    ((Text.lines (Row.textAll settings.indent (rowsAll settings level vs)).toList).filterMap
      fun line => HeaderLine.ofLine? (Text.trim line)) = vs.flatMap (statements settings) := by
  have hblank : ∀ c ∈ settings.indent.toList, Text.isBlank c = true :=
    fun c hc => (hsettings.indent c hc).1
  have htidy : ∀ p ∈ contexts levelAfter level vs, ∀ row ∈ rows settings p.1 p.2, row.Tidy :=
    fun p hp => tidy_rows hsettings (hvs p.2 (mem_of_mem_contexts levelAfter hp)) p.1
  have hread : ∀ p ∈ contexts levelAfter level vs,
      ((rows settings p.1 p.2).filterMap fun row =>
        HeaderLine.ofLine? (Text.trim (row.line settings.indent))) = statements settings p.2 := by
    intro p hp
    rw [← filterMap_rows settings (hvs p.2 (mem_of_mem_contexts levelAfter hp)) p.1]
    refine List.filterMap_congr fun row hrow => ?_
    rw [(htidy p hp row hrow).trim_line hblank, HeaderLine.ofRow?]
  calc
    _ = (contexts levelAfter level vs).flatMap fun p => statements settings p.2 :=
      Row.filterMap_lines hsettings.newline_free htidy hread
    _ = vs.flatMap (statements settings) := by
      rw [← List.flatMap_map, map_snd_contexts]

end Declarations

namespace Definitions

/-- What the rows of a visit define in some scope. -/
def entries (settings : Settings) (scope : List String) : Visit → List Entry
  | .enter name _ _ =>
    [.constructor (String.intercalate "::" (scope ++ [typeName name])) (typeName name)]
  | .leave name _ _ =>
    let owner := String.intercalate "::" scope.dropLast
    [.getter ⟨owner ++ "::" ++ typeName name, owner, accessorName name⟩]
  | .scalar kind name _ =>
    (settings.bindings kind).toList.map fun binding =>
      .getter ⟨binding.native, String.intercalate "::" scope, accessorName name⟩
  | .array .. => []

theorem leads_qualified {scope : List String} (h : ∀ type ∈ scope, Plain type) :
    Leads (String.intercalate "::" scope ++ "::") := by
  refine .of_not_blank (by simp) ?_
  simp only [String.toList_append, List.forall_mem_append]
  exact ⟨not_blank_qualified h, not_blank_colons⟩

section Getters
variable {scope : List String} {type name value : String}

theorem tidy_getterRows (htype : Leads type) (hscope : ∀ type ∈ scope, Plain type)
    (hname : Plain name) (hvalue : '\n' ∉ value.toList) :
    ∀ row ∈ getterRows 0 scope type name value, row.Tidy := by
  have hqualified : '\n' ∉ (String.intercalate "::" scope).toList :=
    Text.not_mem_of_isBlank rfl (not_blank_qualified hscope)
  have hheading : Leads (type ++ " " ++ String.intercalate "::" scope ++ "::" ++
      accessorName name) :=
    (((htype.append (by decide)).append hqualified).append (by decide)).append
      hname.accessorName.newline_free
  have hreturn : Leads ("return " ++ value) := .append (by decide) hvalue
  simp only [getterRows, List.forall_mem_cons, List.not_mem_nil, false_implies, implies_true,
    and_true]
  exact ⟨Row.tidy_append _ hheading (by decide), Row.tidy_append _ hreturn (by decide),
    ⟨by decide, by decide⟩, trivial⟩

theorem filterMap_getterRows (unit : String) (hscope : ∀ type ∈ scope, Plain type)
    (hname : Plain name) :
    (getterRows 0 scope type name value).filterMap (fun row => Entry.ofLine? (row.line unit)) =
      [.getter ⟨type, String.intercalate "::" scope, accessorName name⟩] := by
  have hheading : Entry.ofLine? ((Row.code 0 (type ++ " " ++ String.intercalate "::" scope ++
      "::" ++ accessorName name ++ "() const \x7b")).line unit) =
        some (.getter ⟨type, String.intercalate "::" scope, accessorName name⟩) := by
    have hspace : ' ' ∉ (String.intercalate "::" scope).toList :=
      Text.not_mem_of_isBlank rfl (not_blank_qualified hscope)
    rw [← Entry.ofLine?_getter type hspace hname.accessorName.space_free
      hname.accessorName.colon_free (accessorName_get name)]
    simp [Row.line, Writer.copies, String.append_assoc]
  have hreturn : Entry.ofLine? ((Row.code 1 ("return " ++ value ++ ";")).line unit) = none := by
    rw [Row.line, ← String.append_assoc]
    exact Entry.ofLine?_eq_none (by decide) _
  have hbrace : Entry.ofLine? ((Row.code 0 "\x7d").line unit) = none :=
    Entry.ofLine?_eq_none (by decide) _
  have hblank : Entry.ofLine? (Row.blank.line unit) = none := rfl
  simp only [getterRows, List.filterMap_cons, List.filterMap_nil, hheading, Nat.zero_add, hreturn,
    hbrace, hblank]

end Getters

theorem newline_free_body {binding : Binding} {address path : String}
    (hextract : '\n' ∉ binding.extract.toList) (haddress : '\n' ∉ address.toList)
    (hpath : subscripts address = .ok path) : '\n' ∉ (body binding path).toList := by
  have hfree : '\n' ∉ path.toList := by
    intro hmem
    rcases mem_subscripts hpath hmem with h | h
    · exact haddress h
    · exact absurd h (by decide)
  simp [body, handleField, hfree, hextract]

theorem tidy_rows {settings : Settings} (hsettings : settings.Readable) {v : Visit} (hv : v.Tidy)
    (hfault : fault settings v = none) {scope : List String}
    (hscope : ∀ type ∈ scope, Plain type) : ∀ row ∈ rows settings 0 scope v, row.Tidy := by
  cases v with
  | enter name address members =>
    have htype : Plain (typeName name) := hv.plain.typeName
    have hleads := leads_qualified (List.forall_mem_append.mpr
      ⟨hscope, List.forall_mem_singleton.mpr htype⟩)
    have hheading : Leads (String.intercalate "::" (scope ++ [typeName name]) ++ "::" ++
        typeName name ++ "(const " ++ handleType ++ " &root) : " ++ handleField) :=
      ((((hleads.append htype.newline_free).append (by decide)).append (by decide)).append
        (by decide)).append (by decide)
    simp only [rows, List.forall_mem_cons, List.not_mem_nil, false_implies, implies_true, and_true]
    exact ⟨Row.tidy_append _ hheading (by decide), trivial, ⟨by decide, by decide⟩, trivial⟩
  | leave name address members =>
    have htype : Plain (typeName name) := hv.plain.typeName
    -- The getter of a class belongs to the scope around it.
    have houter : ∀ type ∈ scope.dropLast, Plain type :=
      fun type h => hscope type (List.dropLast_subset scope h)
    apply tidy_getterRows ((leads_qualified houter).append htype.newline_free) houter hv.plain
    simp [handleField, htype.newline_free]
  | scalar kind name address =>
    have hname : Plain name := hv.plain
    have haddress : '\n' ∉ address.toList := hv.address
    obtain ⟨binding, path, hbinding, hpath⟩ := exists_of_scalar hfault
    have hvalue := newline_free_body (hsettings.extract kind binding hbinding) haddress hpath
    simp only [rows, hbinding, hpath]
    exact tidy_getterRows (hsettings.native kind binding hbinding) hscope hname hvalue
  | array kind size name address =>
    intro row hrow
    cases hrow

theorem filterMap_rows {settings : Settings} {v : Visit} (hv : v.Tidy)
    (hfault : fault settings v = none) {scope : List String}
    (hscope : ∀ type ∈ scope, Plain type) :
    (rows settings 0 scope v).filterMap (fun row => Entry.ofLine? (row.line settings.indent)) =
      entries settings scope v := by
  cases v with
  | enter name address members =>
    have htype : Plain (typeName name) := hv.plain.typeName
    have hheading : Entry.ofLine? ((Row.code 0 (String.intercalate "::" (scope ++ [typeName name]) ++
        "::" ++ typeName name ++ "(const " ++ handleType ++ " &root) : " ++ handleField ++
        "(root) \x7b")).line settings.indent) =
          some (.constructor (String.intercalate "::" (scope ++ [typeName name]))
            (typeName name)) := by
      rw [← Entry.ofLine?_constructor _ htype.colon_free]
      simp [Row.line, Writer.copies, handleType, handleField, String.append_assoc]
    have hbrace : Entry.ofLine? ((Row.code 0 "\x7d").line settings.indent) = none :=
      Entry.ofLine?_eq_none (by decide) _
    have hblank : Entry.ofLine? (Row.blank.line settings.indent) = none := rfl
    simp only [rows, entries, List.filterMap_cons, List.filterMap_nil, hheading, hbrace, hblank]
  | leave name address members =>
    have houter : ∀ type ∈ scope.dropLast, Plain type :=
      fun type h => hscope type (List.dropLast_subset scope h)
    exact filterMap_getterRows settings.indent houter hv.plain
  | scalar kind name address =>
    obtain ⟨binding, path, hbinding, hpath⟩ := exists_of_scalar hfault
    simp only [rows, entries, hbinding, hpath, Option.toList_some, List.map_cons, List.map_nil]
    exact filterMap_getterRows settings.indent hscope hv.plain
  | array kind size name address => rfl

theorem plain_scopeAfter {v : Visit} (hv : v.Tidy) {scope : List String}
    (hscope : ∀ type ∈ scope, Plain type) : ∀ type ∈ scopeAfter scope v, Plain type := by
  cases v with
  | enter name address members =>
    exact List.forall_mem_append.mpr ⟨hscope, List.forall_mem_singleton.mpr hv.plain.typeName⟩
  | leave name address members => exact fun type h => hscope type (List.dropLast_subset scope h)
  | scalar kind name address => exact hscope
  | array kind size name address => exact hscope

/-- The lines of definitions define what their visits define, each in its own scope. -/
theorem filterMap_lines {settings : Settings} (hsettings : settings.Readable) {vs : List Visit}
    (hvs : ∀ v ∈ vs, v.Tidy) (hfault : ∀ v ∈ vs, fault settings v = none) {scope : List String}
    (hscope : ∀ type ∈ scope, Plain type) :
    Entry.ofText (Row.textAll settings.indent (rowsAll settings 0 scope vs)) =
      (contexts scopeAfter scope vs).flatMap fun p => entries settings p.1 p.2 := by
  have hplain : ∀ p ∈ contexts scopeAfter scope vs, ∀ type ∈ p.1, Plain type :=
    forall_mem_contexts (P := fun scope => ∀ type ∈ scope, Plain type) scopeAfter hscope
      fun v hv _ => plain_scopeAfter (hvs v hv)
  have hmem : ∀ p ∈ contexts scopeAfter scope vs, p.2 ∈ vs :=
    fun p hp => mem_of_mem_contexts scopeAfter hp
  refine Row.filterMap_lines hsettings.newline_free (fun p hp => ?_) fun p hp => ?_
  · exact tidy_rows hsettings (hvs p.2 (hmem p hp)) (hfault p.2 (hmem p hp)) (hplain p hp)
  · exact filterMap_rows (hvs p.2 (hmem p hp)) (hfault p.2 (hmem p hp)) (hplain p hp)

end Definitions

end Cpp

end Accessors
