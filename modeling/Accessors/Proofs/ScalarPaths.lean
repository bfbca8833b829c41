import Accessors.Proofs.Spelling

/-!
The accessor of a scalar reads the path that its place in the schema spells. The tokens of the class
lines around it and its own token are all that goes into the path, each of them once and in order.
-/

set_option autoImplicit false

namespace Accessors

theorem forall₂_at {α β : Type} {R : α → β → Prop} {xs xs' : List α} {x : α}
    {ys : List β} (h : List.Forall₂ R (xs ++ x :: xs') ys) :
    ∃ y, ys[xs.length]? = some y ∧ R x y := by
  induction xs generalizing ys with
  | nil =>
    obtain ⟨y, ys, hxy, -, rfl⟩ := List.forall₂_cons_left_iff.mp h
    exact ⟨y, rfl, hxy⟩
  | cons a xs ih =>
    obtain ⟨b, ys, -, hrest, rfl⟩ := List.forall₂_cons_left_iff.mp h
    exact ih hrest

namespace Cpp

theorem subscripts_tokens {tokens : List String} {token path : String}
    (h : subscripts ((tokens ++ [token]).foldl Address.extend Address.root) = .ok path) :
    ∃ paths own, tokens.mapM subscripts = .ok paths ∧ subscripts token = .ok own ∧
      path = String.join paths ++ own := by
  rw [subscripts_foldl, List.mapM_cons, subscripts_root, ok_bind] at h
  obtain ⟨all, hall, rfl⟩ := map_eq_ok_iff.mp h
  obtain ⟨parts, hparts, hall⟩ := bind_eq_ok_iff.mp hall
  obtain ⟨paths, own, hpaths, hown, rfl⟩ := mapM_concat_eq_ok_iff.mp hparts
  obtain rfl := Except.ok.inj hall
  exact ⟨paths, own, hpaths, hown, by simp [String.join_append]⟩

/-- A run that succeeds can be cut at any visit: before it the emitter is in the scope of the visit,
and on it the rows of the visit are written. -/
theorem Definitions.exists_run {settings : Settings} {className text : String}
    {nodes : List Node} (htext : (definitions settings className nodes).outcome = .ok text)
    {earlier later : List Visit} {v : Visit} (hvisit : Node.visitsAll nodes = earlier ++ v :: later) :
    ∃ before after rest,
      (forM earlier (visit settings) : Emit Definitions Unit) (.new settings className) =
        (.ok (), before) ∧
      visit settings v before = (.ok (), after) ∧
      after.out.text = before.out.text ++ Row.textAll settings.indent
        (rows settings 0 (earlier.foldl scopeAfter [className]) v) ∧
      text = after.out.text ++ rest := by
  obtain ⟨hfault, rfl⟩ := no_fault_of_definitions htext
  rw [hvisit, List.forall_mem_append, List.forall_mem_cons] at hfault
  obtain ⟨hearlier, hv, -⟩ := hfault
  have hbefore := foldl_next_out settings (.new settings className) earlier
  refine ⟨earlier.foldl (next settings) (.new settings className),
    next settings (earlier.foldl (next settings) (.new settings className)) v,
    Row.textAll settings.indent
      (rowsAll settings 0 ((earlier ++ [v]).foldl scopeAfter [className]) later),
    (follows settings).forM_of_none _ hearlier, ?_, ?_, ?_⟩
  · rw [follows settings, hv]
  · rw [next_out, hbefore, foldl_next_scope]
    rfl
  · rw [next_out, hbefore, foldl_next_scope, hvisit]
    simp [rowsAll, contexts_append, contexts, new, Writer.new, String.append_assoc]

/-- The scalar that is visited after `earlier` stands on the line at the same place of the schema, and
on its visit the emitter writes a getter for the path that the tokens of the open class lines and
the token of that line spell. -/
def ReadsPath (settings : Settings) (className source text : String) (earlier : List Visit)
    (kind : Kind) (name address : String) : Prop :=
  ∃ (opened : List String) (line : Line) (token : String) (more names : List String)
    (binding : Binding) (paths : List String) (own : String) (before after : Definitions)
    (rest : String),
    (contexts Line.tokensAfter [] (Line.ofText source))[earlier.length]? = some (opened, line) ∧
    line.tokens = kind.keyword :: token :: more ∧
    opened.mapM symbolName = .ok names ∧ symbolName token = .ok name ∧
    settings.bindings kind = some binding ∧
    opened.mapM subscripts = .ok paths ∧ subscripts token = .ok own ∧
    (forM earlier (Definitions.visit settings) : Emit Definitions Unit)
      (.new settings className) = (.ok (), before) ∧
    Definitions.visit settings (.scalar kind name address) before = (.ok (), after) ∧
    after.out.text = before.out.text ++
      (binding.native ++ " " ++ String.intercalate "::" (className :: names.map typeName) ++
        "::get" ++ typeName name ++ "() const \x7b\n" ++
      settings.indent ++ "return (*m_root)" ++ String.join paths ++ own ++ "." ++
        binding.extract ++ "();\n" ++
      "\x7d\n\n") ∧
    text = after.out.text ++ rest

theorem scalar_accessor_reads_path {source className text : String} {settings : Settings}
    {nodes : List Node} (hparse : (Schema.parse source).outcome = .ok nodes)
    (htext : (definitions settings className nodes).outcome = .ok text)
    {earlier later : List Visit} {kind : Kind} {name address : String}
    (hvisit : Node.visitsAll nodes = earlier ++ .scalar kind name address :: later) :
    ReadsPath settings className source text earlier kind name address := by
  have hmatches := Schema.matches_of_parse hparse className
  rw [hvisit, contexts_append, contexts] at hmatches
  obtain ⟨⟨opened, line⟩, hat, hmatch⟩ := forall₂_at hmatches
  rw [contexts_length] at hat
  have hfault := (no_fault_of_definitions htext).1 (.scalar kind name address) (by simp [hvisit])
  obtain ⟨before, after, rest, hbefore, hafter, hwritten, hrest⟩ :=
    Definitions.exists_run htext hvisit
  generalize earlier.foldl Definitions.scopeAfter [className] = scope at hmatch hwritten
  cases hmatch with
  | @scalar _ names _ token _ _ hnames hline =>
    obtain ⟨keyword, token', more, htokens, rfl, rfl, -, hname⟩ :=
      Declaration.spelledBy_of_ofLine hline
    obtain ⟨binding, path, hbinding, hpath⟩ := Definitions.exists_of_scalar hfault
    obtain ⟨paths, own, hpaths, hown, rfl⟩ := subscripts_tokens hpath
    refine ⟨opened, line, token, more, names, binding, paths, own, before, after, rest, hat, htokens,
      hnames, hname, hbinding, hpaths, hown, hbefore, hafter, ?_, hrest⟩
    rw [hwritten, Definitions.rows, hbinding, hpath]
    simp only [Definitions.textAll_getterRows, accessorName, Definitions.body, handleField]
    rw [← String.toList_inj]
    simp

/-- Tokens of several steps on two open class lines, after a class that is closed again. -/
theorem scalar_accessor_reads_path_nested :
    let field := Node.scalar .int "e" "//a/b[0]/c/d[i]/e"
    let inner := Node.classDef "c" "//a/b[0]/c" [field]
    let nodes : List Node := [.classDef "x" "/x" [], .classDef "b" "//a/b[0]" [inner]]
    let text :=
      "Doc::X::X(const ValuePtr &root) : m_root(root) \x7b\n\n\x7d\n\n" ++
      "Doc::X Doc::getX() const \x7b\n\treturn X(m_root);\n\x7d\n\n" ++
      "Doc::B::B(const ValuePtr &root) : m_root(root) \x7b\n\n\x7d\n\n" ++
      "Doc::B::C::C(const ValuePtr &root) : m_root(root) \x7b\n\n\x7d\n\n" ++
      "int Doc::B::C::getE() const \x7b\n" ++
      "\treturn (*m_root)[\"a\"][\"b\"][0][\"c\"][\"d\"][i][\"e\"].asInt();\n\x7d\n\n" ++
      "Doc::B::C Doc::B::getC() const \x7b\n\treturn C(m_root);\n\x7d\n\n" ++
      "Doc::B Doc::getB() const \x7b\n\treturn B(m_root);\n\x7d\n\n"
    (Schema.parse "class x\n\x7d\nclass /a/b[0]\nclass c\nint d[i]/e\n\x7d\n\x7d").outcome = .ok nodes ∧
      (definitions .standard "Doc" nodes).outcome = .ok text ∧
      ReadsPath .standard "Doc" "class x\n\x7d\nclass /a/b[0]\nclass c\nint d[i]/e\n\x7d\n\x7d" text
        [.enter "x" "/x" [], .leave "x" "/x" [], .enter "b" "//a/b[0]" [inner],
          .enter "c" "//a/b[0]/c" [field]]
        .int "e" "//a/b[0]/c/d[i]/e" := by
  intro field inner nodes text
  have hparse : (Schema.parse "class x\n\x7d\nclass /a/b[0]\nclass c\nint d[i]/e\n\x7d\n\x7d").outcome =
      .ok nodes := by
    rw [Schema.parse_outcome]
    rfl
  have htext : (definitions .standard "Doc" nodes).outcome = .ok text := by decide +kernel
  exact ⟨hparse, htext, scalar_accessor_reads_path hparse htext rfl⟩

end Cpp
end Accessors
