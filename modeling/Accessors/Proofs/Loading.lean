import Accessors.Proofs.PrintedValues
import Accessors.Proofs.Reader
import Accessors.Proofs.SettingsForms

/-!
Loading settings. What a text gives takes the place of the standard settings as a whole and is never
merged with them; the last binding of a kind counts. A text that writes no settings does not load.
-/

set_option autoImplicit false

namespace Accessors.Settings

open Json

/-- A text loads as the settings that its value writes, and not at all if it writes none. -/
theorem load_eq_ok_iff {source : String} {settings : Settings} :
    load source = .ok settings ↔ ∃ v indent entries, WritesSettings indent entries v ∧
      settings = ofGiven indent entries ∧ v.Writes source.toList := by
  unfold load
  constructor
  · intro h
    obtain ⟨⟨settings', d⟩, hread, h⟩ := bind_eq_ok_iff.mp h
    dsimp only at h
    split at h
    · rename_i hempty
      obtain rfl := Except.ok.inj h
      obtain ⟨v, indent, entries, hwrites, hsettings, hv⟩ :=
        gives_readSettings_iff.mp ⟨d, hread, rfl⟩
      have hend := d.1.spaced_skipSpaces
      rw [List.isEmpty_iff.mp hempty] at hend
      exact ⟨v, indent, entries, hwrites, hsettings, _, _,
        (Cursor.start source).spaced_skipSpaces, hv, hend⟩
    · cases h
  · rintro ⟨v, indent, entries, hwrites, rfl, cs, rest, hspace, hv, hend⟩
    have hv' := hv.skipSpaces (c := .start source) hspace
    obtain ⟨d, hd, rfl⟩ := gives_readSettings_iff.mpr ⟨v, indent, entries, hwrites, rfl, hv'⟩
    have hempty : d.1.skipSpaces.rest = [] := by
      rw [Cursor.rest_skipSpaces]
      exact hend.dropWhile (by simp)
    rw [hd]
    simp [hempty]

/-- Settings hold what is given, and what is standard only where a whole field is not given. -/
structure Replaced (indent : Option String) (entries : Option (List (Kind × Binding)))
    (settings : Settings) : Prop where
  indent_eq : settings.indent = indent.getD "\t"
  standard : entries = none → settings.bindings = standardBindings
  last : ∀ before kind binding behind, entries = some (before ++ (kind, binding) :: behind) →
    kind ∉ behind.map (·.1) → settings.binding kind = .ok binding
  unlisted : ∀ listed kind, entries = some listed →
    (settings.binding kind = .error (.unbound kind) ↔ kind ∉ listed.map (·.1))

theorem table_eq_none_iff {entries : List (Kind × Binding)} {kind : Kind} :
    table entries kind = none ↔ kind ∉ entries.map (·.1) := by
  rw [table, List.lookup_eq_none_iff]
  constructor
  · intro h hkind
    obtain ⟨entry, hentry, rfl⟩ := List.mem_map.mp hkind
    simpa using h entry (List.mem_reverse.mpr hentry)
  · intro h entry hentry
    rw [bne_iff_ne]
    rintro rfl
    exact h (List.mem_map.mpr ⟨entry, List.mem_reverse.mp hentry, rfl⟩)

theorem table_append_cons {before behind : List (Kind × Binding)} {kind : Kind}
    {binding : Binding} (h : kind ∉ behind.map (·.1)) :
    table (before ++ (kind, binding) :: behind) kind = some binding := by
  have hbehind := table_eq_none_iff.mpr h
  rw [table] at hbehind ⊢
  simp [List.lookup_append, hbehind]

theorem replaced_ofGiven (indent : Option String) (entries : Option (List (Kind × Binding))) :
    Replaced indent entries (ofGiven indent entries) where
  indent_eq := rfl
  standard := by
    rintro rfl
    rfl
  last := by
    rintro before kind binding behind rfl hkind
    simp [ofGiven, ofFields, Settings.binding, table_append_cons hkind]
  unlisted := by
    rintro listed kind rfl
    rw [← table_eq_none_iff]
    cases htable : table listed kind <;> simp [ofGiven, ofFields, Settings.binding, htable]

/-- A member has a name that is none of these. -/
def Foreign (names : List String) (members : List (List Char × Value)) : Prop :=
  ∃ member ∈ members, ∀ name ∈ names, ¬ Literal.Means member.1 name.toList

/-- The members of a table of bindings in the value of settings. -/
inductive HasTable (table : List (List Char × Value)) : Value → Prop where
  | member {key : List Char} {members : List (List Char × Value)}
      (hkey : Literal.Means key "scalars".toList) (h : (key, .object table) ∈ members) :
      HasTable table (.object members)
  | item {first : Value} : HasTable table (.list [first, .object table])

theorem Entries.not_foreign {entries : List (Kind × Binding)} {members : List (List Char × Value)}
    (h : Entries entries members) : ¬ Foreign (Kind.all.map Kind.keyword) members := by
  rintro ⟨member, hmember, hforeign⟩
  induction h with
  | nil => cases hmember
  | @cons key kind binding v entries members hkey _ _ ih =>
    rcases List.mem_cons.mp hmember with rfl | hmember
    · exact hforeign kind.keyword (List.mem_map.mpr ⟨kind, by cases kind <;> decide, rfl⟩) hkey
    · exact ih hmember

theorem Fields.not_foreign {indent : Option String} {entries : Option (List (Kind × Binding))}
    {members : List (List Char × Value)} (h : Fields indent entries members) :
    ¬ Foreign ["indent", "scalars"] members := by
  rintro ⟨member, hmember, hforeign⟩
  induction h with
  | none => cases hmember
  | indent hkey _ _ ih =>
    rcases List.mem_cons.mp hmember with rfl | hmember
    · exact hforeign "indent" (by simp) hkey
    · exact ih hmember
  | scalars hkey _ _ ih =>
    rcases List.mem_cons.mp hmember with rfl | hmember
    · exact hforeign "scalars" (by simp) hkey
    · exact ih hmember

theorem Fields.entries_of_mem {indent : Option String} {entries : Option (List (Kind × Binding))}
    {members table : List (List Char × Value)} {key : List Char} (h : Fields indent entries members)
    (hmem : (key, .object table) ∈ members) : ∃ listed, Entries listed table := by
  induction h with
  | none => cases hmem
  | indent _ _ _ ih =>
    rcases List.mem_cons.mp hmem with heq | hmem
    · cases heq
    · exact ih hmem
  | scalars _ htable _ ih =>
    rcases List.mem_cons.mp hmem with heq | hmem
    · cases heq
      exact ⟨_, htable⟩
    · exact ih hmem

theorem WritesSettings.entries_of_hasTable {indent : Option String}
    {entries : Option (List (Kind × Binding))} {v : Value} {table : List (List Char × Value)}
    (h : WritesSettings indent entries v) (htable : HasTable table v) :
    ∃ listed, Entries listed table := by
  cases htable with
  | member _ hmem =>
    cases h with
    | object hfields => exact hfields.entries_of_mem hmem
  | item =>
    cases h with
    | scalars _ hentries => exact ⟨_, hentries⟩

/-- A text that writes settings in any form loads as them, and nothing is merged into what it gives.
A text with a field or a kind that there is not does not load. -/
theorem load_replaces {source : String} {v : Value} (hv : v.Writes source.toList) :
    (∀ indent entries, WritesSettings indent entries v →
      ∃ settings, load source = .ok settings ∧ Replaced indent entries settings) ∧
    (∀ settings, load source = .ok settings →
      ∃ indent entries, WritesSettings indent entries v ∧ Replaced indent entries settings) ∧
    (∀ members, v = .object members → Foreign ["indent", "scalars"] members →
      ∀ settings, load source ≠ .ok settings) ∧
    (∀ table, HasTable table v → Foreign (Kind.all.map Kind.keyword) table →
      ∀ settings, load source ≠ .ok settings) := by
  have hwrites : ∀ settings, load source = .ok settings →
      ∃ indent entries, WritesSettings indent entries v ∧ Replaced indent entries settings := by
    intro settings h
    obtain ⟨w, indent, entries, hwrites, rfl, hw⟩ := load_eq_ok_iff.mp h
    obtain rfl := hw.unique hv
    exact ⟨indent, entries, hwrites, replaced_ofGiven indent entries⟩
  refine ⟨?_, hwrites, ?_, ?_⟩
  · intro indent entries h
    exact ⟨_, load_eq_ok_iff.mpr ⟨v, indent, entries, h, rfl, hv⟩, replaced_ofGiven indent entries⟩
  · rintro members rfl hforeign settings h
    obtain ⟨indent, entries, hwrites, -⟩ := hwrites settings h
    cases hwrites with
    | object hfields => exact hfields.not_foreign hforeign
  · intro table htable hforeign settings h
    obtain ⟨indent, entries, hwrites, -⟩ := hwrites settings h
    obtain ⟨listed, hlisted⟩ := hwrites.entries_of_hasTable htable
    exact hlisted.not_foreign hforeign

/-- One kind is bound twice, in both forms, and the second time with a field that does not count. -/
def boundTwice : String :=
  Layout.object 0 [("scalars", Layout.object 1 [
    ("int", Layout.list 2 [Layout.text "i", Layout.text "a"]),
    ("int", Layout.object 2 [("x", Layout.list 3 []), ("extract", Layout.text "b"),
      ("native", Layout.text "j")])])]

theorem load_replaces_boundTwice : ∃ settings, load boundTwice = .ok settings ∧
    Replaced none (some [(.int, ⟨"i", "a"⟩), (.int, ⟨"j", "b"⟩)]) settings := by
  have hprints : Value.Prints (.fields [("scalars", .fields [
      ("int", .list [.text "i", .text "a"]),
      ("int", .fields [("x", .list []), ("extract", .text "b"), ("native", .text "j")])])])
      boundTwice := by
    refine Value.prints_object 0 (.cons ⟨rfl, Value.prints_object 1 ?_⟩ .nil)
    refine .cons ⟨rfl, Value.prints_list 2 ?_⟩ (.cons ⟨rfl, Value.prints_object 2 ?_⟩ .nil)
    · simp [Value.prints_text]
    · simp [Value.PrintsField, Value.prints_text, Value.prints_list]
  have hlist : WritesBinding ⟨"i", "a"⟩ (.list [.text "i", .text "a"]) :=
    .list (Literal.means_escaped "i") (Literal.means_escaped "a")
  have hfields : BindingFields (some "j") (some "b") _ :=
    .other (v := .list []) (Literal.means_escaped "x") (by decide) (by decide)
      (.extract (Literal.means_escaped "extract") (Literal.means_escaped "b")
        (.native (Literal.means_escaped "native") (Literal.means_escaped "j") .none))
  have hentries : Entries [(.int, ⟨"i", "a"⟩), (.int, ⟨"j", "b"⟩)] _ :=
    .cons (Literal.means_escaped Kind.int.keyword) hlist
      (.cons (Literal.means_escaped Kind.int.keyword) (.object hfields) .nil)
  exact (load_replaces hprints.writes).1 _ _
    (.object (.scalars (Literal.means_escaped "scalars") hentries .none))

end Accessors.Settings
