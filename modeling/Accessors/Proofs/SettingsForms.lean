import Accessors.Proofs.LineForms
import Accessors.Proofs.PartReaders
import Accessors.Settings.Load

/-!
The forms of settings. A value writes settings as an object or as a list of their fields in order,
and so it is with a binding. The settings that are read are those that the value at this place
writes.
-/

set_option autoImplicit false

namespace Accessors.Settings

open Json

/-- Members that give fields of a binding, each of them once. Other names do not count, whatever
their values are. -/
inductive BindingFields : Option String → Option String → List (List Char × Value) → Prop where
  | none : BindingFields none none []
  | native {key body : List Char} {s : String} {extract : Option String}
      {members : List (List Char × Value)} (hkey : Literal.Means key "native".toList)
      (hbody : Literal.Means body s.toList) (hmembers : BindingFields none extract members) :
      BindingFields (some s) extract ((key, .string body) :: members)
  | extract {key body : List Char} {s : String} {native : Option String}
      {members : List (List Char × Value)} (hkey : Literal.Means key "extract".toList)
      (hbody : Literal.Means body s.toList) (hmembers : BindingFields native none members) :
      BindingFields native (some s) ((key, .string body) :: members)
  | other {key : List Char} {name : String} {v : Value} {native extract : Option String}
      {members : List (List Char × Value)} (hkey : Literal.Means key name.toList)
      (hnative : name ≠ "native") (hextract : name ≠ "extract")
      (hmembers : BindingFields native extract members) :
      BindingFields native extract ((key, v) :: members)

/-- A value writes a binding. -/
inductive WritesBinding (binding : Binding) : Value → Prop where
  | object {members : List (List Char × Value)}
      (h : BindingFields (some binding.native) (some binding.extract) members) :
      WritesBinding binding (.object members)
  | list {native extract : List Char} (hnative : Literal.Means native binding.native.toList)
      (hextract : Literal.Means extract binding.extract.toList) :
      WritesBinding binding (.list [.string native, .string extract])

/-- Members that list bindings of kinds, in this order. -/
inductive Entries : List (Kind × Binding) → List (List Char × Value) → Prop where
  | nil : Entries [] []
  | cons {key : List Char} {kind : Kind} {binding : Binding} {v : Value}
      {entries : List (Kind × Binding)} {members : List (List Char × Value)}
      (hkey : Literal.Means key kind.keyword.toList) (hv : WritesBinding binding v)
      (hmembers : Entries entries members) :
      Entries ((kind, binding) :: entries) ((key, v) :: members)

/-- Members that give fields of settings, each of them once. -/
inductive Fields : Option String → Option (List (Kind × Binding)) →
    List (List Char × Value) → Prop where
  | none : Fields none none []
  | indent {key body : List Char} {s : String} {entries : Option (List (Kind × Binding))}
      {members : List (List Char × Value)} (hkey : Literal.Means key "indent".toList)
      (hbody : Literal.Means body s.toList) (hmembers : Fields none entries members) :
      Fields (some s) entries ((key, .string body) :: members)
  | scalars {key : List Char} {indent : Option String} {entries : List (Kind × Binding)}
      {table members : List (List Char × Value)} (hkey : Literal.Means key "scalars".toList)
      (htable : Entries entries table) (hmembers : Fields indent none members) :
      Fields indent (some entries) ((key, .object table) :: members)

/-- A value writes settings, of which an indentation and a list of bindings may be given. -/
inductive WritesSettings : Option String → Option (List (Kind × Binding)) → Value → Prop where
  | object {indent : Option String} {entries : Option (List (Kind × Binding))}
      {members : List (List Char × Value)} (h : Fields indent entries members) :
      WritesSettings indent entries (.object members)
  | list : WritesSettings none none (.list [])
  | indent {body : List Char} {s : String} (hbody : Literal.Means body s.toList) :
      WritesSettings (some s) none (.list [.string body])
  | scalars {body : List Char} {s : String} {entries : List (Kind × Binding)}
      {table : List (List Char × Value)} (hbody : Literal.Means body s.toList)
      (htable : Entries entries table) :
      WritesSettings (some s) (some entries) (.list [.string body, .object table])

/-- The bindings that a list of entries makes up: the last entry of a kind counts. -/
def table (entries : List (Kind × Binding)) (kind : Kind) : Option Binding :=
  entries.reverse.lookup kind

/-- A field is given once at most: before, or now. -/
def Joined {α : Type} (before now all : Option α) : Prop :=
  (now = none ∧ all = before) ∨ (before = none ∧ all = now)

section Joined
variable {α : Type} {before now all : Option α} {a : α}

theorem joined_none : Joined none now all ↔ all = now := by
  grind [Joined]

theorem joined_some : Joined (some a) now all ↔ now = none ∧ all = some a := by
  grind [Joined]

theorem joined_none_right : Joined before none all ↔ all = before := by
  grind [Joined]

theorem joined_some_right : Joined before (some a) all ↔ before = none ∧ all = some a := by
  grind [Joined]

end Joined

theorem fields_of_bindingMembers {first : Bool} {native extract : Option String} {c : Cursor}
    {b : Binding} {rest : List Char}
    (h : Gives (bindingMembers first native extract c) b rest) :
    ∃ members n x, Members (!first) members c.rest rest ∧ BindingFields n x members ∧
      Joined native n (some b.native) ∧ Joined extract x (some b.extract) := by
  rw [bindingMembers] at h
  obtain ⟨m, hmember, h⟩ := gives_bind.mp h
  cases m with
  | done d =>
    have hend := Read.members_of_done hmember
    dsimp only at h
    split at h
    · obtain ⟨rfl, hrest⟩ := gives_ok.mp h
      exact ⟨[], none, none, hrest ▸ hend, .none, joined_none_right.mpr rfl,
        joined_none_right.mpr rfl⟩
    · exact absurd h not_gives_error
    · exact absurd h not_gives_error
  | field name d =>
    dsimp only at h
    split at h
    · rename_i hname
      subst hname
      -- The field is new, so none of the members that follow gives it again.
      obtain ⟨hnone, e, hcolon, p, htext, h⟩ :=
        (Read.gives_field_iff Read.text (fun s => bindingMembers false (some s) extract) _).mp h
      have hlt : p.2.1.length < c.length := Nat.lt_trans p.2.2 (Nat.lt_trans e.2 d.2)
      obtain ⟨members, n, x, hmembers, hfields, hn, hx⟩ := fields_of_bindingMembers h
      obtain ⟨key, body, hkey, hbody, hmembers⟩ :=
        Read.members_of_text hmember hcolon htext hmembers
      obtain ⟨rfl, hs⟩ := joined_some.mp hn
      exact ⟨_, some p.1, x, hmembers, .native hkey hbody hfields, hnone ▸ joined_none.mpr hs, hx⟩
    split at h
    · rename_i hname
      subst hname
      obtain ⟨hnone, e, hcolon, p, htext, h⟩ :=
        (Read.gives_field_iff Read.text (fun s => bindingMembers false native (some s)) _).mp h
      have hlt : p.2.1.length < c.length := Nat.lt_trans p.2.2 (Nat.lt_trans e.2 d.2)
      obtain ⟨members, n, x, hmembers, hfields, hn, hx⟩ := fields_of_bindingMembers h
      obtain ⟨key, body, hkey, hbody, hmembers⟩ :=
        Read.members_of_text hmember hcolon htext hmembers
      obtain ⟨rfl, hs⟩ := joined_some.mp hx
      exact ⟨_, n, some p.1, hmembers, .extract hkey hbody hfields, hn, hnone ▸ joined_none.mpr hs⟩
    · rename_i hnative hextract
      obtain ⟨e, hcolon, h⟩ := gives_bind.mp h
      obtain ⟨f, hskip, h⟩ := gives_bind.mp h
      have hlt : f.1.length < c.length := Nat.lt_trans f.2 (Nat.lt_trans e.2 d.2)
      obtain ⟨members, n, x, hmembers, hfields, hn, hx⟩ :=
        fields_of_bindingMembers ((gives_repack _).mp h)
      obtain ⟨v, hv⟩ := Skip.spells_single ⟨f, hskip, rfl⟩
      obtain ⟨key, hkey, hmembers⟩ := Read.members_of_reads hmember hcolon hv hmembers
      exact ⟨_, n, x, hmembers, .other hkey hnative hextract hfields, hn, hx⟩
termination_by c.length
decreasing_by all_goals exact hlt

theorem gives_bindingMembers {n x : Option String} {members : List (List Char × Value)}
    (hfields : BindingFields n x members) {first : Bool} {native extract : Option String}
    {c : Cursor} {b : Binding} {rest : List Char} (hmembers : Members (!first) members c.rest rest)
    (hn : Joined native n (some b.native)) (hx : Joined extract x (some b.extract)) :
    Gives (bindingMembers first native extract c) b rest := by
  induction hfields generalizing first native extract c with
  | none =>
    obtain ⟨d, hd, hrest⟩ := Read.done_of_members hmembers
    obtain rfl := joined_none_right.mp hn
    obtain rfl := joined_none_right.mp hx
    rw [bindingMembers]
    exact gives_bind.mpr ⟨_, hd, gives_ok.mpr ⟨rfl, hrest⟩⟩
  | native hkey hbody _ ih =>
    obtain ⟨d, e, f, hd, he, hf, hvs⟩ := Read.text_of_members hkey hbody hmembers
    obtain ⟨rfl, hs⟩ := joined_some_right.mp hn
    rw [bindingMembers]
    refine gives_bind.mpr ⟨_, hd, ?_⟩
    dsimp only
    rw [if_pos rfl]
    refine (Read.gives_field_iff Read.text (fun s => bindingMembers false (some s) extract) _).mpr
      ⟨rfl, e, he, _, hf, ?_⟩
    exact ih hvs (joined_some.mpr ⟨rfl, hs⟩) hx
  | extract hkey hbody _ ih =>
    obtain ⟨d, e, f, hd, he, hf, hvs⟩ := Read.text_of_members hkey hbody hmembers
    obtain ⟨rfl, hs⟩ := joined_some_right.mp hx
    rw [bindingMembers]
    refine gives_bind.mpr ⟨_, hd, ?_⟩
    dsimp only
    rw [if_neg (by decide), if_pos rfl]
    refine (Read.gives_field_iff Read.text (fun s => bindingMembers false native (some s)) _).mpr
      ⟨rfl, e, he, _, hf, ?_⟩
    exact ih hvs hn (joined_some.mpr ⟨rfl, hs⟩)
  | other hkey hnative hextract _ ih =>
    obtain ⟨d, e, es, hd, he, hv, hvs⟩ := Read.reads_of_members hkey hmembers
    obtain ⟨f, hf, rfl⟩ := Skip.leaves_single hv hvs.ends
    rw [bindingMembers]
    refine gives_bind.mpr ⟨_, hd, ?_⟩
    dsimp only
    rw [if_neg hnative, if_neg hextract]
    refine gives_bind.mpr ⟨e, he, gives_bind.mpr ⟨f, hf, ?_⟩⟩
    exact (gives_repack _).mpr (ih hvs hn hx)

theorem gives_bindingElements_iff {c : Cursor} {b : Binding} {rest : List Char} :
    Gives (bindingElements c) b rest ↔ ∃ native extract,
      Literal.Means native b.native.toList ∧ Literal.Means extract b.extract.toList ∧
        Items false [.string native, .string extract] c.rest rest := by
  unfold bindingElements
  constructor
  · intro h
    obtain ⟨next, hd, h⟩ := gives_bind.mp h
    cases next with
    | none => exact absurd h not_gives_error
    | some d =>
      obtain ⟨p, hp, h⟩ := gives_bind.mp h
      obtain ⟨next, hf, h⟩ := gives_bind.mp h
      cases next with
      | none => exact absurd h not_gives_error
      | some f =>
        obtain ⟨q, hq, h⟩ := gives_bind.mp h
        obtain ⟨i, hi, h⟩ := gives_bind.mp h
        obtain ⟨rfl, hrest⟩ := gives_ok.mp h
        obtain ⟨native, hnative, hv⟩ := Read.gives_text_iff.mp ⟨p.2, hp, rfl⟩
        obtain ⟨extract, hextract, hv'⟩ := Read.gives_text_iff.mp ⟨q.2, hq, rfl⟩
        have hend := Read.leaves_endList_iff.mp ⟨i, hi, hrest⟩
        have hitems := Read.items_of_reads hf hv' (.done hend)
        exact ⟨native, extract, hnative, hextract, Read.items_of_reads hd hv hitems⟩
  · rintro ⟨native, extract, hnative, hextract, hitems⟩
    obtain ⟨d, es, hd, hv, hitems⟩ := Read.reads_of_items true hitems
    obtain ⟨e, he, rfl⟩ := Read.gives_text_iff.mpr ⟨native, hnative, hv⟩
    obtain ⟨f, gs, hf, hv, hitems⟩ := Read.reads_of_items false hitems
    obtain ⟨g, hg, rfl⟩ := Read.gives_text_iff.mpr ⟨extract, hextract, hv⟩
    obtain ⟨i, hi, hrest⟩ := Read.leaves_endList_iff.mpr (items_nil_iff.mp hitems)
    refine gives_bind.mpr ⟨_, hd, gives_bind.mpr ⟨_, he, gives_bind.mpr ⟨_, hf, ?_⟩⟩⟩
    exact gives_bind.mpr ⟨_, hg, gives_bind.mpr ⟨_, hi, gives_ok.mpr ⟨rfl, hrest⟩⟩⟩

theorem gives_readBinding_iff {c : Cursor} {b : Binding} {rest : List Char} :
    Gives (readBinding c) b rest ↔
      ∃ v, WritesBinding b v ∧ v.Spells c.skipSpaces.rest rest := by
  unfold readBinding
  dsimp only [Cursor.spaces]
  split
  · rename_i cs hcons
    refine (gives_repack _).trans (gives_bindingElements_iff.trans ?_)
    constructor
    · rintro ⟨native, extract, hnative, hextract, hitems⟩
      exact ⟨_, .list hnative hextract, Value.spells_list_iff.mpr ⟨cs, hcons, hitems⟩⟩
    · rintro ⟨v, hwrites, hv⟩
      cases hwrites with
      | object h =>
        obtain ⟨ds, hds, -⟩ := Value.spells_object_iff.mp hv
        cases hcons.symm.trans hds
      | list hnative hextract =>
        obtain ⟨ds, hds, hitems⟩ := Value.spells_list_iff.mp hv
        obtain rfl := (List.cons.inj (hcons.symm.trans hds)).2
        exact ⟨_, _, hnative, hextract, hitems⟩
  · rename_i cs hcons
    refine (gives_repack _).trans ?_
    constructor
    · intro h
      obtain ⟨members, n, x, hmembers, hfields, hn, hx⟩ := fields_of_bindingMembers h
      obtain rfl := joined_none.mp hn
      obtain rfl := joined_none.mp hx
      exact ⟨_, .object hfields, Value.spells_object_iff.mpr ⟨cs, hcons, hmembers⟩⟩
    · rintro ⟨v, hwrites, hv⟩
      cases hwrites with
      | object hfields =>
        obtain ⟨ds, hds, hmembers⟩ := Value.spells_object_iff.mp hv
        obtain rfl := (List.cons.inj (hcons.symm.trans hds)).2
        exact gives_bindingMembers hfields hmembers (joined_none.mpr rfl) (joined_none.mpr rfl)
      | list hnative hextract =>
        obtain ⟨ds, hds, -⟩ := Value.spells_list_iff.mp hv
        cases hcons.symm.trans hds
  · rename_i hlist hobject
    apply iff_of_false
    · rintro ⟨d, hd, -⟩
      exact Read.wrongType_ne_ok _ _ _ hd
    · rintro ⟨v, hwrites, hv⟩
      cases hwrites with
      | object h =>
        obtain ⟨ds, hds, -⟩ := Value.spells_object_iff.mp hv
        exact hobject _ hds
      | list hnative hextract =>
        obtain ⟨ds, hds, -⟩ := Value.spells_list_iff.mp hv
        exact hlist _ hds

/-- The table after more entries have been bound. -/
def bindAll (entries : List (Kind × Binding)) (bindings : Kind → Option Binding) :
    Kind → Option Binding :=
  entries.foldl (fun bindings entry => bind bindings entry.1 entry.2) bindings

theorem bindAll_apply (entries : List (Kind × Binding)) (bindings : Kind → Option Binding)
    (kind : Kind) : bindAll entries bindings kind = (table entries kind).or (bindings kind) := by
  induction entries generalizing bindings with
  | nil => rfl
  | cons entry entries ih =>
    obtain ⟨kind', binding⟩ := entry
    have hlast : table ((kind', binding) :: entries) kind =
        (table entries kind).or (if kind = kind' then some binding else none) := by
      by_cases hkind : kind = kind'
      · simp [table, List.lookup_append, hkind]
      · have hbeq : (kind == kind') = false := by simpa using hkind
        simp [table, List.lookup_append, List.lookup_cons, hkind, hbeq]
    calc bindAll ((kind', binding) :: entries) bindings kind
      _ = (table entries kind).or (bind bindings kind' binding kind) := ih _
      _ = (table ((kind', binding) :: entries) kind).or (bindings kind) := by
        rw [hlast, Option.or_assoc, bind]
        split <;> rfl

theorem bindAll_none (entries : List (Kind × Binding)) :
    bindAll entries (fun _ => none) = table entries := by
  funext kind
  rw [bindAll_apply, Option.or_none]

theorem entries_of_tableMembers {first : Bool} {bindings t : Kind → Option Binding} {c : Cursor}
    {rest : List Char} (h : Gives (tableMembers first bindings c) t rest) :
    ∃ members entries, Members (!first) members c.rest rest ∧ Entries entries members ∧
      t = bindAll entries bindings := by
  rw [tableMembers] at h
  obtain ⟨m, hmember, h⟩ := gives_bind.mp h
  cases m with
  | done d =>
    obtain ⟨rfl, rfl⟩ := gives_ok.mp h
    exact ⟨[], [], Read.members_of_done hmember, .nil, rfl⟩
  | field name d =>
    dsimp only at h
    split at h
    · exact absurd h not_gives_error
    · rename_i kind hkind
      obtain rfl := Kind.ofKeyword?_eq_some_iff.mp hkind
      obtain ⟨e, hcolon, h⟩ := gives_bind.mp h
      obtain ⟨p, hbinding, h⟩ := gives_bind.mp h
      have hlt : p.2.1.length < c.length := Nat.lt_trans p.2.2 (Nat.lt_trans e.2 d.2)
      obtain ⟨members, entries, hmembers, hentries, rfl⟩ :=
        entries_of_tableMembers ((gives_repack _).mp h)
      obtain ⟨v, hwrites, hv⟩ := gives_readBinding_iff.mp ⟨p.2, hbinding, rfl⟩
      obtain ⟨key, hkey, hmembers⟩ := Read.members_of_reads hmember hcolon hv hmembers
      exact ⟨_, (kind, p.1) :: entries, hmembers, .cons hkey hwrites hentries, rfl⟩
termination_by c.length
decreasing_by exact hlt

theorem gives_tableMembers {entries : List (Kind × Binding)} {members : List (List Char × Value)}
    (hentries : Entries entries members) {first : Bool} {bindings : Kind → Option Binding}
    {c : Cursor} {rest : List Char} (hmembers : Members (!first) members c.rest rest) :
    Gives (tableMembers first bindings c) (bindAll entries bindings) rest := by
  induction hentries generalizing first bindings c with
  | nil =>
    obtain ⟨d, hd, hrest⟩ := Read.done_of_members hmembers
    rw [tableMembers]
    exact gives_bind.mpr ⟨_, hd, gives_ok.mpr ⟨rfl, hrest⟩⟩
  | @cons key kind binding v entries members hkey hwrites _ ih =>
    obtain ⟨d, e, es, hd, he, hv, hvs⟩ := Read.reads_of_members hkey hmembers
    obtain ⟨f, hf, rfl⟩ := gives_readBinding_iff.mpr ⟨v, hwrites, hv⟩
    rw [tableMembers]
    refine gives_bind.mpr ⟨_, hd, ?_⟩
    dsimp only
    rw [Kind.ofKeyword?_keyword]
    refine gives_bind.mpr ⟨e, he, gives_bind.mpr ⟨_, hf, ?_⟩⟩
    exact (gives_repack _).mpr (ih hvs)

theorem gives_readTable_iff {c : Cursor} {t : Kind → Option Binding} {rest : List Char} :
    Gives (readTable c) t rest ↔ ∃ entries members, t = table entries ∧ Entries entries members ∧
      (Value.object members).Spells c.skipSpaces.rest rest := by
  unfold readTable
  dsimp only [Cursor.spaces]
  split
  · rename_i cs hcons
    refine (gives_repack _).trans ?_
    constructor
    · intro h
      obtain ⟨members, entries, hmembers, hentries, rfl⟩ := entries_of_tableMembers h
      exact ⟨entries, members, bindAll_none entries, hentries,
        Value.spells_object_iff.mpr ⟨cs, hcons, hmembers⟩⟩
    · rintro ⟨entries, members, rfl, hentries, hv⟩
      obtain ⟨ds, hds, hmembers⟩ := Value.spells_object_iff.mp hv
      obtain rfl := (List.cons.inj (hcons.symm.trans hds)).2
      rw [← bindAll_none]
      exact gives_tableMembers hentries hmembers
  · rename_i hobject
    apply iff_of_false
    · rintro ⟨d, hd, -⟩
      exact Read.wrongType_ne_ok _ _ _ hd
    · rintro ⟨entries, members, -, -, hv⟩
      obtain ⟨ds, hds, -⟩ := Value.spells_object_iff.mp hv
      exact hobject _ hds

theorem fields_of_settingsMembers {first : Bool} {indent : Option String}
    {bindings : Option (Kind → Option Binding)} {c : Cursor} {settings : Settings}
    {rest : List Char} (h : Gives (settingsMembers first indent bindings c) settings rest) :
    ∃ members i entries i' t, Members (!first) members c.rest rest ∧ Fields i entries members ∧
      Joined indent i i' ∧ Joined bindings (entries.map table) t ∧ settings = ofFields i' t := by
  rw [settingsMembers] at h
  obtain ⟨m, hmember, h⟩ := gives_bind.mp h
  cases m with
  | done d =>
    obtain ⟨rfl, rfl⟩ := gives_ok.mp h
    exact ⟨[], none, none, indent, bindings, Read.members_of_done hmember, .none,
      joined_none_right.mpr rfl, joined_none_right.mpr rfl, rfl⟩
  | field name d =>
    dsimp only at h
    split at h
    · rename_i hname
      subst hname
      obtain ⟨hnone, e, hcolon, p, htext, h⟩ :=
        (Read.gives_field_iff Read.text (fun s => settingsMembers false (some s) bindings) _).mp h
      have hlt : p.2.1.length < c.length := Nat.lt_trans p.2.2 (Nat.lt_trans e.2 d.2)
      obtain ⟨members, i, entries, i', t, hmembers, hfields, hi, ht, hsettings⟩ :=
        fields_of_settingsMembers h
      obtain ⟨key, body, hkey, hbody, hmembers⟩ :=
        Read.members_of_text hmember hcolon htext hmembers
      obtain ⟨rfl, hs⟩ := joined_some.mp hi
      exact ⟨_, some p.1, entries, i', t, hmembers, .indent hkey hbody hfields,
        hnone ▸ joined_none.mpr hs, ht, hsettings⟩
    split at h
    · rename_i hname
      subst hname
      obtain ⟨hnone, e, hcolon, p, htable, h⟩ :=
        (Read.gives_field_iff readTable (fun t => settingsMembers false indent (some t)) _).mp h
      have hlt : p.2.1.length < c.length := Nat.lt_trans p.2.2 (Nat.lt_trans e.2 d.2)
      obtain ⟨members, i, entries, i', t, hmembers, hfields, hi, ht, hsettings⟩ :=
        fields_of_settingsMembers h
      obtain ⟨given, members', hgiven, hentries, hv⟩ :=
        gives_readTable_iff.mp ⟨p.2, htable, rfl⟩
      obtain ⟨key, hkey, hmembers⟩ := Read.members_of_reads hmember hcolon hv hmembers
      obtain ⟨hentries', ht'⟩ := joined_some.mp ht
      obtain rfl := Option.map_eq_none_iff.mp hentries'
      exact ⟨_, i, some given, i', t, hmembers, .scalars hkey hentries hfields, hi,
        hnone ▸ joined_none.mpr (ht'.trans (congrArg some hgiven)), hsettings⟩
    · exact absurd h not_gives_error
termination_by c.length
decreasing_by all_goals exact hlt

theorem gives_settingsMembers {i : Option String} {entries : Option (List (Kind × Binding))}
    {members : List (List Char × Value)} (hfields : Fields i entries members) {first : Bool}
    {indent i' : Option String} {bindings t : Option (Kind → Option Binding)} {c : Cursor}
    {rest : List Char} (hmembers : Members (!first) members c.rest rest) (hi : Joined indent i i')
    (ht : Joined bindings (entries.map table) t) :
    Gives (settingsMembers first indent bindings c) (ofFields i' t) rest := by
  induction hfields generalizing first indent bindings c with
  | none =>
    obtain ⟨d, hd, hrest⟩ := Read.done_of_members hmembers
    obtain rfl := joined_none_right.mp hi
    obtain rfl := joined_none_right.mp ht
    rw [settingsMembers]
    exact gives_bind.mpr ⟨_, hd, gives_ok.mpr ⟨rfl, hrest⟩⟩
  | indent hkey hbody _ ih =>
    obtain ⟨d, e, f, hd, he, hf, hvs⟩ := Read.text_of_members hkey hbody hmembers
    obtain ⟨rfl, hs⟩ := joined_some_right.mp hi
    rw [settingsMembers]
    refine gives_bind.mpr ⟨_, hd, ?_⟩
    dsimp only
    rw [if_pos rfl]
    refine (Read.gives_field_iff Read.text (fun s => settingsMembers false (some s) bindings) _).mpr
      ⟨rfl, e, he, _, hf, ?_⟩
    exact ih hvs (joined_some.mpr ⟨rfl, hs⟩) ht
  | scalars hkey hentries _ ih =>
    obtain ⟨d, e, es, hd, he, hv, hvs⟩ := Read.reads_of_members hkey hmembers
    obtain ⟨f, hf, rfl⟩ := gives_readTable_iff.mpr ⟨_, _, rfl, hentries, hv⟩
    obtain ⟨rfl, hs⟩ := joined_some_right.mp ht
    rw [settingsMembers]
    refine gives_bind.mpr ⟨_, hd, ?_⟩
    dsimp only
    rw [if_neg (by decide), if_pos rfl]
    refine (Read.gives_field_iff readTable (fun t => settingsMembers false indent (some t)) _).mpr
      ⟨rfl, e, he, _, hf, ?_⟩
    exact ih hvs hi (joined_some.mpr ⟨rfl, hs⟩)

/-- The settings that fields come to. -/
def ofGiven (indent : Option String) (entries : Option (List (Kind × Binding))) : Settings :=
  ofFields indent (entries.map table)

theorem gives_settingsElements_iff {c : Cursor} {settings : Settings} {rest : List Char} :
    Gives (settingsElements c) settings rest ↔ ∃ items indent entries,
      WritesSettings indent entries (.list items) ∧ settings = ofGiven indent entries ∧
        Items false items c.rest rest := by
  unfold settingsElements
  constructor
  · intro h
    obtain ⟨next, hd, h⟩ := gives_bind.mp h
    cases next with
    | none =>
      obtain ⟨i, hi, h⟩ := gives_bind.mp h
      obtain ⟨rfl, hrest⟩ := gives_ok.mp h
      have hend := Read.leaves_endList_iff.mp ⟨i, hi, hrest⟩
      exact ⟨[], none, none, .list, rfl, .done hend⟩
    | some d =>
      obtain ⟨p, hp, h⟩ := gives_bind.mp h
      obtain ⟨next, hf, h⟩ := gives_bind.mp h
      obtain ⟨body, hbody, hv⟩ := Read.gives_text_iff.mp ⟨p.2, hp, rfl⟩
      cases next with
      | none =>
        obtain ⟨i, hi, h⟩ := gives_bind.mp h
        obtain ⟨rfl, hrest⟩ := gives_ok.mp h
        have hend := Read.leaves_endList_iff.mp ⟨i, hi, hrest⟩
        exact ⟨_, some p.1, none, .indent hbody, rfl, Read.items_of_reads hd hv (.done hend)⟩
      | some f =>
        obtain ⟨q, hq, h⟩ := gives_bind.mp h
        obtain ⟨i, hi, h⟩ := gives_bind.mp h
        obtain ⟨rfl, hrest⟩ := gives_ok.mp h
        obtain ⟨entries, members, ht, hentries, hv'⟩ := gives_readTable_iff.mp ⟨q.2, hq, rfl⟩
        have hend := Read.leaves_endList_iff.mp ⟨i, hi, hrest⟩
        have hitems := Read.items_of_reads hf hv' (.done hend)
        refine ⟨_, some p.1, some entries, .scalars hbody hentries, ?_,
          Read.items_of_reads hd hv hitems⟩
        rw [ht]
        rfl
  · rintro ⟨items, indent, entries, hwrites, rfl, hitems⟩
    cases hwrites with
    | list =>
      have hend := items_nil_iff.mp hitems
      obtain ⟨i, hi, hrest⟩ := Read.leaves_endList_iff.mpr hend
      refine gives_bind.mpr ⟨_, Read.element?_of_close hend, ?_⟩
      exact gives_bind.mpr ⟨i, hi, gives_ok.mpr ⟨rfl, hrest⟩⟩
    | indent hbody =>
      obtain ⟨d, es, hd, hv, hitems⟩ := Read.reads_of_items true hitems
      obtain ⟨e, he, rfl⟩ := Read.gives_text_iff.mpr ⟨_, hbody, hv⟩
      have hend := items_nil_iff.mp hitems
      obtain ⟨i, hi, hrest⟩ := Read.leaves_endList_iff.mpr hend
      refine gives_bind.mpr ⟨_, hd, gives_bind.mpr ⟨_, he, ?_⟩⟩
      refine gives_bind.mpr ⟨_, Read.element?_of_close hend, ?_⟩
      exact gives_bind.mpr ⟨i, hi, gives_ok.mpr ⟨rfl, hrest⟩⟩
    | scalars hbody hentries =>
      obtain ⟨d, es, hd, hv, hitems⟩ := Read.reads_of_items true hitems
      obtain ⟨e, he, rfl⟩ := Read.gives_text_iff.mpr ⟨_, hbody, hv⟩
      obtain ⟨f, gs, hf, hv, hitems⟩ := Read.reads_of_items false hitems
      obtain ⟨g, hg, rfl⟩ := gives_readTable_iff.mpr ⟨_, _, rfl, hentries, hv⟩
      obtain ⟨i, hi, hrest⟩ := Read.leaves_endList_iff.mpr (items_nil_iff.mp hitems)
      refine gives_bind.mpr ⟨_, hd, gives_bind.mpr ⟨_, he, gives_bind.mpr ⟨_, hf, ?_⟩⟩⟩
      exact gives_bind.mpr ⟨_, hg, gives_bind.mpr ⟨_, hi, gives_ok.mpr ⟨rfl, hrest⟩⟩⟩

theorem WritesSettings.list_or_object {indent : Option String}
    {entries : Option (List (Kind × Binding))} {v : Value} (h : WritesSettings indent entries v) :
    (∃ items, v = .list items) ∨
      ∃ members, v = .object members ∧ Fields indent entries members := by
  cases h with
  | object h => exact .inr ⟨_, rfl, h⟩
  | list => exact .inl ⟨_, rfl⟩
  | indent _ => exact .inl ⟨_, rfl⟩
  | scalars _ _ => exact .inl ⟨_, rfl⟩

theorem gives_readSettings_iff {c : Cursor} {settings : Settings} {rest : List Char} :
    Gives (readSettings c) settings rest ↔ ∃ v indent entries,
      WritesSettings indent entries v ∧ settings = ofGiven indent entries ∧
        v.Spells c.skipSpaces.rest rest := by
  unfold readSettings
  dsimp only [Cursor.spaces]
  split
  · rename_i cs hcons
    refine (gives_repack _).trans (gives_settingsElements_iff.trans ?_)
    constructor
    · rintro ⟨items, indent, entries, hwrites, hsettings, hitems⟩
      exact ⟨_, indent, entries, hwrites, hsettings,
        Value.spells_list_iff.mpr ⟨cs, hcons, hitems⟩⟩
    · rintro ⟨v, indent, entries, hwrites, hsettings, hv⟩
      obtain ⟨items, rfl⟩ | ⟨members, rfl, -⟩ := hwrites.list_or_object
      · obtain ⟨ds, hds, hitems⟩ := Value.spells_list_iff.mp hv
        obtain rfl := (List.cons.inj (hcons.symm.trans hds)).2
        exact ⟨items, indent, entries, hwrites, hsettings, hitems⟩
      · obtain ⟨ds, hds, -⟩ := Value.spells_object_iff.mp hv
        cases hcons.symm.trans hds
  · rename_i cs hcons
    refine (gives_repack _).trans ?_
    constructor
    · intro h
      obtain ⟨members, i, entries, i', t, hmembers, hfields, hi, ht, rfl⟩ :=
        fields_of_settingsMembers h
      obtain rfl := joined_none.mp hi
      obtain rfl := joined_none.mp ht
      exact ⟨_, _, entries, .object hfields, rfl,
        Value.spells_object_iff.mpr ⟨cs, hcons, hmembers⟩⟩
    · rintro ⟨v, indent, entries, hwrites, rfl, hv⟩
      obtain ⟨items, rfl⟩ | ⟨members, rfl, hfields⟩ := hwrites.list_or_object
      · obtain ⟨ds, hds, -⟩ := Value.spells_list_iff.mp hv
        cases hcons.symm.trans hds
      · obtain ⟨ds, hds, hmembers⟩ := Value.spells_object_iff.mp hv
        obtain rfl := (List.cons.inj (hcons.symm.trans hds)).2
        exact gives_settingsMembers hfields hmembers (joined_none.mpr rfl) (joined_none.mpr rfl)
  · rename_i hlist hobject
    apply iff_of_false
    · rintro ⟨d, hd, -⟩
      exact Read.wrongType_ne_ok _ _ _ hd
    · rintro ⟨v, indent, entries, hwrites, -, hv⟩
      obtain ⟨items, rfl⟩ | ⟨members, rfl, -⟩ := hwrites.list_or_object
      · obtain ⟨ds, hds, -⟩ := Value.spells_list_iff.mp hv
        exact hlist _ hds
      · obtain ⟨ds, hds, -⟩ := Value.spells_object_iff.mp hv
        exact hobject _ hds

end Accessors.Settings
