import Accessors.Cpp.Emit
import Accessors.QualifiedName
import Accessors.Proofs.Blanks
import Accessors.Proofs.Symbols

/-!
The characters of names. A symbol has word characters only, and neither they nor their upper-case
forms are blanks or colons. A type name is therefore one word, and can be told apart from the scopes
that qualify it.
-/

set_option autoImplicit false

namespace Accessors.Text

theorem Range.exists_of_covers {n : Nat} {ranges : List Range} (h : covers n ranges = true) :
    ∃ r ∈ ranges, r.1 ≤ n ∧ n ≤ r.2 := by
  induction ranges with
  | nil => exact nomatch h
  | cons r ranges ih =>
    rw [covers] at h
    split at h
    · exact nomatch h
    · split at h
      · exact ⟨r, List.mem_cons_self, by omega⟩
      · obtain ⟨r', hr', hn⟩ := ih h
        exact ⟨r', List.mem_cons_of_mem r hr', hn⟩

def isPlain (c : Char) : Bool := !isBlank c && c != ':'

/-- The code points that are not plain. -/
def separators : List Range :=
  [(0x9, 0xd), (0x20, 0x20), (0x3a, 0x3a), (0x85, 0x85), (0xa0, 0xa0), (0x1680, 0x1680),
    (0x2000, 0x200a), (0x2028, 0x2029), (0x202f, 0x202f), (0x205f, 0x205f), (0x3000, 0x3000)]

theorem isPlain_of_apart {c : Char} (h : ∀ r ∈ separators, c.toNat < r.1 ∨ r.2 < c.toNat) :
    isPlain c = true := by
  simp only [separators, List.forall_mem_cons, List.not_mem_nil, false_implies, implies_true,
    and_true] at h
  have hblank : isBlank c = false := by
    rw [← Bool.not_eq_true]
    simp only [isBlank, Bool.or_eq_true, Bool.and_eq_true, decide_eq_true_eq, beq_iff_eq]
    omega
  have hcolon : c ≠ ':' := by
    rintro rfl
    exact absurd h (by decide)
  simp [isPlain, hblank, hcolon]

theorem isPlain_ofNat {n : Nat} (h : ∀ r ∈ separators, n < r.1 ∨ r.2 < n) :
    isPlain (Char.ofNat n) = true := by
  by_cases hn : n.isValidChar
  · apply isPlain_of_apart
    rwa [Char.ofNat, dif_pos hn]
  · rw [Char.ofNat, dif_neg hn]
    decide

theorem word_ranges_apart :
    ∀ r ∈ separators, ∀ w ∈ Word.ranges, w.2 < r.1 ∨ r.2 < w.1 := by
  decide +kernel

theorem isPlain_of_isWord {c : Char} (h : isWord c = true) : isPlain c = true := by
  obtain ⟨w, hw, hword⟩ := Range.exists_of_covers h
  apply isPlain_of_apart
  intro r hr
  have := word_ranges_apart r hr w hw
  omega

theorem expansions_apart :
    ∀ e ∈ Upper.expansions, e.2 ≠ [] ∧ ∀ n ∈ e.2, ∀ r ∈ separators, n < r.1 ∨ r.2 < n := by
  decide +kernel

theorem runs_apart :
    ∀ run ∈ Upper.runs, ∀ r ∈ separators,
      run.image + (run.last - run.first) < r.1 ∨ r.2 < run.image := by
  decide +kernel

theorem upper_plain {c : Char} (hc : isPlain c = true) :
    upper c ≠ [] ∧ ∀ d ∈ upper c, isPlain d = true := by
  unfold upper
  -- The character has an expansion, is in a run, or stays as it is.
  split
  · rename_i codes hcodes
    have hmem : (c.toNat, codes) ∈ Upper.expansions := by
      obtain ⟨front, back, hsplit, -⟩ := List.lookup_eq_some_iff.mp hcodes
      simp [hsplit]
    obtain ⟨hne, hplain⟩ := expansions_apart _ hmem
    refine ⟨by simpa using hne, fun d hd => ?_⟩
    obtain ⟨n, hn, rfl⟩ := List.mem_map.mp hd
    exact isPlain_ofNat (hplain n hn)
  · split
    · rename_i code hcode
      obtain ⟨run, hrun, hcode⟩ := List.exists_of_findSome?_eq_some hcode
      simp only [Upper.Run.map?, Option.ite_none_right_eq_some, Option.some.injEq] at hcode
      obtain ⟨hrange, rfl⟩ := hcode
      refine ⟨by simp, fun d hd => ?_⟩
      obtain rfl := List.mem_singleton.mp hd
      apply isPlain_ofNat
      intro r hr
      have := runs_apart run hrun r hr
      omega
    · simpa using hc

end Accessors.Text

namespace Accessors

/-- One word without a colon. -/
structure Plain (text : String) : Prop where
  ne_empty : text ≠ ""
  chars : ∀ c ∈ text.toList, Text.isPlain c = true

namespace Plain

theorem not_blank {text : String} (h : Plain text) :
    ∀ c ∈ text.toList, Text.isBlank c = false := by
  intro c hc
  have := h.chars c hc
  simp_all [Text.isPlain]

theorem colon_free {text : String} (h : Plain text) : ':' ∉ text.toList := by
  intro hmem
  have := h.chars _ hmem
  simp [Text.isPlain] at this

theorem newline_free {text : String} (h : Plain text) : '\n' ∉ text.toList :=
  Text.not_mem_of_isBlank rfl h.not_blank

theorem space_free {text : String} (h : Plain text) : ' ' ∉ text.toList :=
  Text.not_mem_of_isBlank rfl h.not_blank

theorem isPart {text : String} (h : Plain text) : QualifiedName.isPart text.toList = true := by
  simpa [QualifiedName.isPart, h.ne_empty] using h.not_blank

theorem of_symbolName {token name : String} (h : symbolName token = .ok name) : Plain name := by
  obtain ⟨front, back, hcut⟩ := exists_symbolAt h
  exact ⟨hcut.ne_empty, fun c hc => Text.isPlain_of_isWord (hcut.word c hc)⟩

theorem typeName {name : String} (h : Plain name) : Plain (typeName name) := by
  unfold Accessors.typeName
  split
  · rename_i hnil
    exact absurd (String.toList_eq_nil_iff.mp hnil) h.ne_empty
  · rename_i first rest hcons
    have hchars := h.chars
    rw [hcons, List.forall_mem_cons] at hchars
    obtain ⟨hne, hupper⟩ := Text.upper_plain hchars.1
    refine ⟨by simp [hne], fun c hc => ?_⟩
    rw [String.toList_ofList, List.mem_append] at hc
    exact hc.elim (hupper c) (hchars.2 c)

theorem accessorName {name : String} (h : Plain name) : Plain (accessorName name) := by
  refine ⟨by simp [Accessors.accessorName], fun c hc => ?_⟩
  rw [Accessors.accessorName, String.toList_append, List.mem_append] at hc
  rcases hc with hc | hc
  · have hget : "get".toList.all Text.isPlain = true := by decide
    exact List.all_eq_true.mp hget c hc
  · exact h.typeName.chars c hc

end Plain

theorem not_blank_colons : ∀ c ∈ "::".toList, Text.isBlank c = false := by
  simp [Text.isBlank]

/-- Scopes keep to one word when they are joined. -/
theorem not_blank_qualified {scope : List String} (h : ∀ type ∈ scope, Plain type) :
    ∀ c ∈ (String.intercalate "::" scope).toList, Text.isBlank c = false := by
  induction scope with
  | nil => exact nofun
  | cons type rest ih =>
    obtain ⟨htype, hrest⟩ := List.forall_mem_cons.mp h
    cases rest with
    | nil => simpa using htype.not_blank
    | cons next rest =>
      rw [String.intercalate_cons_cons]
      simp only [String.toList_append, List.forall_mem_append]
      exact ⟨⟨htype.not_blank, not_blank_colons⟩, ih hrest⟩

namespace QualifiedName

/-- Two colons in a text are its first two characters or stand behind its first one. -/
theorem not_colons_infix_cons_iff {c : Char} {cs : List Char} :
    ¬ [':', ':'] <:+: c :: cs ↔
      ¬(c = ':' ∧ cs.head? = some ':') ∧ ¬ [':', ':'] <:+: cs := by
  rw [List.infix_cons_iff, not_or]
  apply and_congr_left'
  apply not_congr
  constructor
  · rintro ⟨rest, hrest⟩
    obtain ⟨rfl, rfl⟩ := List.cons.inj hrest
    exact ⟨rfl, rfl⟩
  · rintro ⟨rfl, hhead⟩
    obtain ⟨rest, rfl⟩ := List.head?_eq_some_iff.mp hhead
    exact ⟨rest, rfl⟩

theorem splitScopes_cons {c : Char} {cs : List Char} (h : ¬(c = ':' ∧ cs.head? = some ':')) :
    splitScopes (c :: cs) = (splitScopes cs).modifyHead (c :: ·) := by
  rw [splitScopes]
  rintro rest rfl rfl
  exact h ⟨rfl, rfl⟩

theorem splitScopes_of_free {part : List Char} (h : ¬ [':', ':'] <:+: part) :
    splitScopes part = [part] := by
  induction part with
  | nil => rfl
  | cons c part ih =>
    obtain ⟨hstart, hfree⟩ := not_colons_infix_cons_iff.mp h
    rw [splitScopes_cons hstart, ih hfree]
    rfl

/-- A part may hold single colons, but it may not end in one. -/
theorem splitScopes_append {part : List Char} (h : ¬ [':', ':'] <:+: part ++ [':'])
    (rest : List Char) :
    splitScopes (part ++ ':' :: ':' :: rest) = part :: splitScopes rest := by
  induction part with
  | nil => rfl
  | cons c part ih =>
    obtain ⟨hstart, hfree⟩ := not_colons_infix_cons_iff.mp h
    have hstart' : ¬(c = ':' ∧ (part ++ ':' :: ':' :: rest).head? = some ':') := by
      simpa [List.head?_append] using hstart
    rw [List.cons_append, splitScopes_cons hstart', ih hfree]
    rfl

theorem not_colons_infix_concat {part : List Char} (h : ':' ∉ part) :
    ¬ [':', ':'] <:+: part ++ [':'] := by
  intro hcolons
  have hcount := hcolons.sublist.count_le ':'
  rw [List.count_append, List.count_eq_zero.mpr h] at hcount
  exact absurd hcount (by decide)

/-- Parts without colons are found again between the double colons that join them. -/
theorem splitScopes_intercalate {parts : List String} (hne : parts ≠ [])
    (h : ∀ part ∈ parts, ':' ∉ part.toList) :
    splitScopes (String.intercalate "::" parts).toList = parts.map String.toList := by
  induction parts with
  | nil => exact absurd rfl hne
  | cons part rest ih =>
    obtain ⟨hpart, hrest⟩ := List.forall_mem_cons.mp h
    cases rest with
    | nil =>
      have hfree : ¬ [':', ':'] <:+: part.toList := fun hcolons =>
        not_colons_infix_concat hpart (hcolons.trans (List.prefix_append _ _).isInfix)
      simpa using splitScopes_of_free hfree
    | cons next rest =>
      have hjoined : (String.intercalate "::" (part :: next :: rest)).toList =
          part.toList ++ ':' :: ':' :: (String.intercalate "::" (next :: rest)).toList := by
        simp [String.intercalate_cons_cons]
      rw [hjoined, splitScopes_append (not_colons_infix_concat hpart), ih (by simp) hrest]
      rfl

theorem intercalate_inj {xs ys : List String} (hxs : xs ≠ []) (hys : ys ≠ [])
    (hx : ∀ x ∈ xs, ':' ∉ x.toList) (hy : ∀ y ∈ ys, ':' ∉ y.toList)
    (h : String.intercalate "::" xs = String.intercalate "::" ys) : xs = ys := by
  have hsplit := splitScopes_intercalate hxs hx
  rw [h, splitScopes_intercalate hys hy] at hsplit
  exact ((List.map_inj_right fun _ _ => String.toList_inj.mp).mp hsplit).symm

end QualifiedName

theorem accessorName_get (name : String) : "get".toList <+: (accessorName name).toList := by
  simp [accessorName]

end Accessors
