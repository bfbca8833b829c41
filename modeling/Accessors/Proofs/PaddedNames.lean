import Accessors.Proofs.Naming

/-!
Qualified names with blanks in them. Double colons cut a name from left to right, so no part of it holds
two of them. What is accepted are words between double colons, each with any blanks around it, and it is
these words that are kept.
-/

set_option autoImplicit false

namespace Accessors.QualifiedName

/-- A text is cut at double colons, each time at the first one. -/
inductive Cut : List Char → List (List Char) → Prop where
  | last {piece : List Char} : ¬ [':', ':'] <:+: piece → Cut piece [piece]
  | cons {piece rest : List Char} {pieces : List (List Char)} :
      ¬ [':', ':'] <:+: piece ++ [':'] → Cut rest pieces →
      Cut (piece ++ ':' :: ':' :: rest) (piece :: pieces)

namespace Cut

variable {cs : List Char} {pieces : List (List Char)}

theorem cons_char {c : Char} (hstart : ¬(c = ':' ∧ cs.head? = some ':')) (h : Cut cs pieces) :
    Cut (c :: cs) (pieces.modifyHead (c :: ·)) := by
  cases h with
  | last hfree => exact .last (not_colons_infix_cons_iff.mpr ⟨hstart, hfree⟩)
  | @cons piece rest pieces hfree hrest =>
    refine @Cut.cons (c :: piece) rest pieces (not_colons_infix_cons_iff.mpr ⟨?_, hfree⟩) hrest
    simpa [List.head?_append] using hstart

theorem splitScopes_eq (h : Cut cs pieces) : splitScopes cs = pieces := by
  induction h with
  | last hfree => exact splitScopes_of_free hfree
  | cons hfree _ ih => rw [splitScopes_append hfree, ih]

theorem ne_nil (h : Cut cs pieces) : pieces ≠ [] := by
  cases h <;> exact List.cons_ne_nil _ _

theorem intercalate_eq (h : Cut cs pieces) : [':', ':'].intercalate pieces = cs := by
  induction h with
  | last _ => exact List.intercalate_singleton
  | cons _ hrest ih =>
    rw [List.intercalate_cons_of_ne_nil hrest.ne_nil, ih]
    simp

theorem not_colons_infix (h : Cut cs pieces) : ∀ piece ∈ pieces, ¬ [':', ':'] <:+: piece := by
  induction h with
  | last hfree => exact List.forall_mem_singleton.mpr hfree
  | cons hfree _ ih =>
    refine List.forall_mem_cons.mpr ⟨?_, ih⟩
    intro hcolons
    exact hfree (hcolons.trans (List.prefix_append _ _).isInfix)

end Cut

theorem cut_splitScopes (cs : List Char) : Cut cs (splitScopes cs) := by
  fun_induction splitScopes cs with
  | case1 cs ih => exact @Cut.cons [] _ _ (by decide) ih
  | case2 c cs hstart ih =>
    apply ih.cons_char
    rintro ⟨rfl, hhead⟩
    obtain ⟨rest, rfl⟩ := List.head?_eq_some_iff.mp hhead
    exact hstart rest rfl rfl
  | case3 => exact .last (by decide)

theorem isPart_iff {part : List Char} :
    isPart part = true ↔ part ≠ [] ∧ ∀ c ∈ part, Text.isBlank c = false := by
  simp [isPart]

/-- A part of a name with the blanks around it. -/
structure Padded where
  left : String
  part : String
  right : String
  left_blank : ∀ c ∈ left.toList, Text.isBlank c = true
  right_blank : ∀ c ∈ right.toList, Text.isBlank c = true

namespace Padded

def text (p : Padded) : String := p.left ++ p.part ++ p.right

theorem toList_text (p : Padded) :
    p.text.toList = p.left.toList ++ p.part.toList ++ p.right.toList := by
  rw [text, String.toList_append, String.toList_append]

theorem trim_text {p : Padded} (h : isPart p.part.toList = true) :
    Text.trim p.text.toList = p.part.toList := by
  rw [toList_text, Text.trim_padded p.left_blank p.right_blank]
  exact Text.trim_of_not_blank (isPart_iff.mp h).2

theorem colon_free {p : Padded} (h : Plain p.part) : ':' ∉ p.text.toList := by
  rw [toList_text, List.mem_append, List.mem_append]
  rintro ((hmem | hmem) | hmem)
  · exact absurd (p.left_blank _ hmem) (by decide)
  · exact h.colon_free hmem
  · exact absurd (p.right_blank _ hmem) (by decide)

theorem part_infix (p : Padded) : p.part.toList <:+: p.text.toList :=
  ⟨p.left.toList, p.right.toList, p.toList_text.symm⟩

theorem exists_of_chars (cs : List Char) :
    ∃ p : Padded, p.text.toList = cs ∧ p.part.toList = Text.trim cs := by
  obtain ⟨left, right, hleft, hright, hcs⟩ := Text.exists_pads cs
  refine ⟨⟨String.ofList left, String.ofList (Text.trim cs), String.ofList right, ?_, ?_⟩, ?_, ?_⟩
  · rwa [String.toList_ofList]
  · rwa [String.toList_ofList]
  · simp only [toList_text, String.toList_ofList]
    exact hcs.symm
  · exact String.toList_ofList

/-- Parts with their blanks, joined by double colons. -/
def joined (parts : List Padded) : String := String.intercalate "::" (parts.map text)

theorem toList_joined (parts : List Padded) :
    (joined parts).toList = [':', ':'].intercalate (parts.map (·.text.toList)) := by
  rw [joined, String.toList_intercalate, List.map_map]
  rfl

theorem cut_joined {parts : List Padded} (hne : parts ≠ []) (h : ∀ p ∈ parts, Plain p.part) :
    Cut (joined parts).toList (parts.map (·.text.toList)) := by
  have hfree : ∀ piece ∈ parts.map text, ':' ∉ piece.toList := by
    intro piece hpiece
    obtain ⟨p, hp, rfl⟩ := List.mem_map.mp hpiece
    exact colon_free (h p hp)
  have hcut := cut_splitScopes (joined parts).toList
  rw [joined, splitScopes_intercalate (by simpa using hne) hfree, List.map_map] at hcut
  exact hcut

end Padded

/-- A name is accepted for the words in it, if each piece of its cut is a word among blanks. -/
theorem parse_eq_ok_iff {name : String} {q : QualifiedName} :
    parse name = .ok q ↔
      ∃ (front : List Padded) (last : Padded),
        Cut name.toList ((front ++ [last]).map (·.text.toList)) ∧
        (∀ p ∈ front ++ [last], isPart p.part.toList = true) ∧
        q = ⟨front.map Padded.part, last.part⟩ := by
  constructor
  · intro h
    rw [parse] at h
    split at h
    · rename_i hparts
      obtain rfl := Except.ok.inj h
      choose pad htext hpart using Padded.exists_of_chars
      have hcut := cut_splitScopes name.toList
      obtain hnil | ⟨front, last, hpieces⟩ := (splitScopes name.toList).eq_nil_or_concat
      · exact absurd hnil hcut.ne_nil
      rw [hpieces, List.concat_eq_append] at hcut hparts ⊢
      refine ⟨front.map pad, pad last, ?_, ?_, ?_⟩
      · simpa [Function.comp_def, htext] using hcut
      · simpa [or_imp, forall_and, hpart] using hparts
      · simp [← hpart]
    · cases h
  · rintro ⟨front, last, hcut, hparts, rfl⟩
    have htrim : (splitScopes name.toList).map Text.trim =
        (front ++ [last]).map (·.part.toList) := by
      rw [hcut.splitScopes_eq, List.map_map]
      apply List.map_congr_left
      intro p hp
      exact Padded.trim_text (hparts p hp)
    have hall : ((splitScopes name.toList).map Text.trim).all isPart = true := by
      rw [htrim, List.all_map, List.all_eq_true]
      exact hparts
    rw [parse, if_pos hall, htrim]
    simp

theorem parse_eq_error {name : String} {e : Error} (h : parse name = .error e) :
    e = .invalidName name := by
  rw [parse] at h
  split at h
  · cases h
  · exact (Except.error.inj h).symm

/-- Words without a colon, each among any blanks, are accepted between double colons: the last one is
the class and the others are its namespaces. Whatever is accepted is a list of words among blanks that
hold no double colon, and the fault of a refused name is the whole name. -/
theorem parse_padded_parts :
    (∀ (front : List Padded) (last : Padded), (∀ p ∈ front ++ [last], Plain p.part) →
      parse (Padded.joined (front ++ [last])) = .ok ⟨front.map Padded.part, last.part⟩) ∧
    (∀ (name : String) (q : QualifiedName), parse name = .ok q →
      ∃ (front : List Padded) (last : Padded), name = Padded.joined (front ++ [last]) ∧
        q.namespaces = front.map Padded.part ∧ q.className = last.part ∧
        ∀ part ∈ q.namespaces ++ [q.className], part ≠ "" ∧
          (∀ c ∈ part.toList, Text.isBlank c = false) ∧ ¬ "::".toList <:+: part.toList) ∧
    (∀ (name : String) (e : Error), parse name = .error e → e = .invalidName name) := by
  refine ⟨?_, ?_, fun name e => parse_eq_error⟩
  · intro front last hplain
    apply parse_eq_ok_iff.mpr
    refine ⟨front, last, Padded.cut_joined (by simp) hplain, ?_, rfl⟩
    intro p hp
    exact (hplain p hp).isPart
  · intro name q h
    obtain ⟨front, last, hcut, hparts, rfl⟩ := parse_eq_ok_iff.mp h
    refine ⟨front, last, ?_, rfl, rfl, ?_⟩
    · rw [← String.toList_inj, Padded.toList_joined, hcut.intercalate_eq]
    · intro part hpart
      have hmem : part ∈ (front ++ [last]).map Padded.part := by simpa using hpart
      obtain ⟨p, hp, rfl⟩ := List.mem_map.mp hmem
      obtain ⟨hne, hblank⟩ := isPart_iff.mp (hparts p hp)
      refine ⟨by simpa using hne, hblank, ?_⟩
      intro hcolons
      have hpiece := hcut.not_colons_infix _ (List.mem_map_of_mem hp)
      exact hpiece (List.IsInfix.trans hcolons p.part_infix)

theorem parse_padded_parts_spaced :
    parse " Outer\t:: Inner" = .ok ⟨["Outer"], "Inner"⟩ := by
  have houter : Plain "Outer" := ⟨by decide, List.all_eq_true.mp (by decide)⟩
  have hinner : Plain "Inner" := ⟨by decide, List.all_eq_true.mp (by decide)⟩
  have hspace : ∀ c ∈ " ".toList, Text.isBlank c = true := List.all_eq_true.mp (by decide)
  have htab : ∀ c ∈ "\t".toList, Text.isBlank c = true := List.all_eq_true.mp (by decide)
  have hnone : ∀ c ∈ "".toList, Text.isBlank c = true := List.all_eq_true.mp (by decide)
  have h := parse_padded_parts.1 [⟨" ", "Outer", "\t", hspace, htab⟩]
    ⟨" ", "Inner", "", hspace, hnone⟩ (by simp [houter, hinner])
  exact h

/-- The third colon in a row belongs to the next part. -/
example : parse "Outer:::Inner" = .ok ⟨["Outer"], ":Inner"⟩ := by decide

end Accessors.QualifiedName
