import Mathlib.Data.List.Forall2
import Accessors.Proofs.Segments

/-!
The form of a piece of an address: a key, then indices in brackets. Exactly the pieces of this form are
read, each in one way only, and segments that are written in this form are read back.
-/

set_option autoImplicit false

namespace Accessors

section Lists
variable {α β ε : Type} {f : α → Except ε β} {xs : List α}

theorem mapM_eq_ok_iff {ys : List β} :
    xs.mapM f = .ok ys ↔ List.Forall₂ (fun x y => f x = .ok y) xs ys := by
  induction xs generalizing ys with
  | nil => simp [eq_comm]
  | cons x xs ih =>
    rw [List.mapM_cons, List.forall₂_cons_left_iff]
    simp only [bind_eq_ok_iff, ih, pure_eq_ok, Except.ok.injEq]
    constructor
    · rintro ⟨y, hy, rest, hrest, rfl⟩
      exact ⟨y, rest, hy, hrest, rfl⟩
    · rintro ⟨y, rest, hy, hrest, rfl⟩
      exact ⟨y, hy, rest, hrest, rfl⟩

/-- The first element that is refused decides. -/
theorem mapM_eq_error_iff {e : ε} :
    xs.mapM f = .error e ↔
      ∃ earlier x later, xs = earlier ++ x :: later ∧ (∀ y ∈ earlier, ∃ b, f y = .ok b) ∧
        f x = .error e := by
  induction xs with
  | nil => simp
  | cons x xs ih =>
    rw [List.mapM_cons]
    constructor
    · intro h
      cases hx : f x with
      | error e' =>
        rw [hx, error_bind] at h
        exact ⟨[], x, xs, rfl, by simp, hx.trans (congrArg _ (Except.error.inj h))⟩
      | ok b =>
        rw [hx, ok_bind] at h
        simp only [pure_eq_ok, bind_ok_eq_map, map_eq_error_iff] at h
        obtain ⟨earlier, y, later, rfl, hearlier, hy⟩ := ih.mp h
        exact ⟨x :: earlier, y, later, rfl, List.forall_mem_cons.mpr ⟨⟨b, hx⟩, hearlier⟩, hy⟩
    · rintro ⟨earlier, y, later, heq, hearlier, hy⟩
      cases earlier with
      | nil =>
        obtain ⟨rfl, rfl⟩ := List.cons.inj heq
        rw [hy, error_bind]
      | cons z earlier =>
        obtain ⟨rfl, rfl⟩ := List.cons.inj heq
        obtain ⟨⟨b, hb⟩, hearlier⟩ := List.forall_mem_cons.mp hearlier
        rw [hb, ok_bind, ih.mpr ⟨earlier, y, later, rfl, hearlier, hy⟩, error_bind]

end Lists

namespace Address

def bracketed (expr : List Char) : List Char := '[' :: (expr ++ [']'])

/-- What may stand in brackets: no bracket, and not only blanks. -/
structure IsIndex (expr : List Char) : Prop where
  opening_free : '[' ∉ expr
  closing_free : ']' ∉ expr
  not_blank : ∃ c ∈ expr, Text.isBlank c = false

/-- A piece is written as a key with these indices. -/
structure HasForm (piece key : List Char) (exprs : List (List Char)) : Prop where
  written : piece = key ++ exprs.flatMap bracketed
  key_ne_nil : key ≠ []
  opening_free : '[' ∉ key
  isIndex : ∀ expr ∈ exprs, IsIndex expr

/-- What a key and indices stand for: blanks around an index do not count. -/
def Segment.ofForm (key : List Char) (exprs : List (List Char)) : Segment :=
  ⟨String.ofList key, exprs.map fun expr => String.ofList (Text.trim expr)⟩

theorem index?_eq_some_iff {cs : List Char} {index : String} :
    index? cs = some index ↔ ∃ expr, cs = '[' :: expr ∧ '[' ∉ expr ∧
      (∃ c ∈ expr, Text.isBlank c = false) ∧ index = String.ofList (Text.trim expr) := by
  have hopening : ∀ expr : List Char, '[' ∈ Text.trim expr ↔ '[' ∈ expr :=
    fun expr => Text.mem_trim_iff (by decide)
  constructor
  · intro h
    unfold index? at h
    split at h
    · rename_i expr
      simp only [Option.ite_none_left_eq_some, Option.some.injEq, Bool.or_eq_true,
        List.isEmpty_iff, List.contains_iff_mem, not_or, hopening] at h
      obtain ⟨⟨hblank, hfree⟩, rfl⟩ := h
      exact ⟨expr, rfl, hfree, Text.trim_ne_nil_iff.mp hblank, rfl⟩
    · exact nomatch h
  · rintro ⟨expr, rfl, hfree, hblank, rfl⟩
    have hne := Text.trim_ne_nil_iff.mpr hblank
    simp [index?, hne, hopening, hfree]

section Brackets
variable {exprs : List (List Char)}

theorem intercalate_concat_nil (xs : List (List Char)) :
    [']'].intercalate (xs ++ [[]]) = xs.flatMap (· ++ [']']) := by
  induction xs with
  | nil => rfl
  | cons x xs ih =>
    rw [List.cons_append, List.intercalate_cons_of_ne_nil (by simp), ih]
    simp

/-- Closing brackets cut a text of indices in brackets into the indices, each behind its opening
bracket, and nothing follows the last one. -/
theorem splitOn_bracketed (h : ∀ expr ∈ exprs, ']' ∉ expr) :
    (exprs.flatMap bracketed).splitOn ']' = exprs.map ('[' :: ·) ++ [[]] := by
  have hjoin : exprs.flatMap bracketed = [']'].intercalate (exprs.map ('[' :: ·) ++ [[]]) := by
    rw [intercalate_concat_nil, List.flatMap_map]
    rfl
  rw [hjoin, List.splitOn_intercalate]
  · intro piece hpiece
    rcases List.mem_append.mp hpiece with hpiece | hpiece
    · obtain ⟨expr, hexpr, rfl⟩ := List.mem_map.mp hpiece
      simpa using h expr hexpr
    · obtain rfl := List.mem_singleton.mp hpiece
      exact List.not_mem_nil
  · simp

theorem bracketed_inj {others : List (List Char)} (h : ∀ expr ∈ exprs, ']' ∉ expr)
    (h' : ∀ expr ∈ others, ']' ∉ expr)
    (heq : exprs.flatMap bracketed = others.flatMap bracketed) : exprs = others := by
  have hsplit := congrArg (List.splitOn ']') heq
  rw [splitOn_bracketed h, splitOn_bracketed h', List.append_cancel_right_eq] at hsplit
  exact List.map_injective_iff.mpr (List.cons_injective) hsplit

theorem indices?_bracketed (h : ∀ expr ∈ exprs, IsIndex expr) :
    indices? (exprs.flatMap bracketed) =
      some (exprs.map fun expr => String.ofList (Text.trim expr)) := by
  rw [indices?, splitOn_bracketed fun expr hexpr => (h expr hexpr).closing_free]
  simp only [List.getLast?_concat, if_true, List.dropLast_concat]
  induction exprs with
  | nil => rfl
  | cons expr exprs ih =>
    obtain ⟨hexpr, hexprs⟩ := List.forall_mem_cons.mp h
    have hread : index? ('[' :: expr) = some (String.ofList (Text.trim expr)) :=
      index?_eq_some_iff.mpr ⟨expr, rfl, hexpr.opening_free, hexpr.not_blank, rfl⟩
    rw [List.map_cons, List.mapM_cons, hread, ih hexprs]
    rfl

theorem exists_exprs_of_mapM {pieces : List (List Char)} {indices : List String}
    (hfree : ∀ piece ∈ pieces, ']' ∉ piece) (h : pieces.mapM index? = some indices) :
    ∃ exprs : List (List Char), pieces = exprs.map ('[' :: ·) ∧ ∀ expr ∈ exprs, IsIndex expr := by
  induction pieces generalizing indices with
  | nil => exact ⟨[], rfl, by simp⟩
  | cons piece pieces ih =>
    obtain ⟨hpiece, hpieces⟩ := List.forall_mem_cons.mp hfree
    simp only [List.mapM_cons, Option.bind_eq_bind, Option.bind_eq_some_iff] at h
    obtain ⟨index, hindex, more, hmore, -⟩ := h
    obtain ⟨expr, rfl, hopening, hblank, -⟩ := index?_eq_some_iff.mp hindex
    obtain ⟨exprs, rfl, hexprs⟩ := ih hpieces hmore
    have hclosing : ']' ∉ expr := fun hmem => hpiece (List.mem_cons_of_mem '[' hmem)
    refine ⟨expr :: exprs, rfl, ?_⟩
    exact List.forall_mem_cons.mpr ⟨⟨hopening, hclosing, hblank⟩, hexprs⟩

theorem exists_exprs_of_indices? {cs : List Char} {indices : List String}
    (h : indices? cs = some indices) :
    ∃ exprs : List (List Char), cs = exprs.flatMap bracketed ∧ ∀ expr ∈ exprs, IsIndex expr := by
  simp only [indices?, Option.ite_none_right_eq_some] at h
  obtain ⟨hlast, hread⟩ := h
  obtain ⟨front, hfront⟩ := List.getLast?_eq_some_iff.mp hlast
  have hfree : ∀ piece ∈ front, ']' ∉ piece := by
    intro piece hpiece hmem
    have hsplit : piece ∈ cs.splitOnP (· == ']') := by
      rw [← List.splitOn_eq_splitOnP, hfront]
      exact List.mem_append_left _ hpiece
    exact absurd (Text.separator_free piece hsplit ']' hmem) (by decide)
  rw [hfront, List.dropLast_concat] at hread
  obtain ⟨exprs, rfl, hexprs⟩ := exists_exprs_of_mapM hfree hread
  refine ⟨exprs, ?_, hexprs⟩
  have hjoin : [']'].intercalate (cs.splitOn ']') = cs := List.intercalate_splitOn ']'
  rw [hfront, intercalate_concat_nil, List.flatMap_map] at hjoin
  exact hjoin.symm

end Brackets

namespace HasForm

variable {piece key key' : List Char} {exprs exprs' : List (List Char)}

theorem takeWhile_eq (h : HasForm piece key exprs) :
    piece.takeWhile (· != '[') = key ∧ piece.dropWhile (· != '[') = exprs.flatMap bracketed := by
  have hkey : ∀ c ∈ key, (c != '[') = true := by
    intro c hc
    simpa using ne_of_mem_of_not_mem hc h.opening_free
  rw [h.written, List.takeWhile_append_of_pos hkey, List.dropWhile_append_of_pos hkey]
  cases exprs with
  | nil => simp
  | cons expr exprs => simp [bracketed]

theorem unique (h : HasForm piece key exprs) (h' : HasForm piece key' exprs') :
    key = key' ∧ exprs = exprs' := by
  obtain ⟨htake, hdrop⟩ := h.takeWhile_eq
  obtain ⟨htake', hdrop'⟩ := h'.takeWhile_eq
  refine ⟨htake.symm.trans htake', ?_⟩
  apply bracketed_inj
  · exact fun expr hexpr => (h.isIndex expr hexpr).closing_free
  · exact fun expr hexpr => (h'.isIndex expr hexpr).closing_free
  · exact hdrop.symm.trans hdrop'

theorem ofPiece? (h : HasForm piece key exprs) :
    Segment.ofPiece? piece = some (.ofForm key exprs) := by
  obtain ⟨htake, hdrop⟩ := h.takeWhile_eq
  rw [Segment.ofPiece?, htake, hdrop, indices?_bracketed h.isIndex]
  cases hkey : key with
  | nil => exact absurd hkey h.key_ne_nil
  | cons c cs => rfl

end HasForm

theorem exists_form_of_ofPiece? {piece : List Char} {segment : Segment}
    (h : Segment.ofPiece? piece = some segment) : ∃ key exprs, HasForm piece key exprs := by
  unfold Segment.ofPiece? at h
  split at h
  · exact nomatch h
  · rename_i key hne
    obtain ⟨indices, hindices, -⟩ := Option.map_eq_some_iff.mp h
    obtain ⟨exprs, hexprs, hisIndex⟩ := exists_exprs_of_indices? hindices
    refine ⟨piece.takeWhile (· != '['), exprs, ?_, hne, ?_, hisIndex⟩
    · rw [← hexprs, List.takeWhile_append_dropWhile]
    · intro hmem
      exact absurd (List.all_eq_true.mp List.all_takeWhile _ hmem) (by decide)

theorem ofPiece?_eq_some_iff {piece : List Char} {segment : Segment} :
    Segment.ofPiece? piece = some segment ↔
      ∃ key exprs, HasForm piece key exprs ∧ segment = .ofForm key exprs := by
  constructor
  · intro h
    obtain ⟨key, exprs, hform⟩ := exists_form_of_ofPiece? h
    rw [hform.ofPiece?] at h
    exact ⟨key, exprs, hform, (Option.some.inj h).symm⟩
  · rintro ⟨key, exprs, hform, rfl⟩
    exact hform.ofPiece?

theorem ofPiece_eq_ok_iff {piece : List Char} {segment : Segment} :
    Segment.ofPiece piece = .ok segment ↔ Segment.ofPiece? piece = some segment := by
  rw [Segment.ofPiece]
  cases Segment.ofPiece? piece <;> simp

theorem ofPiece_eq_error_iff {piece : List Char} {e : Error} :
    Segment.ofPiece piece = .error e ↔
      (¬∃ key exprs, HasForm piece key exprs) ∧ e = .invalidToken (String.ofList piece) := by
  rw [Segment.ofPiece]
  cases hread : Segment.ofPiece? piece with
  | none =>
    have hform : ¬∃ key exprs, HasForm piece key exprs := by
      rintro ⟨key, exprs, hform⟩
      rw [hform.ofPiece?] at hread
      exact absurd hread (Option.some_ne_none _)
    simp [hform, eq_comm]
  | some segment => simp [exists_form_of_ofPiece? hread]

/-- A piece spells a segment if it has the form that stands for it. -/
def Spells (piece : List Char) (segment : Segment) : Prop :=
  ∃ key exprs, HasForm piece key exprs ∧ segment = .ofForm key exprs

theorem segments_eq_ok_iff {address : String} {found : List Segment} :
    segments address = .ok found ↔ List.Forall₂ Spells (pieces address) found := by
  rw [segments_eq_mapM, mapM_eq_ok_iff]
  simp only [ofPiece_eq_ok_iff, ofPiece?_eq_some_iff]
  rfl

theorem segments_eq_error_iff {address : String} {e : Error} :
    segments address = .error e ↔
      ∃ earlier piece later, pieces address = earlier ++ piece :: later ∧
        (∀ other ∈ earlier, ∃ key exprs, HasForm other key exprs) ∧
        (¬∃ key exprs, HasForm piece key exprs) ∧ e = .invalidToken (String.ofList piece) := by
  have hread : ∀ piece, (∃ segment, Segment.ofPiece piece = .ok segment) ↔
      ∃ key exprs, HasForm piece key exprs := by
    intro piece
    constructor
    · rintro ⟨segment, h⟩
      exact exists_form_of_ofPiece? (ofPiece_eq_ok_iff.mp h)
    · rintro ⟨key, exprs, h⟩
      exact ⟨_, ofPiece_eq_ok_iff.mpr h.ofPiece?⟩
  rw [segments_eq_mapM, mapM_eq_error_iff]
  simp only [hread, ofPiece_eq_error_iff]

def Segment.text (segment : Segment) : String :=
  segment.key ++ String.join (segment.indices.map fun index => "[" ++ index ++ "]")

/-- A segment that can be written as it is: no mark of an address stands in it where it would be taken
for one, and its indices are trimmed. -/
structure Segment.Plain (segment : Segment) : Prop where
  key_ne_empty : segment.key ≠ ""
  key_free : '/' ∉ segment.key.toList ∧ '[' ∉ segment.key.toList
  indices_ne_empty : ∀ index ∈ segment.indices, index ≠ ""
  indices_trimmed : ∀ index ∈ segment.indices, Text.trim index.toList = index.toList
  indices_free : ∀ index ∈ segment.indices,
    '/' ∉ index.toList ∧ '[' ∉ index.toList ∧ ']' ∉ index.toList

theorem Segment.toList_text (segment : Segment) :
    segment.text.toList =
      segment.key.toList ++ (segment.indices.map String.toList).flatMap bracketed := by
  simp [text, bracketed, String.toList_join, List.flatMap_map]

theorem Segment.Plain.hasForm {segment : Segment} (h : segment.Plain) :
    HasForm segment.text.toList segment.key.toList (segment.indices.map String.toList) where
  written := segment.toList_text
  key_ne_nil := by simpa using h.key_ne_empty
  opening_free := h.key_free.2
  isIndex := by
    intro expr hexpr
    obtain ⟨index, hindex, rfl⟩ := List.mem_map.mp hexpr
    obtain ⟨-, hopening, hclosing⟩ := h.indices_free index hindex
    refine ⟨hopening, hclosing, ?_⟩
    rw [← Text.trim_ne_nil_iff, h.indices_trimmed index hindex]
    simpa using h.indices_ne_empty index hindex

theorem Segment.Plain.spells {segment : Segment} (h : segment.Plain) :
    Spells segment.text.toList segment := by
  refine ⟨_, _, h.hasForm, ?_⟩
  have hindices : segment.indices.map (fun index => String.ofList (Text.trim index.toList)) =
      segment.indices := by
    conv_rhs => rw [← List.map_id segment.indices]
    apply List.map_congr_left
    intro index hindex
    rw [h.indices_trimmed index hindex, String.ofList_toList, id]
  simp [ofForm, List.map_map, Function.comp_def, hindices]

theorem Segment.Plain.slash_free {segment : Segment} (h : segment.Plain) :
    '/' ∉ segment.text.toList := by
  rw [toList_text, List.mem_append, List.mem_flatMap]
  rintro (hkey | ⟨expr, hexpr, hmem⟩)
  · exact h.key_free.1 hkey
  · obtain ⟨index, hindex, rfl⟩ := List.mem_map.mp hexpr
    have hfree := (h.indices_free index hindex).1
    simp [bracketed, hfree] at hmem

theorem Segment.Plain.text_ne_empty {segment : Segment} (h : segment.Plain) :
    segment.text.toList ≠ [] := by
  have hkey := h.hasForm.key_ne_nil
  rw [toList_text]
  simp [hkey]

theorem pieces_intercalate {texts : List String} (hfree : ∀ text ∈ texts, '/' ∉ text.toList)
    (hne : ∀ text ∈ texts, text.toList ≠ []) :
    pieces (String.intercalate "/" texts) = texts.map String.toList := by
  cases texts with
  | nil => rfl
  | cons text texts =>
    rw [pieces, String.toList_intercalate]
    change ((['/'].intercalate ((text :: texts).map String.toList)).splitOn '/').filter _ = _
    rw [List.splitOn_intercalate '/' (by simpa using hfree) (by simp), List.filter_eq_self]
    intro piece hpiece
    obtain ⟨other, hother, rfl⟩ := List.mem_map.mp hpiece
    simpa using hne other hother

theorem segments_text {found : List Segment} (h : ∀ segment ∈ found, segment.Plain) :
    segments (String.intercalate "/" (found.map Segment.text)) = .ok found := by
  have hpieces : pieces (String.intercalate "/" (found.map Segment.text)) =
      found.map fun segment => segment.text.toList := by
    rw [pieces_intercalate, List.map_map]
    · rfl
    · intro text htext
      obtain ⟨segment, hsegment, rfl⟩ := List.mem_map.mp htext
      exact (h segment hsegment).slash_free
    · intro text htext
      obtain ⟨segment, hsegment, rfl⟩ := List.mem_map.mp htext
      exact (h segment hsegment).text_ne_empty
  rw [segments_eq_ok_iff, hpieces, List.forall₂_map_left_iff, List.forall₂_same]
  intro segment hsegment
  exact (h segment hsegment).spells

end Address
end Accessors
