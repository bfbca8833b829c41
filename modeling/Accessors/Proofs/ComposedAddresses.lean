import Accessors.Proofs.PieceForms

/-!
Addresses that are put together from a parent and tokens. Each of them may be any text: an empty one, one
with separators at its ends or inside, one that is refused. A separator stands between them in the
address, so no piece reaches from one into the next, and the address is read part by part.
-/

set_option autoImplicit false

namespace Accessors

/-- How a text is read that is put together from parts: as its parts are, one after the other. -/
structure ReadByParts {β : Type} (read : String → Except Error β) (join : List β → β)
    (parts : List String) (whole : String) : Prop where
  accepted : (∃ value, read whole = .ok value) ↔ ∀ part ∈ parts, ∃ value, read part = .ok value
  joined : ∀ values, List.Forall₂ (fun part value => read part = .ok value) parts values →
    read whole = .ok (join values)
  /-- The first part that is refused says why the whole is. -/
  refused : ∀ e, read whole = .error e ↔
    ∃ earlier part later, parts = earlier ++ part :: later ∧
      (∀ other ∈ earlier, ∃ value, read other = .ok value) ∧ read part = .error e

theorem exists_of_forall₂ {α β : Type} {R : α → β → Prop} {xs : List α} {ys : List β}
    (h : List.Forall₂ R xs ys) : ∀ x ∈ xs, ∃ y, R x y := by
  induction h with
  | nil => simp
  | cons hxy _ ih => exact List.forall_mem_cons.mpr ⟨⟨_, hxy⟩, ih⟩

theorem ReadByParts.of_mapM {β : Type} {read : String → Except Error β} {join : List β → β}
    {parts : List String} {whole : String} (h : read whole = join <$> parts.mapM read) :
    ReadByParts read join parts whole where
  accepted := by
    rw [h]
    constructor
    · rintro ⟨value, hvalue⟩
      obtain ⟨values, hvalues, -⟩ := map_eq_ok_iff.mp hvalue
      exact exists_of_forall₂ (mapM_eq_ok_iff.mp hvalues)
    · intro hparts
      cases hread : parts.mapM read with
      | ok values => exact ⟨join values, rfl⟩
      | error e =>
        obtain ⟨earlier, part, later, rfl, -, herror⟩ := mapM_eq_error_iff.mp hread
        obtain ⟨value, hvalue⟩ := hparts part (by simp)
        rw [herror] at hvalue
        exact nomatch hvalue
  joined := by
    intro values hvalues
    rw [h, mapM_eq_ok_iff.mpr hvalues, Except.map_ok]
  refused := by
    intro e
    rw [h, map_eq_error_iff, mapM_eq_error_iff]

/-- Segments and subscripts of an address are those of its parent and its tokens, in their order. -/
theorem address_read_by_parts (parent : String) (tokens : List String) :
    ReadByParts Address.segments List.flatten (parent :: tokens)
        (tokens.foldl Address.extend parent) ∧
      ReadByParts Cpp.subscripts String.join (parent :: tokens)
        (tokens.foldl Address.extend parent) := by
  constructor
  · exact .of_mapM (Address.segments_foldl parent tokens)
  · exact .of_mapM (Cpp.subscripts_foldl parent tokens)

-- No separator is lost between tokens, and none is put behind one that ends in it.
example : ["b/", "", "/c[1]"].foldl Address.extend "a" = "a/b//c[1]" := by decide

end Accessors
