import Mathlib.Data.List.TakeDrop
import Accessors.Files.Path
import Accessors.Proofs.Segments

/-!
Paths as text. A path is put together like an address, so its steps are those of its parts. A name
that is put behind a directory is one step, the last one.
-/

set_option autoImplicit false

namespace Accessors.Path

/-- A step that names an entry of a directory. -/
structure IsName (name : String) : Prop where
  slash_free : '/' ∉ name.toList
  nonempty : name ≠ ""
  not_dots : isDots name = false

theorem steps_ofText (text : String) :
    (ofText text).steps = (Address.pieces text).map String.ofList := rfl

theorem steps_join (directory name : String) :
    (ofText (join directory name)).steps = (ofText directory).steps ++ (ofText name).steps := by
  have hjoin : join directory name = Address.extend directory name := rfl
  rw [hjoin, steps_ofText, Address.pieces_extend, List.map_append, steps_ofText, steps_ofText]

theorem IsName.steps {name : String} (h : IsName name) : (ofText name).steps = [name] := by
  have hne : name.toList.isEmpty = false := by
    rw [List.isEmpty_eq_false_iff]
    exact fun hnil => h.nonempty (String.toList_eq_nil_iff.mp hnil)
  rw [steps_ofText, Address.pieces, List.splitOn_eq_singleton h.slash_free,
    List.filter_cons_of_pos (by rw [hne]; rfl), List.filter_nil, List.map_singleton,
    String.ofList_toList]

theorem IsName.steps_join {name : String} (h : IsName name) (directory : String) :
    (ofText (join directory name)).steps = (ofText directory).steps ++ [name] := by
  rw [Path.steps_join, h.steps]

theorem slash_free_of_mem_steps {text step : String} (h : step ∈ (ofText text).steps) :
    '/' ∉ step.toList := by
  rw [steps_ofText] at h
  obtain ⟨piece, hpiece, rfl⟩ := List.mem_map.mp h
  have hsplit := (List.mem_filter.mp hpiece).1
  rw [List.splitOn_eq_splitOnP] at hsplit
  rw [String.toList_ofList]
  intro hmem
  exact absurd (Text.separator_free piece hsplit '/' hmem) (by decide)

theorem components_subset_steps (p : Path) : p.components ⊆ p.steps := by
  unfold components
  split
  · rename_i rest hsteps
    rw [hsteps]
    exact List.cons_subset_cons _ List.filter_sublist.subset
  · exact List.filter_sublist.subset

theorem stem_subset (name : String) : (stem name).toList ⊆ name.toList := by
  have hparts := List.takeWhile_append_dropWhile (p := (· != '.')) (l := name.toList.reverse)
  intro c hc
  rw [stem, List.span_eq_takeWhile_dropWhile] at hc
  rw [← List.mem_reverse, ← hparts, List.mem_append]
  dsimp only at hc
  split at hc
  · rename_i dot first rest hfront
    rw [hfront]
    rw [String.toList_ofList, List.mem_reverse] at hc
    exact .inr (List.mem_cons_of_mem dot hc)
  · rwa [String.toList_ofList, List.mem_reverse, List.mem_append] at hc

theorem slash_free_of_fileStem {text base : String} (h : (ofText text).fileStem? = some base) :
    '/' ∉ base.toList := by
  obtain ⟨name, hname, rfl⟩ := Option.map_eq_some_iff.mp h
  obtain ⟨hlast, -⟩ := Option.filter_eq_some_iff.mp hname
  have hstep := components_subset_steps _ (List.mem_of_getLast? hlast)
  exact fun hmem => slash_free_of_mem_steps hstep (stem_subset name hmem)

end Accessors.Path
