import Accessors.Proofs.Relocation

/-!
The layout of a schema. Its lines may have blanks around them, and blank lines and comments may stand
anywhere between them. None of it changes the tree of the schema, or its fault: that is found on the
same line, wherever the line now stands.
-/

set_option autoImplicit false

namespace Accessors.Schema

/-- A line of a layout: a line of the plain schema with blanks around it, or an added line that says
nothing. -/
inductive Placed where
  | kept (left line right : String) (hline : '\n' ∉ line.toList)
      (hblank : ∀ c ∈ (left ++ right).toList, Text.isBlank c = true ∧ c ≠ '\n')
  | added (text : String) (htext : '\n' ∉ text.toList)
      (hsilent : Text.trim text.toList = [] ∨ (Text.trim text.toList).head? = some '#')

namespace Placed

def text : Placed → String
  | kept left line right _ _ => left ++ line ++ right
  | added text _ _ => text

/-- The line of the plain schema. -/
def line? : Placed → Option String
  | kept _ line _ _ _ => some line
  | added _ _ _ => none

theorem newline_free_text (placed : Placed) : '\n' ∉ placed.text.toList := by
  cases placed with
  | kept left line right hline hblank =>
    intro hmem
    rw [text, String.toList_append, String.toList_append, List.mem_append, List.mem_append] at hmem
    rw [String.toList_append, List.forall_mem_append] at hblank
    rcases hmem with (hmem | hmem) | hmem
    · exact (hblank.1 _ hmem).2 rfl
    · exact hline hmem
    · exact (hblank.2 _ hmem).2 rfl
  | added text htext hsilent => exact htext

theorem newline_free_line {placed : Placed} {line : String} (h : placed.line? = some line) :
    '\n' ∉ line.toList := by
  cases placed with
  | kept left line' right hline hblank =>
    obtain rfl := Option.some.inj h
    exact hline
  | added text htext hsilent => exact nomatch h

end Placed

/-- The lines of a schema as they are laid out, from the first to the last. -/
abbrev Layout := List Placed

namespace Layout

/-- The schema without its layout. -/
def plain (layout : Layout) : String := String.intercalate "\n" (layout.filterMap Placed.line?)

def text (layout : Layout) : String := String.intercalate "\n" (layout.map Placed.text)

/-- The plain line with number `n` has number `n'` in the layout. -/
def Places (layout : Layout) (n n' : Nat) : Prop :=
  ∃ before placed after, layout = before ++ placed :: after ∧ placed.line?.isSome = true ∧
    n = (before.filterMap Placed.line?).length + 1 ∧ n' = before.length + 1

theorem ofText_plain (layout : Layout) :
    Line.ofText layout.plain =
      Line.numbered 1 ((layout.filterMap Placed.line?).map String.toList) := by
  apply Line.ofText_intercalate
  intro line hline
  obtain ⟨placed, -, hplaced⟩ := List.mem_filterMap.mp hline
  exact Placed.newline_free_line hplaced

theorem ofText_text (layout : Layout) :
    Line.ofText layout.text = Line.numbered 1 ((layout.map Placed.text).map String.toList) := by
  apply Line.ofText_intercalate
  intro line hline
  obtain ⟨placed, -, rfl⟩ := List.mem_map.mp hline
  exact placed.newline_free_text

/-- From any line of a layout on, the plain lines and the laid-out ones say the same. -/
theorem forall₂_numbered {layout : Layout} {before after : List Placed}
    (h : layout = before ++ after) :
    List.Forall₂ (Line.Moved layout.Places)
      (Line.numbered ((before.filterMap Placed.line?).length + 1)
        ((after.filterMap Placed.line?).map String.toList))
      (Line.numbered (before.length + 1) ((after.map Placed.text).map String.toList)) := by
  induction after generalizing before with
  | nil => exact .nil
  | cons placed after ih =>
    have hnext := @ih (before ++ [placed]) (by rw [h, List.append_assoc, List.singleton_append])
    rw [List.map_cons, List.map_cons, Line.numbered_cons]
    cases placed with
    | kept left line right hline hblank =>
      have htrim : Text.trim (left ++ line ++ right).toList = Text.trim line.toList := by
        rw [String.toList_append, List.forall_mem_append] at hblank
        rw [String.toList_append, String.toList_append]
        exact Text.trim_padded (fun c hc => (hblank.1 c hc).1) (fun c hc => (hblank.2 c hc).1) _
      simp only [List.filterMap_append, List.filterMap_cons, List.filterMap_nil, Placed.line?,
        List.length_append, List.length_singleton, List.map_cons] at hnext ⊢
      rw [Line.numbered_cons]
      refine List.rel_append ?_ hnext
      simp only [Line.read?, Placed.text, htrim]
      split
      · exact .cons ⟨rfl, before, _, after, h, rfl, rfl, rfl⟩ .nil
      · exact .nil
    | added text htext hsilent =>
      have hread : Line.read? text.toList (before.length + 1) = none := by
        rcases hsilent with hsilent | hsilent <;> simp [Line.read?, Line.isLogical, hsilent]
      simpa [List.filterMap_cons, Placed.line?, Placed.text, hread] using hnext

end Layout

/-- A schema that is laid out in some way gives the tree of the plain one, or its fault on the line at
its new place. -/
theorem parse_layout (layout : Layout) :
    Relocated layout.Places Eq (parse layout.plain).outcome (parse layout.text).outcome := by
  apply relocated_parse
  rw [layout.ofText_plain, layout.ofText_text]
  exact @Layout.forall₂_numbered layout [] layout rfl

/-- Blanks can be checked one by one. -/
theorem blanks_of_all {cs : List Char}
    (h : cs.all (fun c => Text.isBlank c && c != '\n') = true) :
    ∀ c ∈ cs, Text.isBlank c = true ∧ c ≠ '\n' := by
  intro c hc
  simpa using List.all_eq_true.mp h c hc

/-- Three lines with blanks around them, between an empty line and comments. -/
def paddedLayout : Layout := [
  .added "" (by decide) (by decide),
  .kept "\t" "class a" " \r" (by decide) (blanks_of_all (by decide)),
  .added "  # class b" (by decide) (by decide),
  .kept "" "bool c" "\u00a0" (by decide) (blanks_of_all (by decide)),
  .kept "\r " "int" "" (by decide) (blanks_of_all (by decide)),
  .added "#" (by decide) (by decide)]

theorem parse_layout_padded :
    paddedLayout.plain = "class a\nbool c\nint" ∧
      paddedLayout.text = "\n\tclass a \r\n  # class b\nbool c\u00a0\n\r int\n#" ∧
      (parse paddedLayout.plain).outcome = .error (.malformed 3 "int" .missingName) ∧
      (parse paddedLayout.text).outcome = .error (.malformed 5 "int" .missingName) ∧
      Relocated paddedLayout.Places Eq (parse paddedLayout.plain).outcome
        (parse paddedLayout.text).outcome := by
  refine ⟨rfl, rfl, ?_, ?_, parse_layout paddedLayout⟩
  · rw [parse_outcome]
    rfl
  · rw [parse_outcome]
    rfl

end Accessors.Schema
