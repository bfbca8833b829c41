import Accessors.Proofs.Blanks

/-!
The physical lines of a text by where they stand in it. A physical line reaches from one newline to the
next, and the newlines in front of it give its number. A carriage return ends no line; right before a
newline it belongs to the ending. What follows the last newline is a line unless it is empty.
-/

set_option autoImplicit false

namespace Accessors.Text

/-- What follows a physical line: the end of the text, unless the line is empty, or a newline. One
carriage return right before the newline belongs to the ending. -/
inductive Ending (raw : List Char) : List Char → Prop where
  | endOfText : raw ≠ [] → Ending raw []
  | newline {rest : List Char} : raw.getLast? ≠ some '\r' → Ending raw ('\n' :: rest)
  | returnNewline {rest : List Char} : Ending raw ('\r' :: '\n' :: rest)

/-- Nothing, or lines of which the last one is ended too. -/
def WholeLines (cs : List Char) : Prop := ∀ c ∈ cs.getLast?, c = '\n'

/-- A text has the physical line `raw` between `before` and `after`. -/
structure LineAt (cs before raw after : List Char) : Prop where
  written : cs = before ++ (raw ++ after)
  starts : WholeLines before
  newline_free : '\n' ∉ raw
  ends : Ending raw after

/-- The physical line with this number, counted from one. -/
def PhysicalLine (cs : List Char) (number : Nat) (raw : List Char) : Prop :=
  ∃ before after, LineAt cs before raw after ∧ number = before.count '\n' + 1

/-- A text without a newline, or a line with its newline before another text. -/
@[elab_as_elim]
theorem newline_induction {motive : List Char → Prop}
    (last : ∀ raw, '\n' ∉ raw → motive raw)
    (line : ∀ raw rest, '\n' ∉ raw → motive rest → motive (raw ++ '\n' :: rest))
    (cs : List Char) : motive cs := by
  induction hn : cs.length using Nat.strongRecOn generalizing cs with
  | ind n ih =>
    by_cases hmem : '\n' ∈ cs
    · obtain ⟨raw, rest, rfl, hraw⟩ := List.eq_append_cons_of_mem hmem
      refine line raw rest hraw (ih rest.length ?_ rest rfl)
      simp only [List.length_append, List.length_cons] at hn
      omega
    · exact last cs hmem

theorem lines_of_newline_free {raw : List Char} (h : '\n' ∉ raw) :
    lines raw = [raw].filter (!·.isEmpty) := by
  rw [lines, List.splitOn_eq_singleton h]
  rfl

theorem count_newline {line : List Char} (rest : List Char) (hline : '\n' ∉ line) :
    (line ++ '\n' :: rest).count '\n' = rest.count '\n' + 1 := by
  rw [List.count_append, List.count_eq_zero_of_not_mem hline, List.count_cons_self, Nat.zero_add]

theorem wholeLines_nil : WholeLines [] := by simp [WholeLines]

theorem wholeLines_newline_iff {line rest : List Char} :
    WholeLines (line ++ '\n' :: rest) ↔ WholeLines rest := by
  rw [WholeLines, WholeLines, List.getLast?_append, List.getLast?_cons]
  cases rest.getLast? <;> simp

theorem WholeLines.eq_nil {raw : List Char} (h : WholeLines raw) (hraw : '\n' ∉ raw) :
    raw = [] := by
  rcases raw.eq_nil_or_concat with rfl | ⟨init, c, rfl⟩
  · rfl
  · obtain rfl := h c (by simp)
    simp at hraw

/-- Behind whole lines, a text is read as if it stood alone. -/
theorem WholeLines.lines_append {front : List Char} (h : WholeLines front) (back : List Char) :
    lines (front ++ back) = lines front ++ lines back := by
  induction front using newline_induction with
  | last raw hraw =>
    obtain rfl := h.eq_nil hraw
    rfl
  | line raw rest hraw ih =>
    rw [List.append_assoc, List.cons_append, lines_newline _ hraw, lines_newline _ hraw,
      ih (wholeLines_newline_iff.mp h), List.cons_append]

/-- There are as many whole lines as newlines. -/
theorem WholeLines.length_lines {front : List Char} (h : WholeLines front) :
    (lines front).length = front.count '\n' := by
  induction front using newline_induction with
  | last raw hraw =>
    obtain rfl := h.eq_nil hraw
    rfl
  | line raw rest hraw ih =>
    rw [lines_newline _ hraw, List.length_cons, ih (wholeLines_newline_iff.mp h),
      count_newline _ hraw]

theorem Ending.head?_lines {raw after : List Char} (h : Ending raw after) (hraw : '\n' ∉ raw) :
    (lines (raw ++ after)).head? = some raw := by
  cases h with
  | endOfText hne => simp [lines_of_newline_free hraw, hne]
  | newline hreturn => rw [lines_newline _ hraw, dropReturn, if_neg hreturn, List.head?_cons]
  | @returnNewline rest =>
    have hline : '\n' ∉ raw ++ ['\r'] := by simp [hraw]
    have hlines := lines_newline rest hline
    rw [List.append_assoc, List.singleton_append] at hlines
    rw [hlines, dropReturn, List.getLast?_concat, if_pos rfl, List.dropLast_concat, List.head?_cons]

/-- The ending of a line takes the carriage return that the line is left without. -/
theorem exists_ending (line rest : List Char) :
    ∃ after, line ++ '\n' :: rest = dropReturn line ++ after ∧ Ending (dropReturn line) after := by
  unfold dropReturn
  split
  · rename_i hlast
    obtain ⟨front, rfl⟩ := List.getLast?_eq_some_iff.mp hlast
    exact ⟨'\r' :: '\n' :: rest, by simp, .returnNewline⟩
  · rename_i hlast
    exact ⟨'\n' :: rest, rfl, .newline hlast⟩

theorem dropReturn_subset (line : List Char) : dropReturn line ⊆ line := by
  unfold dropReturn
  split
  · exact List.dropLast_subset line
  · exact List.Subset.refl line

namespace LineAt
variable {cs before raw after : List Char}

theorem getElem?_lines (h : LineAt cs before raw after) :
    (lines cs)[before.count '\n']? = some raw := by
  rw [h.written, h.starts.lines_append, ← h.starts.length_lines,
    List.getElem?_append_right (Nat.le_refl _), Nat.sub_self, ← List.head?_eq_getElem?,
    h.ends.head?_lines h.newline_free]

/-- One line further down. -/
theorem below (h : LineAt cs before raw after) (line : List Char) :
    LineAt (line ++ '\n' :: cs) (line ++ '\n' :: before) raw after where
  written := by rw [h.written, List.append_assoc, List.cons_append]
  starts := wholeLines_newline_iff.mpr h.starts
  newline_free := h.newline_free
  ends := h.ends

end LineAt

theorem PhysicalLine.one_le {cs raw : List Char} {number : Nat} (h : PhysicalLine cs number raw) :
    1 ≤ number := by
  obtain ⟨before, after, -, rfl⟩ := h
  omega

/-- The lines of a text are its physical lines, each at its place. -/
theorem getElem?_lines_iff {cs raw : List Char} {n : Nat} :
    (lines cs)[n]? = some raw ↔ PhysicalLine cs (n + 1) raw := by
  constructor
  · intro h
    induction cs using newline_induction generalizing n with
    | last line hline =>
      rw [lines_of_newline_free hline] at h
      cases line with
      | nil => simp at h
      | cons c cs =>
        obtain ⟨rfl, rfl⟩ : n = 0 ∧ c :: cs = raw := by simpa [List.getElem?_singleton] using h
        exact ⟨[], [], ⟨by simp, wholeLines_nil, hline, .endOfText (List.cons_ne_nil c cs)⟩, rfl⟩
    | line line rest hline ih =>
      rw [lines_newline rest hline] at h
      cases n with
      | zero =>
        obtain rfl : dropReturn line = raw := by simpa using h
        obtain ⟨after, hwritten, hends⟩ := exists_ending line rest
        refine ⟨[], after, ⟨hwritten, wholeLines_nil, ?_, hends⟩, rfl⟩
        exact fun hmem => hline (dropReturn_subset line hmem)
      | succ n =>
        rw [List.getElem?_cons_succ] at h
        obtain ⟨before, after, hat, hn⟩ := ih h
        refine ⟨line ++ '\n' :: before, after, hat.below line, ?_⟩
        rw [count_newline before hline, hn]
  · rintro ⟨before, after, hat, hn⟩
    obtain rfl := Nat.succ.inj hn
    exact hat.getElem?_lines

end Accessors.Text
