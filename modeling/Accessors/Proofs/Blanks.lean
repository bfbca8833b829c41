import Mathlib.Data.List.Induction
import Accessors.Schema.Declaration

/-!
Cutting text at blanks. A trimmed text has no blank at its start, the words of a text have no
blank at all, and the lines of a text that is written line by line are those lines again. Blanks
around a line make no difference to how it is read.
-/

set_option autoImplicit false

namespace Accessors.Text

section Split
variable {α : Type} {p : α → Bool}

theorem splitOnP_cons_of_not {x : α} (xs : List α) (hx : p x = false) :
    ∃ first rest, xs.splitOnP p = first :: rest ∧
      (x :: xs).splitOnP p = (x :: first) :: rest := by
  obtain ⟨first, rest, hs⟩ := List.exists_cons_of_ne_nil (List.splitOnP_ne_nil p xs)
  exact ⟨first, rest, hs, by simp [List.splitOnP_cons_eq_if_modifyHead, hx, hs]⟩

/-- The pieces of a split hold no separator. -/
theorem separator_free {xs : List α} : ∀ piece ∈ xs.splitOnP p, ∀ x ∈ piece, p x = false := by
  induction xs with
  | nil => simp
  | cons x xs ih =>
    cases hx : p x with
    | true =>
      rw [List.splitOnP_cons_eq_if_modifyHead, if_pos hx]
      exact List.forall_mem_cons.mpr ⟨by simp, ih⟩
    | false =>
      obtain ⟨first, rest, hs, hcons⟩ := splitOnP_cons_of_not xs hx
      rw [hs] at ih
      obtain ⟨hfirst, hrest⟩ := List.forall_mem_cons.mp ih
      rw [hcons]
      exact List.forall_mem_cons.mpr ⟨List.forall_mem_cons.mpr ⟨hx, hfirst⟩, hrest⟩

theorem subset_of_mem_splitOnP {xs : List α} : ∀ piece ∈ xs.splitOnP p, piece ⊆ xs := by
  induction xs with
  | nil => simp
  | cons x xs ih =>
    cases hx : p x with
    | true =>
      rw [List.splitOnP_cons_eq_if_modifyHead, if_pos hx]
      refine List.forall_mem_cons.mpr ⟨by simp, fun piece h => ?_⟩
      exact List.subset_cons_of_subset x (ih piece h)
    | false =>
      obtain ⟨first, rest, hs, hcons⟩ := splitOnP_cons_of_not xs hx
      rw [hs] at ih
      obtain ⟨hfirst, hrest⟩ := List.forall_mem_cons.mp ih
      rw [hcons]
      refine List.forall_mem_cons.mpr ⟨?_, fun piece h => ?_⟩
      · exact List.cons_subset_cons x hfirst
      · exact List.subset_cons_of_subset x (hrest piece h)

end Split

theorem mem_words {cs word : List Char} (h : word ∈ words cs) :
    word ≠ [] ∧ ∀ c ∈ word, isBlank c = false := by
  obtain ⟨hm, hne⟩ := List.mem_filter.mp h
  exact ⟨by simpa using hne, separator_free _ hm⟩

/-- A text that does not start with a blank starts with its first word. -/
theorem words_cons {c : Char} (cs : List Char) (hc : isBlank c = false) :
    ∃ first rest, words (c :: cs) = (c :: first) :: rest := by
  obtain ⟨first, rest, -, h⟩ := splitOnP_cons_of_not cs hc
  exact ⟨first, rest.filter (!·.isEmpty), by simp [words, h]⟩

theorem words_cons_blank {c : Char} (cs : List Char) (hc : isBlank c = true) :
    words (c :: cs) = words cs := by
  simp [words, List.splitOnP_cons_eq_if_modifyHead, hc]

theorem words_trimStart (cs : List Char) : words (trimStart cs) = words cs := by
  induction cs with
  | nil => rfl
  | cons c cs ih =>
    cases hc : isBlank c with
    | true => rw [words_cons_blank cs hc, ← ih, trimStart, List.dropWhile_cons, if_pos hc, trimStart]
    | false => simp [trimStart, hc]

theorem words_append_blank (xs ys : List Char) {c : Char} (hc : isBlank c = true) :
    words (xs ++ c :: ys) = words xs ++ words ys := by
  rw [words, List.splitOnP_append_cons xs ys hc, List.filter_append, words, words]

theorem words_blank_append {pad : List Char} (h : ∀ c ∈ pad, isBlank c = true) (cs : List Char) :
    words (pad ++ cs) = words cs := by
  induction pad with
  | nil => rfl
  | cons c pad ih =>
    obtain ⟨hc, hpad⟩ := List.forall_mem_cons.mp h
    rw [List.cons_append, words_cons_blank _ hc, ih hpad]

theorem words_trimEnd (cs : List Char) : words (trimEnd cs) = words cs := by
  induction cs using List.reverseRecOn with
  | nil => rfl
  | append_singleton cs c ih =>
    cases hc : isBlank c with
    | true =>
      rw [words_append_blank cs [] hc, ← ih, trimEnd, List.reverse_append]
      simp [hc, trimEnd, words]
    | false => simp [trimEnd, hc]

theorem words_trim (cs : List Char) : words (trim cs) = words cs := by
  rw [trim, words_trimEnd, words_trimStart]

theorem trimStart_eq_self_iff {cs : List Char} :
    trimStart cs = cs ↔ ∀ c ∈ cs.head?, isBlank c = false := by
  cases cs with
  | nil => simp [trimStart]
  | cons c cs =>
    by_cases hc : isBlank c = true
    · have hlen := (List.dropWhile_suffix (l := cs) isBlank).length_le
      constructor
      · intro h
        have := congrArg List.length h
        simp only [trimStart, List.dropWhile_cons, hc, if_true, List.length_cons] at this
        omega
      · simp [hc]
    · simp [trimStart, hc]

theorem trimEnd_isPrefix (cs : List Char) : (trimEnd cs).IsPrefix cs := by
  have h := List.dropWhile_suffix (l := cs.reverse) isBlank
  simpa [trimEnd] using List.reverse_prefix.mpr h

theorem trim_subset (cs : List Char) : trim cs ⊆ cs :=
  List.Subset.trans (trimEnd_isPrefix (trimStart cs)).subset (List.dropWhile_suffix isBlank).subset

theorem head_trimStart_not_blank {cs : List Char} :
    ∀ c ∈ (trimStart cs).head?, isBlank c = false := by
  intro c hc
  have h := List.head?_dropWhile_not isBlank cs
  simp only [trimStart] at hc
  rw [Option.mem_def.mp hc] at h
  exact h

/-- A trimmed text does not start with a blank. -/
theorem trimStart_trim (cs : List Char) : trimStart (trim cs) = trim cs := by
  rw [trimStart_eq_self_iff]
  intro c hc
  obtain ⟨tail, htail⟩ := trimEnd_isPrefix (trimStart cs)
  apply @head_trimStart_not_blank cs
  cases ht : trim cs with
  | nil => simp [ht] at hc
  | cons d ds =>
    rw [trim] at ht
    rw [ht] at htail
    rw [trim, ht] at hc
    simpa [← htail] using hc

theorem not_blank_of_trim {c : Char} {cs rest : List Char} (h : trim cs = c :: rest) :
    isBlank c = false := by
  apply trimStart_eq_self_iff.mp (trimStart_trim cs)
  rw [h]
  rfl

/-- A trimmed text starts like its first word. -/
theorem head?_trim {cs word : List Char} {more : List (List Char)} (h : words cs = word :: more) :
    (trim cs).head? = word.head? := by
  rw [← words_trim] at h
  cases htrim : trim cs with
  | nil =>
    rw [htrim] at h
    exact nomatch h
  | cons c rest =>
    obtain ⟨first, others, hwords⟩ := words_cons rest (not_blank_of_trim htrim)
    rw [htrim, hwords] at h
    rw [← (List.cons.inj h).1]
    rfl

theorem not_mem_of_isBlank {b : Char} {cs : List Char} (hb : isBlank b = true)
    (h : ∀ c ∈ cs, isBlank c = false) : b ∉ cs := by
  intro hmem
  rw [h b hmem] at hb
  exact nomatch hb

/-- Blanks before a text go, and a text with no blank at either end stays. -/
theorem trim_append {pad cs : List Char} (hpad : ∀ c ∈ pad, isBlank c = true)
    (hhead : ∃ c ∈ cs.head?, isBlank c = false) (hlast : ∃ c ∈ cs.getLast?, isBlank c = false) :
    trim (pad ++ cs) = cs := by
  have hstart : trimStart (pad ++ cs) = cs := by
    rw [trimStart, List.dropWhile_append_of_pos hpad]
    obtain ⟨c, hc, hblank⟩ := hhead
    rw [← trimStart, trimStart_eq_self_iff]
    intro d hd
    obtain rfl := Option.mem_unique hc hd
    exact hblank
  obtain ⟨c, hc, hblank⟩ := hlast
  obtain ⟨front, rfl⟩ := List.getLast?_eq_some_iff.mp hc
  rw [trim, hstart, trimEnd]
  simp [hblank]

/-- Blanks at the two ends of a text make no difference to what is left of it. -/
theorem trim_padded {left right : List Char} (hleft : ∀ c ∈ left, isBlank c = true)
    (hright : ∀ c ∈ right, isBlank c = true) (cs : List Char) :
    trim (left ++ cs ++ right) = trim cs := by
  have hdrop : trimStart (left ++ cs ++ right) = trimStart (cs ++ right) := by
    rw [trimStart, List.append_assoc, List.dropWhile_append_of_pos hleft, trimStart]
  have hend : ∀ ds : List Char, trimEnd (ds ++ right) = trimEnd ds := by
    intro ds
    rw [trimEnd, List.reverse_append, List.dropWhile_append_of_pos, trimEnd]
    simpa using hright
  rw [trim, hdrop, trimStart, List.dropWhile_append]
  split
  · rename_i hempty
    have hnil : right.dropWhile isBlank = [] := by
      have hright := @List.dropWhile_append_of_pos _ isBlank right [] hright
      rwa [List.append_nil] at hright
    rw [trim, trimStart, List.isEmpty_iff.mp hempty, hnil]
  · rw [hend, trim, trimStart]

/-- Trimming takes blanks off the two ends and nothing else. -/
theorem exists_pads (cs : List Char) :
    ∃ left right, (∀ c ∈ left, isBlank c = true) ∧ (∀ c ∈ right, isBlank c = true) ∧
      cs = left ++ trim cs ++ right := by
  have hstart := List.takeWhile_append_dropWhile (p := isBlank) (l := cs)
  have hend := List.takeWhile_append_dropWhile (p := isBlank) (l := (trimStart cs).reverse)
  refine ⟨cs.takeWhile isBlank, ((trimStart cs).reverse.takeWhile isBlank).reverse, ?_, ?_, ?_⟩
  · intro c hc
    exact List.all_eq_true.mp List.all_takeWhile c hc
  · intro c hc
    exact List.all_eq_true.mp List.all_takeWhile c (List.mem_reverse.mp hc)
  · rw [trim, trimEnd, List.append_assoc, ← List.reverse_append, hend, List.reverse_reverse,
      trimStart, hstart]

theorem trim_of_not_blank {cs : List Char} (h : ∀ c ∈ cs, isBlank c = false) : trim cs = cs := by
  have hstart : ∀ {ds : List Char}, ds ⊆ cs → trimStart ds = ds := by
    intro ds hsub
    rw [trimStart_eq_self_iff]
    intro c hc
    exact h c (hsub (List.mem_of_mem_head? hc))
  have hend : trimStart cs.reverse = cs.reverse := hstart (by simp)
  rw [trim, hstart (List.Subset.refl cs), trimEnd, ← trimStart, hend, List.reverse_reverse]

theorem mem_trim_iff {c : Char} (hc : isBlank c = false) {cs : List Char} :
    c ∈ trim cs ↔ c ∈ cs := by
  constructor
  · intro h
    exact trim_subset cs h
  · intro h
    obtain ⟨left, right, hleft, hright, hcs⟩ := exists_pads cs
    rw [hcs, List.mem_append, List.mem_append] at h
    rcases h with (h | h) | h
    · exact absurd (hleft c h) (by simp [hc])
    · exact h
    · exact absurd (hright c h) (by simp [hc])

theorem trim_ne_nil_iff {cs : List Char} : trim cs ≠ [] ↔ ∃ c ∈ cs, isBlank c = false := by
  constructor
  · intro h
    obtain ⟨c, rest, htrim⟩ := List.exists_cons_of_ne_nil h
    refine ⟨c, trim_subset cs ?_, not_blank_of_trim htrim⟩
    rw [htrim]
    exact List.mem_cons_self
  · rintro ⟨c, hc, hblank⟩
    exact List.ne_nil_of_mem ((mem_trim_iff hblank).mpr hc)

/-- `raw` is `text` with blanks around it, and `text` has no blank at its own ends. -/
structure Trims (raw text : List Char) : Prop where
  padded : ∃ left right, (∀ c ∈ left, isBlank c = true) ∧ (∀ c ∈ right, isBlank c = true) ∧
    raw = left ++ text ++ right
  starts : ∀ c ∈ text.head?, isBlank c = false
  ends : ∀ c ∈ text.getLast?, isBlank c = false

theorem getLast_trim_not_blank {cs : List Char} :
    ∀ c ∈ (trim cs).getLast?, isBlank c = false := by
  intro c hc
  rw [trim, trimEnd, List.getLast?_reverse, ← trimStart] at hc
  exact head_trimStart_not_blank c hc

theorem trim_eq_iff {raw text : List Char} : trim raw = text ↔ Trims raw text := by
  constructor
  · rintro rfl
    exact ⟨exists_pads raw, trimStart_eq_self_iff.mp (trimStart_trim raw), getLast_trim_not_blank⟩
  · rintro ⟨⟨left, right, hleft, hright, rfl⟩, hstarts, hends⟩
    rw [trim_padded hleft hright]
    have hreverse : trimStart text.reverse = text.reverse := by
      rw [trimStart_eq_self_iff, List.head?_reverse]
      exact hends
    rw [trim, trimStart_eq_self_iff.mpr hstarts, trimEnd, ← trimStart, hreverse,
      List.reverse_reverse]

theorem trim_dropReturn (cs : List Char) : trim (dropReturn cs) = trim cs := by
  unfold dropReturn
  split
  · rename_i hlast
    obtain ⟨front, rfl⟩ := List.getLast?_eq_some_iff.mp hlast
    have hpad := @trim_padded [] ['\r'] (by simp) (by simp [isBlank]) front
    rw [List.dropLast_concat, ← hpad, List.nil_append]
  · rfl

theorem lines_newline {line : List Char} (rest : List Char) (hline : '\n' ∉ line) :
    lines (line ++ '\n' :: rest) = dropReturn line :: lines rest := by
  have hpieces : (line ++ '\n' :: rest).splitOn '\n' = line :: rest.splitOn '\n' := by
    rw [List.splitOn_append_cons_self, List.splitOn_eq_singleton hline]
    rfl
  obtain ⟨piece, pieces, hsplit⟩ := List.exists_cons_of_ne_nil (List.splitOn_ne_nil '\n' rest)
  simp [lines, hpieces, hsplit]

theorem lines_cons {line : List Char} (rest : List Char) (hline : '\n' ∉ line)
    (hreturn : line.getLast? ≠ some '\r') :
    lines (line ++ '\n' :: rest) = line :: lines rest := by
  rw [lines_newline rest hline, dropReturn, if_neg hreturn]

theorem lines_intercalate {front : List (List Char)} {last : List Char}
    (h : ∀ line ∈ front ++ [last], '\n' ∉ line) :
    lines (['\n'].intercalate (front ++ [last])) =
      front.map dropReturn ++ [last].filter (!·.isEmpty) := by
  rw [lines, List.splitOn_intercalate '\n' h (by simp), List.dropLast_concat,
    List.getLast?_concat, Option.toList_some]

end Accessors.Text

namespace Accessors.Line

theorem mem_ofText {source : String} {line : Line} (h : line ∈ ofText source) :
    ∃ raw, line.text.toList = Text.trim raw ∧ isLogical (Text.trim raw) = true := by
  obtain ⟨⟨raw, number⟩, -, hline⟩ := List.mem_filterMap.mp h
  simp only [Option.ite_none_right_eq_some, Option.some.injEq] at hline
  obtain ⟨hlogical, rfl⟩ := hline
  exact ⟨raw, String.toList_ofList, hlogical⟩

theorem mem_tokens {line : Line} {token : String} (h : token ∈ line.tokens) :
    token ≠ "" ∧ ∀ c ∈ token.toList, Text.isBlank c = false := by
  obtain ⟨word, hword, rfl⟩ := List.mem_map.mp h
  obtain ⟨hne, hblank⟩ := Text.mem_words hword
  exact ⟨by simpa using hne, by simpa using hblank⟩

/-- The first token of a closing line starts with the brace. -/
theorem tokens_of_closes {line : Line} (h : line.closes = true) :
    ∃ first rest, line.tokens = first :: rest ∧ first.toList.head? = some '}' := by
  rw [closes, beq_iff_eq] at h
  cases htext : Text.trimStart line.text.toList with
  | nil => simp [htext] at h
  | cons c cs =>
    obtain rfl : c = '}' := by simpa [htext] using h
    obtain ⟨first, rest, hwords⟩ := Text.words_cons cs (c := '}') rfl
    refine ⟨String.ofList ('}' :: first), rest.map String.ofList, ?_, by simp⟩
    rw [tokens, ← Text.words_trimStart, htext, hwords, List.map_cons]

theorem not_closes_of_tokens {line : Line} {first : String} {more : List String}
    (h : line.tokens = first :: more) (hbrace : first.toList.head? ≠ some '}') :
    line.closes = false := by
  rw [Bool.eq_false_iff]
  intro hcloses
  obtain ⟨other, rest, htokens, hhead⟩ := tokens_of_closes hcloses
  rw [h] at htokens
  obtain ⟨rfl, -⟩ := List.cons.inj htokens
  exact hbrace hhead

theorem closes_iff_of_mem_ofText {source : String} {line : Line} (h : line ∈ ofText source) :
    line.closes = true ↔ line.text.toList.head? = some '}' := by
  obtain ⟨raw, htext, -⟩ := mem_ofText h
  rw [closes, htext, Text.trimStart_trim, beq_iff_eq]

/-- The line that a physical line with some number is read as, if it says something. -/
def read? (raw : List Char) (number : Nat) : Option Line :=
  let text := Text.trim raw
  if isLogical text then some ⟨number, String.ofList text⟩ else none

/-- A physical line is read by its words, unless it starts with a hash. -/
theorem read?_of_words {raw word : List Char} {more : List (List Char)}
    (h : Text.words raw = word :: more) (hhash : word.head? ≠ some '#') (number : Nat) :
    ∃ line, read? raw number = some line ∧ line.tokens = (word :: more).map String.ofList := by
  have hhead := Text.head?_trim h
  have hlogical : isLogical (Text.trim raw) = true := by
    rw [isLogical, hhead]
    cases htrim : Text.trim raw with
    | nil =>
      rw [← Text.words_trim, htrim] at h
      exact nomatch h
    | cons c cs => simp [hhash]
  refine ⟨⟨number, String.ofList (Text.trim raw)⟩, by simp [read?, hlogical], ?_⟩
  rw [tokens, String.toList_ofList, Text.words_trim, h]

/-- The lines that say something, with the numbers of physical lines counted from `start`. -/
def numbered (start : Nat) (raws : List (List Char)) : List Line :=
  (raws.zipIdx start).filterMap fun raw => read? raw.1 raw.2

theorem ofText_eq_numbered (source : String) :
    ofText source = numbered 1 (Text.lines source.toList) := rfl

theorem numbered_append (start : Nat) (xs ys : List (List Char)) :
    numbered start (xs ++ ys) = numbered start xs ++ numbered (start + xs.length) ys := by
  rw [numbered, List.zipIdx_append, List.filterMap_append, numbered, numbered]

theorem numbered_cons (start : Nat) (raw : List Char) (raws : List (List Char)) :
    numbered start (raw :: raws) = (read? raw start).toList ++ numbered (start + 1) raws := by
  rw [numbered, List.zipIdx_cons, List.filterMap_cons]
  cases read? raw start <;> simp [numbered]

theorem numbered_map_dropReturn (start : Nat) (raws : List (List Char)) :
    numbered start (raws.map Text.dropReturn) = numbered start raws := by
  induction raws generalizing start with
  | nil => rfl
  | cons raw raws ih =>
    rw [List.map_cons, numbered_cons, numbered_cons, ih, read?, Text.trim_dropReturn, read?]

/-- A last line that is empty may be left out, since it says nothing. -/
theorem numbered_filter_last (start : Nat) (last : List Char) :
    numbered start ([last].filter (!·.isEmpty)) = numbered start [last] := by
  cases last <;> rfl

/-- A text that is put together from lines is read line by line. -/
theorem ofText_intercalate {lines : List String} (h : ∀ line ∈ lines, '\n' ∉ line.toList) :
    ofText (String.intercalate "\n" lines) = numbered 1 (lines.map String.toList) := by
  rcases lines.eq_nil_or_concat with rfl | ⟨front, last, rfl⟩
  · rfl
  have hfree : ∀ line ∈ front.map String.toList ++ [last.toList], '\n' ∉ line := by
    simpa [or_imp, forall_and] using h
  rw [ofText_eq_numbered, String.toList_intercalate, List.concat_eq_append, List.map_append]
  change numbered 1 (Text.lines (['\n'].intercalate (front.map String.toList ++ [last.toList]))) = _
  rw [Text.lines_intercalate hfree, numbered_append, numbered_map_dropReturn, numbered_filter_last,
    List.length_map, ← numbered_append]
  rfl

end Accessors.Line
