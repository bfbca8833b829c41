import Mathlib.Data.List.Sort
import Accessors.Proofs.PhysicalLines
import Accessors.Proofs.Printing

/-!
The lines of a schema that say something: which physical lines they are, and how they are cut into
tokens. Cutting at newlines, trimming and cutting at blanks agree on where a line starts, so its first
token stands at its very beginning.
-/

set_option autoImplicit false

namespace Accessors

theorem Word.head?_of_prefix {word text : String} (hword : Word word)
    (h : word.toList <+: text.toList) : text.toList.head? = word.toList.head? := by
  obtain ⟨c, rest, hcons⟩ := List.exists_cons_of_ne_nil
    (mt String.toList_eq_nil_iff.mp hword.ne_empty)
  obtain ⟨back, hback⟩ := h
  rw [← hback, hcons, List.cons_append, List.head?_cons, List.head?_cons]

/-- A text is made up of words, with blanks between them and nowhere else. -/
inductive Separated : String → List String → Prop where
  | single {word : String} : Word word → Separated word [word]
  | cons {word gap rest : String} {words : List String} :
      Word word → gap ≠ "" → (∀ c ∈ gap.toList, Text.isBlank c = true) → Separated rest words →
      Separated (word ++ gap ++ rest) (word :: words)

namespace Separated

variable {text : String} {words : List String}

theorem exists_first (h : Separated text words) :
    ∃ first more, words = first :: more ∧ first.toList <+: text.toList := by
  cases h with
  | single hword => exact ⟨_, _, rfl, List.prefix_rfl⟩
  | cons hword _ _ _ =>
    refine ⟨_, _, rfl, ?_⟩
    rw [String.append_assoc, String.toList_append]
    exact List.prefix_append _ _

end Separated

/-- A text that does not start with a blank starts with a word, up to a blank or to its end. -/
theorem exists_first_word {c : Char} {cs : List Char} (hc : Text.isBlank c = false) :
    ∃ word rest, c :: cs = word ++ rest ∧ Word (String.ofList word) ∧
      ∀ b ∈ rest.head?, Text.isBlank b = true := by
  refine ⟨c :: cs.takeWhile (!Text.isBlank ·), cs.dropWhile (!Text.isBlank ·), ?_, ⟨by simp, ?_⟩, ?_⟩
  · rw [List.cons_append, List.takeWhile_append_dropWhile]
  · rw [String.toList_ofList, List.forall_mem_cons]
    refine ⟨hc, fun d hd => ?_⟩
    simpa using List.all_eq_true.mp List.all_takeWhile d hd
  · intro b hb
    have hstop := List.head?_dropWhile_not (!Text.isBlank ·) cs
    rw [Option.mem_def.mp hb] at hstop
    simpa using hstop

/-- A text that starts with a blank and ends in none: first a gap, then a text that starts with none. -/
theorem exists_gap {b : Char} {cs : List Char} (hb : Text.isBlank b = true)
    (hends : ∀ c ∈ (b :: cs).getLast?, Text.isBlank c = false) :
    ∃ gap more, b :: cs = gap ++ more ∧ gap ≠ [] ∧ (∀ c ∈ gap, Text.isBlank c = true) ∧
      more ≠ [] ∧ (∀ c ∈ more.head?, Text.isBlank c = false) ∧
      Text.words (b :: cs) = Text.words more := by
  have hcut := List.takeWhile_append_dropWhile (p := Text.isBlank) (l := b :: cs)
  have hgap : ∀ c ∈ (b :: cs).takeWhile Text.isBlank, Text.isBlank c = true :=
    fun c hc => List.all_eq_true.mp List.all_takeWhile c hc
  refine ⟨(b :: cs).takeWhile Text.isBlank, Text.trimStart (b :: cs), hcut.symm, ?_, hgap, ?_,
    Text.head_trimStart_not_blank, (Text.words_trimStart _).symm⟩
  · simp [hb]
  · intro hnil
    rw [← Text.trimStart, hnil, List.append_nil] at hcut
    rw [hcut] at hgap
    have hlast := List.getLast?_eq_some_getLast (List.cons_ne_nil b cs)
    have hblank := hgap _ (List.getLast_mem (List.cons_ne_nil b cs))
    rw [hends _ hlast] at hblank
    cases hblank

/-- A text with no blank at its ends is made up of its words. -/
theorem separated_words {cs : List Char} (hne : cs ≠ [])
    (hstarts : ∀ c ∈ cs.head?, Text.isBlank c = false)
    (hends : ∀ c ∈ cs.getLast?, Text.isBlank c = false) :
    Separated (String.ofList cs) ((Text.words cs).map String.ofList) := by
  -- On the length of the text: what follows the first word and its gap is such a text again.
  induction hn : cs.length using Nat.strong_induction_on generalizing cs with
  | h n ih =>
    obtain ⟨c, tail, rfl⟩ := List.exists_cons_of_ne_nil hne
    obtain ⟨word, rest, hcs, hword, hrest⟩ := exists_first_word (hstarts c rfl)
    have hwords := hword.words
    rw [String.toList_ofList] at hwords
    rw [hcs] at hends hn ⊢
    cases rest with
    | nil =>
      rw [List.append_nil, hwords]
      exact .single hword
    | cons b rest =>
      have hb : Text.isBlank b = true := hrest b rfl
      rw [List.getLast?_append_of_ne_nil _ (List.cons_ne_nil b rest)] at hends
      rw [Text.words_append_blank _ _ hb, hwords, ← Text.words_cons_blank rest hb]
      obtain ⟨gap, more, hcut, hgap, hblank, hmore, hhead, hcount⟩ := exists_gap hb hends
      rw [hcut, List.getLast?_append_of_ne_nil _ hmore] at hends
      rw [hcut, List.length_append, List.length_append] at hn
      have hlength := List.length_pos_iff.mpr hgap
      rw [hcount, hcut, ← List.append_assoc, String.ofList_append, String.ofList_append]
      refine .cons hword (by simpa using hgap) (by simpa using hblank) ?_
      exact ih more.length (by omega) hmore hhead hends rfl

theorem Declaration.ofLine_eq_missingName_iff {line : Line} :
    ofLine line = .error (.malformed line.number line.text .missingName) ↔
      line.tokens.length < 2 := by
  refine ⟨fun h => ?_, ofLine_of_short⟩
  have hline := declares_iff.mpr h
  generalize hr : (Except.error (.malformed line.number line.text .missingName) :
    Except Error Declaration) = r at hline
  cases hline with
  | missingName hshort => exact hshort
  | openClass | scalar | sizedName | sizedKind =>
    cases symbolName_eq_error (map_eq_error_iff.mp hr.symm)
  | unsizedName | unknownSizedKind | unsizedKind | unknownElement | unknownKeyword => cases hr

namespace Line

/-- A line stands in a text: the physical line with its number is trimmed to its text, and that is
neither empty nor a comment. -/
structure StandsIn (line : Line) (source : String) : Prop where
  physical : ∃ raw, Text.PhysicalLine source.toList line.number raw ∧
    Text.Trims raw line.text.toList
  ne_empty : line.text ≠ ""
  not_comment : line.text.toList.head? ≠ some '#'

theorem isLogical_iff {text : List Char} :
    isLogical text = true ↔ text ≠ [] ∧ text.head? ≠ some '#' := by
  simp [isLogical]

theorem read?_eq_some_iff {raw : List Char} {number : Nat} {line : Line} :
    read? raw number = some line ↔ number = line.number ∧ Text.Trims raw line.text.toList ∧
      line.text ≠ "" ∧ line.text.toList.head? ≠ some '#' := by
  rw [← Text.trim_eq_iff, ← String.toList_eq_nil_iff.ne, ← isLogical_iff, read?]
  constructor
  · intro h
    obtain ⟨hlogical, hline⟩ := Option.ite_none_right_eq_some.mp h
    obtain rfl := Option.some.inj hline
    exact ⟨rfl, String.toList_ofList.symm, by rwa [String.toList_ofList]⟩
  · rintro ⟨rfl, htrim, hlogical⟩
    simp only [htrim, hlogical, if_true, String.ofList_toList]

theorem mem_ofText_iff {source : String} {line : Line} :
    line ∈ ofText source ↔ line.StandsIn source := by
  rw [ofText_eq_numbered, numbered, List.mem_filterMap]
  constructor
  · rintro ⟨⟨raw, number⟩, hraw, hread⟩
    obtain ⟨hstart, hget⟩ := List.mk_mem_zipIdx_iff_le_and_getElem?_sub.mp hraw
    obtain ⟨rfl, htrims, hne, hcomment⟩ := read?_eq_some_iff.mp hread
    have hphysical := Text.getElem?_lines_iff.mp hget
    rw [Nat.sub_add_cancel hstart] at hphysical
    exact ⟨⟨raw, hphysical, htrims⟩, hne, hcomment⟩
  · rintro ⟨⟨raw, hphysical, htrims⟩, hne, hcomment⟩
    refine ⟨(raw, line.number), ?_, read?_eq_some_iff.mpr ⟨rfl, htrims, hne, hcomment⟩⟩
    rw [List.mk_mem_zipIdx_iff_le_and_getElem?_sub, Text.getElem?_lines_iff,
      Nat.sub_add_cancel hphysical.one_le]
    exact ⟨hphysical.one_le, hphysical⟩

theorem pairwise_numbered (start : Nat) (raws : List (List Char)) :
    (numbered start raws).Pairwise fun line line' => line.number < line'.number := by
  have hplaces : (raws.zipIdx start).Pairwise fun raw raw' => raw.2 < raw'.2 := by
    rw [← List.pairwise_map, List.zipIdx_map_snd]
    exact List.pairwise_lt_range' 1
  refine List.Pairwise.filterMap _ ?_ hplaces
  intro raw raw' hlt line hline line' hline'
  rwa [(read?_eq_some_iff.mp hline).1, (read?_eq_some_iff.mp hline').1] at hlt

theorem eq_of_numbers_increase {lines lines' : List Line}
    (h : lines.Pairwise fun line line' => line.number < line'.number)
    (h' : lines'.Pairwise fun line line' => line.number < line'.number)
    (hmem : ∀ line, line ∈ lines ↔ line ∈ lines') : lines = lines' := by
  have : Std.Irrefl fun line line' : Line => line.number < line'.number :=
    ⟨fun line => Nat.lt_irrefl line.number⟩
  have : Std.Antisymm fun line line' : Line => line.number < line'.number :=
    ⟨fun line line' hlt hgt => absurd hgt (Nat.lt_asymm hlt)⟩
  exact h.eq_of_mem_iff h' hmem

theorem separated_tokens {source : String} {line : Line} (h : line ∈ ofText source) :
    Separated line.text line.tokens := by
  obtain ⟨⟨raw, -, htrims⟩, hne, -⟩ := mem_ofText_iff.mp h
  have hwords := separated_words (mt String.toList_eq_nil_iff.mp hne) htrims.starts htrims.ends
  rwa [String.ofList_toList] at hwords

/-- The lines of a text are its physical lines, each at its place. What a schema says stands on those
of them that are neither blank nor a comment once they are trimmed, and nowhere else. Each of these is
made up of its tokens. It starts with the first one, so only the second can be missing, and it closes
a class exactly if this first token starts with a brace. -/
theorem ofText_selects_physical_lines (source : String) :
    (∀ n raw, (Text.lines source.toList)[n]? = some raw ↔
      Text.PhysicalLine source.toList (n + 1) raw) ∧
    (∀ lines, lines = ofText source ↔
      lines.Pairwise (fun line line' => line.number < line'.number) ∧
        ∀ line, line ∈ lines ↔ line.StandsIn source) ∧
    ∀ line ∈ ofText source, ∃ keyword more,
      line.tokens = keyword :: more ∧ Separated line.text line.tokens ∧
      (∀ token ∈ line.tokens, token ≠ "" ∧ ∀ c ∈ token.toList, Text.isBlank c = false) ∧
      keyword.toList <+: line.text.toList ∧
      (line.closes = true ↔ keyword.toList.head? = some '}') ∧
      (Declaration.ofLine line = .error (.malformed line.number line.text .missingName) ↔
        more = []) := by
  refine ⟨fun n raw => Text.getElem?_lines_iff, fun lines => ?_, fun line hline => ?_⟩
  · constructor
    · rintro rfl
      exact ⟨pairwise_numbered 1 _, fun line => mem_ofText_iff⟩
    · rintro ⟨hpairwise, hmem⟩
      apply eq_of_numbers_increase hpairwise (pairwise_numbered 1 _)
      intro line
      rw [hmem, ← mem_ofText_iff, ofText_eq_numbered]
  · have hseparated := separated_tokens hline
    obtain ⟨keyword, more, htokens, hprefix⟩ := hseparated.exists_first
    have hkeyword : Word keyword := @Word.of_mem_tokens line keyword (by simp [htokens])
    refine ⟨keyword, more, htokens, hseparated, fun token => mem_tokens, hprefix, ?_, ?_⟩
    · rw [closes_iff_of_mem_ofText hline, hkeyword.head?_of_prefix hprefix]
    · rw [Declaration.ofLine_eq_missingName_iff, htokens, List.length_cons, ← List.length_eq_zero_iff]
      omega

/-- A comment, a line of exotic blanks, carriage returns, and a last line without a newline. -/
theorem ofText_selects_physical_lines_mixed :
    ofText "# head\r\n\u3000\u2003\n\tclass\u00a0Foo \r\n\x7d end" =
        [⟨3, "class\u00a0Foo"⟩, ⟨4, "\x7d end"⟩] ∧
      (⟨4, "\x7d end"⟩ : Line).tokens = ["\x7d", "end"] ∧ Separated "\x7d end" ["\x7d", "end"] ∧
      (⟨4, "\x7d end"⟩ : Line).closes = true := by
  have hlines : ofText "# head\r\n\u3000\u2003\n\tclass\u00a0Foo \r\n\x7d end" =
      [⟨3, "class\u00a0Foo"⟩, ⟨4, "\x7d end"⟩] := by decide
  have htokens : (⟨4, "\x7d end"⟩ : Line).tokens = ["\x7d", "end"] := by decide
  obtain ⟨keyword, more, hcons, hseparated, -, -, hcloses, -⟩ :=
    (ofText_selects_physical_lines _).2.2 ⟨4, "\x7d end"⟩ (by rw [hlines]; simp)
  rw [htokens] at hcons hseparated
  obtain ⟨rfl, -⟩ := List.cons.inj hcons
  exact ⟨hlines, htokens, hseparated, hcloses.mpr rfl⟩

end Line

end Accessors
