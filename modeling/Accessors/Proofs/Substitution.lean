import Mathlib.Data.List.Forall2
import Accessors.Proofs.Outcomes
import Accessors.Template.Basic

/-!
Rendering as substitution. Where the holes of a text stand is said without reading the text from its
start: a hole is at a place if it is written there. Holes never overlap, so each place of the text has
its own part in the result, and rendering puts these parts together. The values have no say in where
holes are.
-/

set_option autoImplicit false

namespace Accessors.Template

/-- A letter of ASCII or an underscore. -/
def IsLetter (c : Char) : Prop := 'A' ≤ c ∧ c ≤ 'Z' ∨ 'a' ≤ c ∧ c ≤ 'z' ∨ c = '_'

def IsDigit (c : Char) : Prop := '0' ≤ c ∧ c ≤ '9'

/-- What a hole may be called: a letter, then letters and digits. -/
def IsName (name : List Char) : Prop :=
  ∃ c cs, name = c :: cs ∧ IsLetter c ∧ ∀ d ∈ cs, IsLetter d ∨ IsDigit d

def written (name : String) : List Char := '$' :: '{' :: (name.toList ++ ['}'])

/-- A hole with this name is written at this place of a text. -/
structure Occurs (cs : List Char) (place : Nat) (name : String) : Prop where
  isName : IsName name.toList
  written : written name <+: cs.drop place

def Filled (values : String → Option String) (cs : List Char) : Prop :=
  ∀ place name, Occurs cs place name → values name ≠ none

/-- The leftmost hole that has no value. -/
structure FirstUnfilled (values : String → Option String) (cs : List Char) (place : Nat)
    (name : String) : Prop where
  occurs : Occurs cs place name
  unfilled : values name = none
  earlier : ∀ start other, Occurs cs start other → start < place → values other ≠ none

/-- What a place of the text becomes: the value of the hole that starts there, nothing further inside a
hole, and outside of holes the character itself. -/
inductive Becomes (values : String → Option String) (cs : List Char) (place : Nat) :
    List Char → Prop where
  | value {name value : String} :
      Occurs cs place name → values name = some value → Becomes values cs place value.toList
  | inside {start : Nat} {name : String} :
      Occurs cs start name → start < place → place < start + (written name).length →
      Becomes values cs place []
  | kept {c : Char} :
      cs[place]? = some c →
      (∀ start name, Occurs cs start name → place < start ∨ start + (written name).length ≤ place) →
      Becomes values cs place [c]

/-- All places of the text at once, in order. -/
def Substituted (values : String → Option String) (cs out : List Char) : Prop :=
  ∃ parts, List.Forall₂ (Becomes values cs) (List.range cs.length) parts ∧ out = parts.flatten

theorem length_written_pos (name : String) : 0 < (written name).length := Nat.succ_pos _

theorem isNameStart_iff (c : Char) : isNameStart c = true ↔ IsLetter c := by
  have halpha : c.isAlpha = (c.isUpper || c.isLower) := rfl
  have hupper : c.isUpper = decide ('A'.val ≤ c.val ∧ c.val ≤ 'Z'.val) := rfl
  have hlower : c.isLower = (decide ('a'.val ≤ c.val) && decide (c.val ≤ 'z'.val)) := rfl
  simp [isNameStart, halpha, hupper, hlower, IsLetter, Char.le_def, or_assoc]

theorem isNamePart_iff (c : Char) : isNamePart c = true ↔ IsLetter c ∨ IsDigit c := by
  have hstart := isNameStart_iff c
  simp only [isNameStart, Bool.or_eq_true] at hstart
  rw [← hstart]
  simp [isNamePart, Char.isAlphanum, Char.isDigit, IsDigit, Char.le_def, or_right_comm]

theorem IsName.dollar_free {name : List Char} (h : IsName name) : '$' ∉ name := by
  obtain ⟨c, cs, rfl, hc, hcs⟩ := h
  intro hmem
  have hpart : isNamePart '$' = true := by
    rw [isNamePart_iff]
    rcases List.mem_cons.mp hmem with rfl | hmem
    · exact .inl hc
    · exact hcs '$' hmem
  exact absurd hpart (by decide)

theorem hole?_written {name : String} (h : IsName name.toList) (rest : List Char) :
    hole? (written name ++ rest) = some (name, rest) := by
  obtain ⟨c, cs, hname, hc, hcs⟩ := h
  have hparts : ∀ d ∈ cs, isNamePart d = true := by
    intro d hd
    exact (isNamePart_iff d).mpr (hcs d hd)
  have hstop : isNamePart '}' = false := by decide
  have hdrop : (cs ++ '}' :: rest).dropWhile isNamePart = '}' :: rest := by
    rw [List.dropWhile_append_of_pos hparts, List.dropWhile_cons_of_neg (by simp [hstop])]
  have htake : (cs ++ '}' :: rest).takeWhile isNamePart = cs := by
    rw [List.takeWhile_append_of_pos hparts, List.takeWhile_cons_of_neg (by simp [hstop]),
      List.append_nil]
  have htext : written name ++ rest = '$' :: '{' :: c :: (cs ++ '}' :: rest) := by
    simp [written, hname]
  rw [htext, hole?, if_pos ((isNameStart_iff c).mpr hc), hdrop, htake, ← hname]
  simp

/-- A hole is read from the start of a text if and only if it is written there. -/
theorem hole?_eq_some_iff {cs rest : List Char} {name : String} :
    hole? cs = some (name, rest) ↔ IsName name.toList ∧ cs = written name ++ rest := by
  constructor
  · intro h
    unfold hole? at h
    split at h
    · rename_i c cs
      split at h
      · rename_i hc
        split at h
        · rename_i rest' hdrop
          obtain ⟨rfl, rfl⟩ := Prod.mk.inj (Option.some.inj h)
          have hsplit := List.takeWhile_append_dropWhile (p := isNamePart) (l := cs)
          rw [hdrop] at hsplit
          refine ⟨⟨c, cs.takeWhile isNamePart, String.toList_ofList, (isNameStart_iff c).mp hc, ?_⟩, ?_⟩
          · intro d hd
            exact (isNamePart_iff d).mp (List.all_eq_true.mp List.all_takeWhile d hd)
          · simp [written, hsplit]
        · exact nomatch h
      · exact nomatch h
    · exact nomatch h
  · rintro ⟨hname, rfl⟩
    exact hole?_written hname rest

namespace Occurs

variable {cs : List Char} {place start : Nat} {name other : String}

theorem exists_rest (h : Occurs cs place name) :
    ∃ rest, hole? (cs.drop place) = some (name, rest) := by
  obtain ⟨rest, hrest⟩ := h.written
  exact ⟨rest, hole?_eq_some_iff.mpr ⟨h.isName, hrest.symm⟩⟩

theorem unique (h : Occurs cs place name) (h' : Occurs cs place other) : name = other := by
  obtain ⟨rest, hrest⟩ := h.exists_rest
  obtain ⟨rest', hrest'⟩ := h'.exists_rest
  rw [hrest] at hrest'
  exact (Prod.mk.inj (Option.some.inj hrest')).1

theorem getElem? (h : Occurs cs place name) {i : Nat} (hi : i < (Template.written name).length) :
    cs[place + i]? = (Template.written name)[i]? := by
  obtain ⟨rest, hrest⟩ := h.written
  rw [← List.getElem?_drop, ← hrest, List.getElem?_append_left hi]

theorem apart (h : Occurs cs place name) (h' : Occurs cs start other) (hlt : place < start) :
    place + (Template.written name).length ≤ start := by
  -- The second hole would start at a character of the first one, and none of these but the first is a
  -- dollar sign.
  by_contra hinside
  obtain ⟨i, rfl⟩ : ∃ i, start = place + (i + 1) := ⟨start - place - 1, by omega⟩
  have hdollar := h'.getElem? (length_written_pos other)
  rw [Nat.add_zero, h.getElem? (by omega)] at hdollar
  have hmem : '$' ∈ '{' :: (name.toList ++ ['}']) := List.mem_of_getElem? hdollar
  have hname : '$' ∈ name.toList := by simpa using hmem
  exact h.isName.dollar_free hname

end Occurs

theorem occurs_append {front rest : List Char} {place : Nat} {name : String} :
    Occurs (front ++ rest) (front.length + place) name ↔ Occurs rest place name := by
  have hdrop : (front ++ rest).drop (front.length + place) = rest.drop place := by simp
  constructor
  · intro h
    exact ⟨h.isName, hdrop ▸ h.written⟩
  · intro h
    exact ⟨h.isName, hdrop ▸ h.written⟩

theorem Occurs.front_or_rest {front rest : List Char} {place : Nat} {name : String}
    (h : Occurs (front ++ rest) place name) :
    place < front.length ∨ ∃ i, place = front.length + i ∧ Occurs rest i name := by
  by_cases hplace : place < front.length
  · exact .inl hplace
  · obtain ⟨i, rfl⟩ := Nat.exists_eq_add_of_le (Nat.le_of_not_lt hplace)
    exact .inr ⟨i, rfl, occurs_append.mp h⟩

/-- A text can be cut between two parts: no hole that starts in the first one reaches behind it. -/
def Sealed (front rest : List Char) : Prop :=
  ∀ start name, Occurs (front ++ rest) start name → start < front.length →
    start + (written name).length ≤ front.length

theorem occurs_start {name : String} (h : IsName name.toList) (rest : List Char) :
    Occurs (written name ++ rest) 0 name := by
  exact ⟨h, List.prefix_append (written name) rest⟩

theorem sealed_hole {name : String} (h : IsName name.toList) (rest : List Char) :
    Sealed (written name) rest := by
  intro start other hoccurs hstart
  have hfirst := occurs_start h rest
  rcases Nat.eq_zero_or_pos start with rfl | hpos
  · obtain rfl := hoccurs.unique hfirst
    omega
  · have := hfirst.apart hoccurs hpos
    omega

theorem not_occurs_start {cs : List Char} (h : hole? cs = none) (name : String) :
    ¬Occurs cs 0 name := by
  intro hoccurs
  obtain ⟨rest, hrest⟩ := hoccurs.exists_rest
  rw [List.drop_zero, h] at hrest
  exact nomatch hrest

theorem sealed_char {c : Char} {cs : List Char} (h : hole? (c :: cs) = none) : Sealed [c] cs := by
  intro start name hoccurs hstart
  obtain rfl : start = 0 := by simpa using hstart
  exact absurd hoccurs (not_occurs_start h name)

section Parts
variable {values : String → Option String} {front rest : List Char}

/-- A place becomes one thing only, since it is in at most one hole. -/
theorem Becomes.unique {cs part other : List Char} {place : Nat} (h : Becomes values cs place part)
    (h' : Becomes values cs place other) : part = other := by
  cases h with
  | @value name value hoccurs hvalue =>
    cases h' with
    | @value name' value' hoccurs' hvalue' =>
      obtain rfl := hoccurs.unique hoccurs'
      rw [hvalue] at hvalue'
      rw [Option.some.inj hvalue']
    | inside hoccurs' hlt hinside =>
      have := hoccurs'.apart hoccurs hlt
      omega
    | kept _ houtside =>
      have := houtside place name hoccurs
      have := length_written_pos name
      omega
  | @inside start name hoccurs hlt hinside =>
    cases h' with
    | value hoccurs' _ =>
      have := hoccurs.apart hoccurs' hlt
      omega
    | inside _ _ _ => rfl
    | kept _ houtside =>
      have := houtside start name hoccurs
      omega
  | kept hc houtside =>
    cases h' with
    | @value name _ hoccurs' _ =>
      have := houtside place name hoccurs'
      have := length_written_pos name
      omega
    | @inside start name hoccurs' hlt hinside =>
      have := houtside start name hoccurs'
      omega
    | kept hc' _ =>
      rw [hc] at hc'
      rw [Option.some.inj hc']

theorem Substituted.unique {cs out other : List Char} (h : Substituted values cs out)
    (h' : Substituted values cs other) : out = other := by
  obtain ⟨parts, hparts, rfl⟩ := h
  obtain ⟨parts', hparts', rfl⟩ := h'
  have hunique : Relator.RightUnique (Becomes values cs) := fun _ _ _ h h' => h.unique h'
  rw [List.right_unique_forall₂' hunique hparts hparts']

theorem Becomes.append (hsealed : Sealed front rest) {place : Nat} {part : List Char}
    (h : Becomes values rest place part) :
    Becomes values (front ++ rest) (front.length + place) part := by
  cases h with
  | value hoccurs hvalue => exact .value (occurs_append.mpr hoccurs) hvalue
  | inside hoccurs hlt hinside =>
    apply Becomes.inside (occurs_append.mpr hoccurs)
    · omega
    · omega
  | kept hc houtside =>
    apply Becomes.kept
    · rwa [List.getElem?_append_right (Nat.le_add_right _ _), Nat.add_sub_cancel_left]
    · intro start name hoccurs
      rcases hoccurs.front_or_rest with hstart | ⟨i, rfl, hi⟩
      · have hend := hsealed start name hoccurs hstart
        omega
      · have := houtside i name hi
        omega

theorem Substituted.append (hsealed : Sealed front rest) {parts : List (List Char)}
    {out : List Char}
    (hfront : List.Forall₂ (Becomes values (front ++ rest)) (List.range front.length) parts)
    (hrest : Substituted values rest out) :
    Substituted values (front ++ rest) (parts.flatten ++ out) := by
  obtain ⟨others, hothers, rfl⟩ := hrest
  refine ⟨parts ++ others, ?_, by rw [List.flatten_append]⟩
  rw [List.length_append, List.range_add]
  apply List.rel_append hfront
  rw [List.forall₂_map_left_iff]
  apply hothers.imp
  intro place part hpart
  exact hpart.append hsealed

theorem becomes_hole {name value : String} (h : IsName name.toList)
    (hvalue : values name = some value) (rest : List Char) :
    ∃ parts, List.Forall₂ (Becomes values (written name ++ rest))
      (List.range (written name).length) parts ∧ parts.flatten = value.toList := by
  have hoccurs := occurs_start h rest
  obtain ⟨n, hn⟩ : ∃ n, (written name).length = n + 1 := ⟨_, rfl⟩
  refine ⟨value.toList :: List.replicate n [], ?_, by simp⟩
  rw [hn, List.range_succ_eq_map]
  refine .cons (.value hoccurs hvalue) ?_
  rw [List.forall₂_map_left_iff, List.forall₂_iff_get]
  refine ⟨by simp, ?_⟩
  intro i hi hi'
  simp only [List.length_range] at hi
  simp only [List.get_eq_getElem, List.getElem_range, List.getElem_replicate]
  apply Becomes.inside hoccurs
  · omega
  · omega

theorem becomes_char {c : Char} {cs : List Char} (h : hole? (c :: cs) = none) :
    List.Forall₂ (Becomes values ([c] ++ cs)) (List.range [c].length) [[c]] := by
  refine .cons (.kept rfl ?_) .nil
  intro start name hoccurs
  rcases Nat.eq_zero_or_pos start with rfl | hpos
  · exact absurd hoccurs (not_occurs_start h name)
  · exact .inl hpos

end Parts

/-- How rendering a text may end. -/
inductive Renders (values : String → Option String) (cs : List Char) :
    Except Error String → Prop where
  | filled {out : String} :
      Filled values cs → Substituted values cs out.toList → Renders values cs (.ok out)
  | unfilled {place : Nat} {name : String} :
      FirstUnfilled values cs place name → Renders values cs (.error (.unfilled name))

theorem Renders.append {values : String → Option String} {front rest : List Char}
    {parts : List (List Char)} {text : String} {result : Except Error String}
    (hsealed : Sealed front rest)
    (hvalues : ∀ start name, Occurs (front ++ rest) start name → start < front.length →
      values name ≠ none)
    (hparts : List.Forall₂ (Becomes values (front ++ rest)) (List.range front.length) parts)
    (htext : parts.flatten = text.toList) (h : Renders values rest result) :
    Renders values (front ++ rest) ((text ++ ·) <$> result) := by
  cases h with
  | @filled out hfilled hout =>
    refine @Renders.filled _ _ (text ++ out) ?_ ?_
    · intro place name hoccurs
      rcases hoccurs.front_or_rest with hplace | ⟨i, rfl, hi⟩
      · exact hvalues place name hoccurs hplace
      · exact hfilled i name hi
    · rw [String.toList_append, ← htext]
      exact hout.append hsealed hparts
  | @unfilled place name hfirst =>
    refine .unfilled ⟨occurs_append.mpr hfirst.occurs, hfirst.unfilled, ?_⟩
    intro start other hoccurs hlt
    rcases hoccurs.front_or_rest with hstart | ⟨i, rfl, hi⟩
    · exact hvalues start other hoccurs hstart
    · exact hfirst.earlier i other hi (by omega)

theorem render_cons (values : String → Option String) (piece : Piece) (template : Template) :
    render values (piece :: template) =
      fill values piece >>= fun text => (text ++ ·) <$> render values template := by
  simp only [render, List.mapM_cons]
  cases fill values piece with
  | error e => rfl
  | ok text => cases List.mapM (fill values) template <;> simp

theorem renders_ofChars (values : String → Option String) (cs : List Char) :
    Renders values cs (render values (ofChars cs)) := by
  -- The reader takes a hole or a single character off the text, and neither of them cuts a hole in two.
  fun_induction ofChars cs with
  | case1 cs name rest hread _ ih =>
    obtain ⟨hname, rfl⟩ := hole?_eq_some_iff.mp hread
    have hoccurs := occurs_start hname rest
    cases hvalue : values name with
    | none =>
      have hfill : fill values (.hole name) = .error (.unfilled name) := by rw [fill, hvalue]
      rw [render_cons, hfill, error_bind]
      refine .unfilled ⟨hoccurs, hvalue, ?_⟩
      intro start other _ hlt
      exact absurd hlt (Nat.not_lt_zero start)
    | some value =>
      have hfill : fill values (.hole name) = .ok value := by rw [fill, hvalue]
      obtain ⟨parts, hparts, htext⟩ := becomes_hole hname hvalue rest
      rw [render_cons, hfill, ok_bind]
      apply Renders.append (sealed_hole hname rest) _ hparts htext ih
      intro start other hother hlt
      rcases Nat.eq_zero_or_pos start with rfl | hpos
      · rw [hother.unique hoccurs, hvalue]
        exact Option.some_ne_none value
      · have := hoccurs.apart hother hpos
        omega
  | case2 hread =>
    refine @Renders.filled _ _ "" ?_ ⟨[], .nil, rfl⟩
    intro place name hoccurs
    obtain ⟨rest, hrest⟩ := hoccurs.exists_rest
    rw [List.drop_nil] at hrest
    exact nomatch hrest
  | case3 c cs hread ih =>
    rw [render_cons, fill, ok_bind]
    apply Renders.append (sealed_char hread) _ (becomes_char hread) _ ih
    · intro start name hoccurs hlt
      obtain rfl : start = 0 := by simpa using hlt
      exact absurd hoccurs (not_occurs_start hread name)
    · simp

/-- Rendering is simultaneous substitution. Holes never overlap; if each of them has a value, all of them
become their values and every other character stays; otherwise the leftmost hole without a value is
reported. -/
theorem render_substitutes (text : String) (values : String → Option String) :
    (∀ place name start other, Occurs text.toList place name → Occurs text.toList start other →
      place = start ∧ name = other ∨ place + (written name).length ≤ start ∨
        start + (written other).length ≤ place) ∧
    (Filled values text.toList →
      ∃ out, render values (ofText text) = .ok out ∧
        ∀ cs, Substituted values text.toList cs ↔ cs = out.toList) ∧
    (¬Filled values text.toList →
      ∃ place name, FirstUnfilled values text.toList place name ∧
        render values (ofText text) = .error (.unfilled name)) := by
  have hrenders : Renders values text.toList (render values (ofText text)) :=
    renders_ofChars values text.toList
  refine ⟨?_, ?_, ?_⟩
  · intro place name start other h h'
    rcases Nat.lt_trichotomy place start with hlt | rfl | hlt
    · exact .inr (.inl (h.apart h' hlt))
    · exact .inl ⟨rfl, h.unique h'⟩
    · exact .inr (.inr (h'.apart h hlt))
  · intro hfilled
    generalize render values (ofText text) = result at *
    cases hrenders with
    | @filled out _ hout =>
      refine ⟨out, rfl, ?_⟩
      intro cs
      constructor
      · intro hcs
        exact hcs.unique hout
      · rintro rfl
        exact hout
    | unfilled hfirst => exact absurd hfirst.unfilled (hfilled _ _ hfirst.occurs)
  · intro hfilled
    generalize render values (ofText text) = result at *
    cases hrenders with
    | filled hfilled' => exact absurd hfilled' hfilled
    | unfilled hfirst => exact ⟨_, _, hfirst, rfl⟩

-- Texts that only look like holes stay, and so does a hole inside a value.
example : (ofText "$$\x7bA\x7d$\x7b$\x7bB\x7d$\x7b1\x7d$\x7bA").render
    (fun name => if name = "A" then some "$\x7bB\x7d" else if name = "B" then some "$" else none) =
      .ok "$$\x7bB\x7d$\x7b$$\x7b1\x7d$\x7bA" := by cbv

end Accessors.Template
