import Mathlib.Data.List.TakeWhile
import Accessors.Proofs.Blanks
import Accessors.Proofs.Outcomes
import Accessors.Schema.Declaration

/-!
The forms of a line. `Declares` lists them one by one, by the first two words of a line: what each
form declares, or the fault that is found in it. The reader of lines gives exactly that.
-/

set_option autoImplicit false

namespace Accessors

theorem Kind.ofKeyword?_eq_some_iff {word : String} {kind : Kind} :
    Kind.ofKeyword? word = some kind ↔ word = kind.keyword := by
  constructor
  · intro h
    have hk := List.find?_some h
    exact (beq_iff_eq.mp hk).symm
  · rintro rfl
    cases kind <;> rfl

theorem Kind.ofKeyword?_keyword (kind : Kind) : Kind.ofKeyword? kind.keyword = some kind :=
  Kind.ofKeyword?_eq_some_iff.mpr rfl

theorem Kind.ofKeyword?_eq_none_iff {word : String} :
    Kind.ofKeyword? word = none ↔ ∀ kind : Kind, word ≠ kind.keyword := by
  constructor
  · rintro h kind rfl
    simp [Kind.ofKeyword?_keyword] at h
  · intro h
    cases hk : Kind.ofKeyword? word with
    | none => rfl
    | some kind => exact absurd (Kind.ofKeyword?_eq_some_iff.mp hk) (h kind)

theorem Kind.keyword_ne_class (kind : Kind) : kind.keyword ≠ "class" := by
  cases kind <;> decide

theorem Kind.keyword_not_bracket (kind : Kind) :
    Declaration.endsInBracket kind.keyword = false := by
  cases kind <;> rfl

namespace Declaration

/-- `text` is `front[size]`, with something in front and no bracket in the size. -/
structure IsSized (text front size : String) : Prop where
  eq : text = front ++ "[" ++ size ++ "]"
  front_ne : front ≠ ""
  size_free : ∀ c ∈ size.toList, isBracket c = false

/-- The bracket pair that is cut off is the last one, so both parts are determined. -/
theorem sized?_eq_some_iff {text front size : String} :
    sized? text = some (front, size) ↔ IsSized text front size := by
  constructor
  · intro h
    unfold sized? at h
    split at h
    · rename_i rest hrev
      split at h
      · rename_i last before hdrop
        obtain ⟨rfl, rfl⟩ := Prod.mk.inj (Option.some.inj h)
        have hrest := List.takeWhile_append_dropWhile (p := (!isBracket ·)) (l := rest)
        rw [hdrop] at hrest
        refine ⟨?_, by simp, ?_⟩
        · rw [← String.toList_inj, ← List.reverse_inj, hrev]
          simpa using hrest.symm
        · intro c hc
          simp only [String.toList_ofList, List.mem_reverse] at hc
          simpa using List.mem_takeWhile_imp hc
      · exact nomatch h
    · exact nomatch h
  · rintro ⟨rfl, hfront, hsize⟩
    obtain ⟨last, before, hlast⟩ :=
      List.exists_cons_of_ne_nil (l := front.toList.reverse) (by simpa using hfront)
    have hfree : ∀ c ∈ size.toList.reverse, (!isBracket c) = true := by
      intro c hc
      simp [hsize c (List.mem_reverse.mp hc)]
    have hrev : (front ++ "[" ++ size ++ "]").toList.reverse =
        ']' :: (size.toList.reverse ++ '[' :: last :: before) := by simp [hlast]
    have hdrop : (size.toList.reverse ++ '[' :: last :: before).dropWhile (!isBracket ·) =
        '[' :: last :: before := by
      rw [List.dropWhile_append_of_pos hfree]
      rfl
    have htake : (size.toList.reverse ++ '[' :: last :: before).takeWhile (!isBracket ·) =
        size.toList.reverse := by
      rw [List.takeWhile_append_of_pos hfree]
      simp [isBracket]
    rw [sized?, hrev]
    simp only [hdrop, htake]
    rw [← hlast, List.reverse_reverse, List.reverse_reverse, String.ofList_toList,
      String.ofList_toList]

theorem sized?_eq_none_iff {text : String} :
    sized? text = none ↔ ∀ front size, ¬ IsSized text front size := by
  rw [Option.eq_none_iff_forall_ne_some]
  exact ⟨fun h front size hs => h (front, size) (sized?_eq_some_iff.mpr hs),
    fun h parts hs => h parts.1 parts.2 (sized?_eq_some_iff.mp hs)⟩

theorem IsSized.endsInBracket {text front size : String} (h : IsSized text front size) :
    endsInBracket text = true := by
  rw [h.eq, Declaration.endsInBracket, String.toList_append, List.getLast?_append]
  rfl

theorem IsSized.ne_keyword {text front size : String} (h : IsSized text front size) (kind : Kind) :
    text ≠ kind.keyword := by
  rintro rfl
  exact absurd h.endsInBracket (by simp [kind.keyword_not_bracket])

theorem IsSized.ne_class {text front size : String} (h : IsSized text front size) :
    text ≠ "class" := by
  rintro rfl
  exact absurd h.endsInBracket (by decide)

end Declaration

/-- What a line says, form by form. A `token` that ends in a bracket makes an array of a field, a
`keyword` that ends in one an array of a kind. -/
inductive Declares (line : Line) : Except Error Declaration → Prop where
  | missingName :
      line.tokens.length < 2 →
      Declares line (.error (.malformed line.number line.text .missingName))
  | openClass {token : String} {more : List String} :
      line.tokens = "class" :: token :: more →
      Declares line ((.openClass · token) <$> symbolName token)
  | scalar {kind : Kind} {token : String} {more : List String} :
      line.tokens = kind.keyword :: token :: more →
      Declaration.endsInBracket token = false →
      Declares line ((.scalar kind · token) <$> symbolName token)
  | sizedName {kind : Kind} {token front size : String} {more : List String} :
      line.tokens = kind.keyword :: token :: more →
      Declaration.IsSized token front size →
      Declares line ((.array kind size · token) <$> symbolName front)
  | unsizedName {kind : Kind} {token : String} {more : List String} :
      line.tokens = kind.keyword :: token :: more →
      Declaration.endsInBracket token = true →
      (∀ front size, ¬ Declaration.IsSized token front size) →
      Declares line (.error (.malformed line.number line.text .unsizedName))
  | sizedKind {kind : Kind} {keyword token size : String} {more : List String} :
      line.tokens = keyword :: token :: more →
      Declaration.IsSized keyword kind.keyword size →
      Declares line ((.array kind size · token) <$> symbolName token)
  | unknownSizedKind {keyword token front size : String} {more : List String} :
      line.tokens = keyword :: token :: more →
      Declaration.IsSized keyword front size →
      (∀ kind : Kind, front ≠ kind.keyword) →
      Declares line (.error (.malformed line.number line.text (.unknownElement front)))
  | unsizedKind {keyword token : String} {more : List String} :
      line.tokens = keyword :: token :: more →
      Declaration.endsInBracket keyword = true →
      (∀ front size, ¬ Declaration.IsSized keyword front size) →
      Declares line (.error (.malformed line.number line.text .unsizedKind))
  | unknownElement {keyword token : String} {more : List String} :
      line.tokens = keyword :: token :: more →
      keyword ≠ "class" → (∀ kind : Kind, keyword ≠ kind.keyword) →
      Declaration.endsInBracket keyword = false → Declaration.endsInBracket token = true →
      Declares line (.error (.malformed line.number line.text (.unknownElement keyword)))
  | unknownKeyword {keyword token : String} {more : List String} :
      line.tokens = keyword :: token :: more →
      keyword ≠ "class" → (∀ kind : Kind, keyword ≠ kind.keyword) →
      Declaration.endsInBracket keyword = false → Declaration.endsInBracket token = false →
      Declares line (.error (.malformed line.number line.text (.unknownKeyword keyword)))

namespace Declaration

theorem ofLine_of_tokens {line : Line} {keyword token : String} {more : List String}
    (h : line.tokens = keyword :: token :: more) :
    ofLine line = ofTokens line keyword token := by
  rw [ofLine, h]

theorem ofLine_of_short {line : Line} (h : line.tokens.length < 2) :
    ofLine line = .error (.malformed line.number line.text .missingName) := by
  unfold ofLine
  split
  · rename_i heq
    simp only [heq, List.length_cons] at h
    omega
  · rfl

section Tokens
variable (line : Line) {keyword token : String}

theorem ofTokens_class (token : String) :
    ofTokens line "class" token = (.openClass · token) <$> symbolName token := by
  simp [ofTokens]

theorem ofTokens_keyword (kind : Kind) (token : String) :
    ofTokens line kind.keyword token =
      if endsInBracket token then ofSizedName line kind token
      else (.scalar kind · token) <$> symbolName token := by
  simp [ofTokens, kind.keyword_ne_class, kind.ofKeyword?_keyword]

theorem ofTokens_foreign (hclass : keyword ≠ "class") (hkind : ∀ kind : Kind, keyword ≠ kind.keyword)
    (token : String) :
    ofTokens line keyword token =
      if endsInBracket keyword then ofSizedKind line keyword token
      else if endsInBracket token then
        .error (.malformed line.number line.text (.unknownElement keyword))
      else .error (.malformed line.number line.text (.unknownKeyword keyword)) := by
  simp [ofTokens, hclass, Kind.ofKeyword?_eq_none_iff.mpr hkind]

theorem ofSizedName_of_isSized (kind : Kind) {front size : String} (h : IsSized token front size) :
    ofSizedName line kind token = (.array kind size · token) <$> symbolName front := by
  simp [ofSizedName, sized?_eq_some_iff.mpr h]

theorem ofSizedKind_of_isSized {kind : Kind} {size : String} (token : String)
    (h : IsSized keyword kind.keyword size) :
    ofSizedKind line keyword token = (.array kind size · token) <$> symbolName token := by
  simp [ofSizedKind, sized?_eq_some_iff.mpr h, kind.ofKeyword?_keyword]

end Tokens

/-- Every form is read as it stands in the list. -/
theorem ofLine_of_declares {line : Line} {r : Except Error Declaration} (h : Declares line r) :
    ofLine line = r := by
  cases h with
  | missingName hshort => exact ofLine_of_short hshort
  | openClass htokens => rw [ofLine_of_tokens htokens, ofTokens_class]
  | scalar htokens hplain =>
    rw [ofLine_of_tokens htokens, ofTokens_keyword, hplain]
    rfl
  | sizedName htokens hsized =>
    rw [ofLine_of_tokens htokens, ofTokens_keyword, if_pos hsized.endsInBracket,
      ofSizedName_of_isSized line _ hsized]
  | unsizedName htokens hbracket hunsized =>
    rw [ofLine_of_tokens htokens, ofTokens_keyword, if_pos hbracket, ofSizedName,
      sized?_eq_none_iff.mpr hunsized]
  | sizedKind htokens hsized =>
    rw [ofLine_of_tokens htokens, ofTokens_foreign line hsized.ne_class hsized.ne_keyword,
      if_pos hsized.endsInBracket, ofSizedKind_of_isSized line _ hsized]
  | unknownSizedKind htokens hsized hfront =>
    rw [ofLine_of_tokens htokens, ofTokens_foreign line hsized.ne_class hsized.ne_keyword,
      if_pos hsized.endsInBracket, ofSizedKind, sized?_eq_some_iff.mpr hsized]
    simp [Kind.ofKeyword?_eq_none_iff.mpr hfront]
  | unsizedKind htokens hbracket hunsized =>
    rename_i keyword token more
    have hclass : keyword ≠ "class" := by
      rintro rfl
      exact absurd hbracket (by decide)
    have hkind : ∀ kind : Kind, keyword ≠ kind.keyword := by
      rintro kind rfl
      exact absurd hbracket (by simp [kind.keyword_not_bracket])
    rw [ofLine_of_tokens htokens, ofTokens_foreign line hclass hkind, if_pos hbracket, ofSizedKind,
      sized?_eq_none_iff.mpr hunsized]
  | unknownElement htokens hclass hkind hplain hbracket =>
    rw [ofLine_of_tokens htokens, ofTokens_foreign line hclass hkind, hplain, if_pos hbracket]
    rfl
  | unknownKeyword htokens hclass hkind hplain hbracket =>
    rw [ofLine_of_tokens htokens, ofTokens_foreign line hclass hkind, hplain, hbracket]
    rfl

/-- Every line has one of the forms. -/
theorem exists_declares (line : Line) : ∃ r, Declares line r := by
  by_cases hshort : line.tokens.length < 2
  · exact ⟨_, .missingName hshort⟩
  obtain ⟨keyword, token, more, htokens⟩ : ∃ keyword token more,
      line.tokens = keyword :: token :: more := by
    match h : line.tokens with
    | [] | [_] => simp [h] at hshort
    | keyword :: token :: more => exact ⟨keyword, token, more, rfl⟩
  by_cases hclass : keyword = "class"
  · exact ⟨_, .openClass (hclass ▸ htokens)⟩
  by_cases hkind : ∃ kind : Kind, keyword = kind.keyword
  · obtain ⟨kind, rfl⟩ := hkind
    cases hbracket : endsInBracket token with
    | false => exact ⟨_, .scalar htokens hbracket⟩
    | true =>
      by_cases hsized : ∃ front size, IsSized token front size
      · obtain ⟨front, size, hsized⟩ := hsized
        exact ⟨_, .sizedName htokens hsized⟩
      · exact ⟨_, .unsizedName htokens hbracket fun front size h => hsized ⟨front, size, h⟩⟩
  rw [not_exists] at hkind
  cases hbracket : endsInBracket keyword with
  | false =>
    cases htoken : endsInBracket token with
    | false => exact ⟨_, .unknownKeyword htokens hclass hkind hbracket htoken⟩
    | true => exact ⟨_, .unknownElement htokens hclass hkind hbracket htoken⟩
  | true =>
    by_cases hsized : ∃ front size, IsSized keyword front size
    · obtain ⟨front, size, hsized⟩ := hsized
      by_cases hfront : ∃ kind : Kind, front = kind.keyword
      · obtain ⟨kind, rfl⟩ := hfront
        exact ⟨_, .sizedKind htokens hsized⟩
      · exact ⟨_, .unknownSizedKind htokens hsized (not_exists.mp hfront)⟩
    · exact ⟨_, .unsizedKind htokens hbracket fun front size h => hsized ⟨front, size, h⟩⟩

end Declaration

/-- The forms exclude each other and cover every line, and the reader follows them. -/
theorem declares_iff {line : Line} {r : Except Error Declaration} :
    Declares line r ↔ Declaration.ofLine line = r := by
  constructor
  · exact Declaration.ofLine_of_declares
  · rintro rfl
    obtain ⟨r, hr⟩ := Declaration.exists_declares line
    rwa [Declaration.ofLine_of_declares hr]

namespace Declaration

/-- The two words of a line that make up a declaration. -/
def SpelledBy (keyword token : String) : Declaration → Prop
  | openClass name t => t = token ∧ keyword = "class" ∧ symbolName token = .ok name
  | scalar kind name t =>
    t = token ∧ keyword = kind.keyword ∧ endsInBracket token = false ∧ symbolName token = .ok name
  | array kind size name t =>
    t = token ∧ ((keyword = kind.keyword ∧
        ∃ front, IsSized token front size ∧ symbolName front = .ok name) ∨
      (IsSized keyword kind.keyword size ∧ symbolName token = .ok name))

theorem spelledBy_of_ofLine {line : Line} {declaration : Declaration}
    (h : ofLine line = .ok declaration) :
    ∃ keyword token more, line.tokens = keyword :: token :: more ∧
      declaration.SpelledBy keyword token := by
  have hline := declares_iff.mpr h
  generalize hr : (Except.ok declaration : Except Error Declaration) = r at hline
  cases hline with
  | openClass htokens =>
    obtain ⟨name, hname, rfl⟩ := map_eq_ok_iff.mp hr.symm
    exact ⟨_, _, _, htokens, rfl, rfl, hname⟩
  | scalar htokens hplain =>
    obtain ⟨name, hname, rfl⟩ := map_eq_ok_iff.mp hr.symm
    exact ⟨_, _, _, htokens, rfl, rfl, hplain, hname⟩
  | sizedName htokens hsized =>
    obtain ⟨name, hname, rfl⟩ := map_eq_ok_iff.mp hr.symm
    exact ⟨_, _, _, htokens, rfl, .inl ⟨rfl, _, hsized, hname⟩⟩
  | sizedKind htokens hsized =>
    obtain ⟨name, hname, rfl⟩ := map_eq_ok_iff.mp hr.symm
    exact ⟨_, _, _, htokens, rfl, .inr ⟨hsized, hname⟩⟩
  | _ => exact nomatch hr

theorem ofLine_of_spelledBy {line : Line} {keyword token : String} {more : List String}
    {declaration : Declaration} (htokens : line.tokens = keyword :: token :: more)
    (h : declaration.SpelledBy keyword token) : ofLine line = .ok declaration := by
  cases declaration with
  | openClass name t =>
    obtain ⟨rfl, rfl, hname⟩ := h
    rw [ofLine_of_declares (.openClass htokens), hname, Except.map_ok]
  | scalar kind name t =>
    obtain ⟨rfl, rfl, hplain, hname⟩ := h
    rw [ofLine_of_declares (.scalar htokens hplain), hname, Except.map_ok]
  | array kind size name t =>
    obtain ⟨rfl, ⟨rfl, front, hsized, hname⟩ | ⟨hsized, hname⟩⟩ := h
    · rw [ofLine_of_declares (.sizedName htokens hsized), hname, Except.map_ok]
    · rw [ofLine_of_declares (.sizedKind htokens hsized), hname, Except.map_ok]

/-- The first word of a declaration starts with the letter of a kind or of `class`. -/
theorem SpelledBy.head_mem {keyword token : String} {declaration : Declaration}
    (h : declaration.SpelledBy keyword token) :
    ∃ c ∈ keyword.toList.head?, c ∈ ['b', 'c', 'f', 'i', 's'] := by
  have hkind : ∀ (kind : Kind) (rest : List Char),
      ∃ c ∈ (kind.keyword.toList ++ rest).head?, c ∈ ['b', 'c', 'f', 'i', 's'] := by
    intro kind rest
    cases kind <;> simp [Kind.keyword]
  cases declaration with
  | openClass name t =>
    rw [h.2.1]
    exact ⟨'c', rfl, by decide⟩
  | scalar kind name t =>
    rw [h.2.1]
    simpa using hkind kind []
  | array kind size name t =>
    rcases h.2 with ⟨rfl, -⟩ | ⟨hsized, -⟩
    · simpa using hkind kind []
    · rw [hsized.eq, String.append_assoc, String.append_assoc, String.toList_append]
      exact hkind kind _

/-- A line that closes a class declares nothing. -/
theorem not_closes_of_ofLine {line : Line} {declaration : Declaration}
    (h : ofLine line = .ok declaration) : line.closes = false := by
  obtain ⟨keyword, token, more, htokens, hspelled⟩ := spelledBy_of_ofLine h
  rw [Bool.eq_false_iff]
  intro hcloses
  obtain ⟨first, rest, hfirst, hbrace⟩ := Line.tokens_of_closes hcloses
  rw [htokens] at hfirst
  obtain ⟨rfl, -⟩ := List.cons.inj hfirst
  obtain ⟨c, hc, hletter⟩ := hspelled.head_mem
  obtain rfl := Option.mem_unique hbrace hc
  exact absurd hletter (by decide)

end Declaration

end Accessors
