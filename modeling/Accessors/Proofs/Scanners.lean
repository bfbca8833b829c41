import Accessors.Proofs.Grammar
import Accessors.Proofs.Outcomes

/-!
The scanners take what the grammar allows and nothing else: strings that are read or skipped,
numbers, words, and the spaces between them.
-/

set_option autoImplicit false

namespace Accessors.Json

/-- A run is dropped up to the first character that does not belong to it. -/
theorem dropWhile_append_of_boundary {p : Char → Bool} {run rest : List Char}
    (hrun : ∀ c ∈ run, p c = true) (hrest : ∀ c, rest.head? = some c → p c = false) :
    (run ++ rest).dropWhile p = rest := by
  rw [List.dropWhile_append_of_pos hrun]
  cases rest with
  | nil => rfl
  | cons c rest => rw [List.dropWhile_cons_of_neg (by simp [hrest c rfl])]

namespace Literal

theorem tail_quote (cs : List Char) (p : Position) (acc : List Char) :
    tail ('"' :: cs) p acc = .ok (acc.reverse, ⟨cs, shift p 1⟩) := by
  unfold tail
  rw [if_pos rfl]

theorem tail_plain {c : Char} (hquote : c ≠ '"') (hcontrol : ¬ c.toNat < 0x20)
    (hescape : c ≠ '\\') (cs : List Char) (p : Position) (acc : List Char) :
    tail (c :: cs) p acc = tail cs (p.after c) (c :: acc) := by
  rw [tail.eq_def]
  simp only [hquote, hcontrol, hescape, if_false, ne_eq, not_false_eq_true, if_true]

theorem tail_of_means {body s : List Char} (h : Means body s) (rest : List Char) (p : Position)
    (acc : List Char) :
    ∃ q, tail (body ++ '"' :: rest) p acc = .ok (acc.reverse ++ s, ⟨rest, q⟩) := by
  induction h generalizing p acc with
  | nil => exact ⟨shift p 1, by rw [List.nil_append, tail_quote, List.append_nil]⟩
  | @plain c cs s hquote hcontrol hescape _ ih =>
    obtain ⟨q, hq⟩ := ih (p.after c) (c :: acc)
    rw [List.cons_append, tail_plain hquote hcontrol hescape]
    exact ⟨q, by simpa using hq⟩
  | @letter e c cs s he _ ih =>
    obtain ⟨q, hq⟩ := ih (shift p 2) (c :: acc)
    have hu : e ≠ 'u' := by
      rintro rfl
      cases he
    exact ⟨q, by simpa [tail, he, hu] using hq⟩
  | @code a b c d n cs s hn hlow hhigh _ ih =>
    obtain ⟨q, hq⟩ := ih (shift p 6) (Char.ofNat n :: acc)
    exact ⟨q, by simpa [tail, hn, hlow, hhigh] using hq⟩
  | @pair a b c d a' b' c' d' high low cs s hn hhigh hn' hlow _ ih =>
    obtain ⟨q, hq⟩ := ih (shift p 12) (Literal.pair high low :: acc)
    have hlow' : isLow high = false := by
      simp [isHigh, isLow] at hhigh ⊢
      omega
    exact ⟨q, by simpa [tail, hn, hlow', hhigh, hn', hlow] using hq⟩

theorem means_of_tail {cs acc s : List Char} {p : Position} {d : Cursor}
    (h : tail cs p acc = .ok (s, d)) :
    ∃ body s', Means body s' ∧ s = acc.reverse ++ s' ∧ cs = body ++ '"' :: d.rest := by
  fun_induction tail cs p acc generalizing s d with
  | case2 cs p acc =>
    cases h
    exact ⟨[], [], .nil, by simp, rfl⟩
  | case4 c cs p acc hquote hcontrol hescape ih =>
    obtain ⟨body, s', hbody, rfl, rfl⟩ := ih h
    exact ⟨c :: body, c :: s', .plain hquote hcontrol hescape hbody, by simp, rfl⟩
  | case9 ch p acc _ _ hch a b c d' high hn hlow' hhigh a' b' c' d'' cs low hn' hlow ih =>
    obtain ⟨body, s', hbody, rfl, rfl⟩ := ih h
    obtain rfl : ch = '\\' := Decidable.of_not_not hch
    exact ⟨_, _, .pair hn hhigh hn' hlow hbody, by simp, rfl⟩
  | case16 ch p acc _ _ hch a b c d' cs n hn hlow hhigh ih =>
    obtain ⟨body, s', hbody, rfl, rfl⟩ := ih h
    obtain rfl : ch = '\\' := Decidable.of_not_not hch
    exact ⟨_, _, .code hn (by simpa using hlow) (by simpa using hhigh) hbody, by simp, rfl⟩
  | case18 ch p acc _ _ hch e cs _ _ c he ih =>
    obtain ⟨body, s', hbody, rfl, rfl⟩ := ih h
    obtain rfl : ch = '\\' := Decidable.of_not_not hch
    exact ⟨_, _, .letter he hbody, by simp, rfl⟩
  | case6 | case8 | case11 | case17 => exact absurd h (hexFault_ne_ok _ _ _)
  | _ => cases h

/-- The string that a body stands for. -/
def decode? (body : List Char) : Option String :=
  match tail (body ++ ['"']) ⟨1, 0⟩ [] with
  | .ok (s, ⟨[], _⟩) => some (String.ofList s)
  | _ => none

theorem decode?_eq_some_iff {body : List Char} {s : String} :
    decode? body = some s ↔ Means body s.toList := by
  constructor
  · intro h
    unfold decode? at h
    split at h
    · rename_i s' q htail
      obtain ⟨body', s'', hbody, hs, hcs⟩ := means_of_tail htail
      obtain rfl := Option.some.inj h
      obtain rfl := List.append_cancel_right hcs
      simpa [hs] using hbody
    · cases h
  · intro h
    obtain ⟨q, hq⟩ := tail_of_means h [] ⟨1, 0⟩ []
    rw [decode?, hq]
    simp

theorem skipTail_of_body {body : List Char} (h : Body body) (rest : List Char) (p : Position) :
    ∃ q, skipTail (body ++ '"' :: rest) p = .ok ⟨rest, q⟩ := by
  induction h generalizing p with
  | nil => exact ⟨shift p 1, by rw [List.nil_append, skipTail.eq_def]; rfl⟩
  | @plain c cs hquote hcontrol hescape _ ih =>
    obtain ⟨q, hq⟩ := ih (p.after c)
    rw [List.cons_append, skipTail.eq_def]
    exact ⟨q, by simpa [hquote, hcontrol, hescape] using hq⟩
  | @letter e c cs he _ ih =>
    obtain ⟨q, hq⟩ := ih (shift p 2)
    have hu : e ≠ 'u' := by
      rintro rfl
      cases he
    exact ⟨q, by simpa [skipTail, he, hu] using hq⟩
  | @code a b c d n cs hn _ ih =>
    obtain ⟨q, hq⟩ := ih (shift p 6)
    exact ⟨q, by simpa [skipTail, hn] using hq⟩

theorem body_of_skipTail {cs : List Char} {p : Position} {d : Cursor}
    (h : skipTail cs p = .ok d) : ∃ body, Body body ∧ cs = body ++ '"' :: d.rest := by
  fun_induction skipTail cs p generalizing d with
  | case2 cs p =>
    cases h
    exact ⟨[], .nil, rfl⟩
  | case4 c cs p hquote hcontrol hescape ih =>
    obtain ⟨body, hbody, rfl⟩ := ih h
    exact ⟨c :: body, .plain hquote hcontrol hescape hbody, rfl⟩
  | case7 ch p _ _ hch a b c d' cs n hn ih =>
    obtain ⟨body, hbody, rfl⟩ := ih h
    obtain rfl : ch = '\\' := Decidable.of_not_not hch
    exact ⟨_, .code hn hbody, rfl⟩
  | case9 ch p _ _ hch e cs _ _ c he ih =>
    obtain ⟨body, hbody, rfl⟩ := ih h
    obtain rfl : ch = '\\' := Decidable.of_not_not hch
    exact ⟨_, .letter he hbody, rfl⟩
  | case6 | case8 => exact absurd h (hexFault_ne_ok _ _ _)
  | _ => cases h

end Literal

namespace Number

theorem rest_skipDigits (c : Cursor) : (skipDigits c).rest = c.rest.dropWhile isDigit := by
  have hsplit := List.takeWhile_append_dropWhile (p := isDigit) (l := c.rest)
  calc (skipDigits c).rest
    _ = (c.rest.takeWhile isDigit ++ c.rest.dropWhile isDigit).drop (digits c).length := by
      rw [hsplit]
      rfl
    _ = c.rest.dropWhile isDigit := List.drop_left

theorem startsWithDigit_iff {cs : List Char} :
    startsWithDigit cs = true ↔ ∃ d ds, cs = d :: ds ∧ isDigit d = true := by
  cases cs <;> simp [startsWithDigit]

theorem startsWithDigit_append {ds : List Char} (h : Digits ds) (rest : List Char) :
    startsWithDigit (ds ++ rest) = true := by
  obtain ⟨d, ds', rfl⟩ := List.exists_cons_of_ne_nil h.1
  exact startsWithDigit_iff.mpr ⟨d, ds' ++ rest, rfl, h.2 d List.mem_cons_self⟩

theorem exists_digits {cs : List Char} (h : startsWithDigit cs = true) :
    ∃ ds, Digits ds ∧ cs = ds ++ cs.dropWhile isDigit := by
  refine ⟨cs.takeWhile isDigit, ⟨?_, ?_⟩, List.takeWhile_append_dropWhile.symm⟩
  · obtain ⟨d, ds, rfl, hd⟩ := startsWithDigit_iff.mp h
    simp [hd]
  · exact fun d hd => List.all_eq_true.mp List.all_takeWhile d hd

theorem Ends.not_mark {cs : List Char} (h : Ends cs) : isExponentMark cs = false := by
  cases cs with
  | nil => rfl
  | cons c cs => simp [isExponentMark, (h c rfl).2.2]

theorem isExponentMark_cons {e : Char} (he : e = 'e' ∨ e = 'E') (cs : List Char) :
    isExponentMark (e :: cs) = true := by
  rcases he with rfl | rfl <;> rfl

theorem digit_not_sign {d : Char} (h : isDigit d = true) : d ≠ '+' ∧ d ≠ '-' := by
  constructor
  · rintro rfl
    exact absurd h (by decide)
  · rintro rfl
    exact absurd h (by decide)

theorem skipExponent_of_exponent {exponent rest : List Char} (h : Exponent exponent)
    (hrest : Ends rest) {c : Cursor} (hc : c.rest = exponent ++ rest) :
    ∃ d, skipExponent c = .ok d ∧ d.rest = rest := by
  cases h with
  | none =>
    refine ⟨c, ?_, hc⟩
    rw [skipExponent, if_neg]
    simp [hc, hrest.not_mark]
  | @plain e ds he hds =>
    have hmark : isExponentMark c.rest = true := hc ▸ isExponentMark_cons he _
    have hbehind : (behind c 1).rest = ds ++ rest := by simp [behind, hc]
    have hstart := startsWithDigit_append hds rest
    obtain ⟨d, ds', hd, hdigit⟩ := startsWithDigit_iff.mp hstart
    have hsign := digit_not_sign hdigit
    refine ⟨skipDigits (behind c 1), ?_, ?_⟩
    · simp [skipExponent, hmark, hbehind, hd, hsign, startsWithDigit_iff, hdigit]
    · rw [rest_skipDigits, hbehind, dropWhile_append_of_boundary hds.2 fun c hc => (hrest c hc).1]
  | @signed e sign ds he hsign hds =>
    have hmark : isExponentMark c.rest = true := hc ▸ isExponentMark_cons he _
    have hbehind : (behind c 1).rest = sign :: (ds ++ rest) := by simp [behind, hc]
    have hbehind' : (behind (behind c 1) 1).rest = ds ++ rest := by simp [behind, hc]
    refine ⟨skipDigits (behind (behind c 1) 1), ?_, ?_⟩
    · simp [skipExponent, hmark, hbehind, hbehind', hsign, startsWithDigit_append hds]
    · rw [rest_skipDigits, hbehind', dropWhile_append_of_boundary hds.2 fun c hc => (hrest c hc).1]

/-- Digits are demanded, and all of them are taken. -/
theorem digits_of_demand {c d : Cursor} {problem : Problem}
    (h : (if startsWithDigit c.rest = true then Except.ok (skipDigits c)
      else c.faultAhead problem) = .ok d) : ∃ ds, Digits ds ∧ c.rest = ds ++ d.rest := by
  split at h
  · rename_i hdigit
    obtain rfl := Except.ok.inj h
    rw [rest_skipDigits]
    exact exists_digits hdigit
  · exact absurd h (faultAhead_ne_ok _ _ _)

theorem exponent_of_skipExponent {c d : Cursor} (h : skipExponent c = .ok d) :
    ∃ exponent, Exponent exponent ∧ c.rest = exponent ++ d.rest := by
  rw [skipExponent] at h
  split at h
  · rename_i hmark
    obtain ⟨e, cs, hc, he⟩ : ∃ e cs, c.rest = e :: cs ∧ (e = 'e' ∨ e = 'E') := by
      cases hc : c.rest with
      | nil => simp [hc, isExponentMark] at hmark
      | cons e cs => exact ⟨e, cs, rfl, by simpa [hc, isExponentMark] using hmark⟩
    have hbehind : (behind c 1).rest = cs := by simp [behind, hc]
    dsimp only at h
    split at h
    · rename_i hsign
      obtain ⟨sign, cs', rfl, hsign⟩ : ∃ sign cs', cs = sign :: cs' ∧
          (sign = '+' ∨ sign = '-') := by
        rw [hbehind] at hsign
        cases cs with
        | nil => simp at hsign
        | cons sign cs' => exact ⟨sign, cs', rfl, by simpa using hsign⟩
      obtain ⟨ds, hds, hcs⟩ := digits_of_demand h
      have hbehind' : (behind (behind c 1) 1).rest = cs' := by simp [behind, hc]
      exact ⟨e :: sign :: ds, .signed he hsign hds, by rw [hc, ← hbehind', hcs]; rfl⟩
    · obtain ⟨ds, hds, hcs⟩ := digits_of_demand h
      exact ⟨e :: ds, .plain he hds, by rw [hc, ← hbehind, hcs]; rfl⟩
  · obtain rfl := Except.ok.inj h
    exact ⟨[], .none, rfl⟩

theorem Exponent.ends {exponent rest : List Char} (h : Exponent exponent) (hrest : Ends rest) :
    ∀ c, (exponent ++ rest).head? = some c → isDigit c = false ∧ c ≠ '.' := by
  intro c hc
  cases h with
  | none => exact ⟨(hrest c hc).1, (hrest c hc).2.1⟩
  | plain he _ =>
    obtain rfl := Option.some.inj hc
    rcases he with rfl | rfl <;> decide
  | signed he _ _ =>
    obtain rfl := Option.some.inj hc
    rcases he with rfl | rfl <;> decide

theorem skipFraction_of_fraction {fraction exponent rest : List Char} (h : Fraction fraction)
    (hexponent : Exponent exponent) (hrest : Ends rest) {c : Cursor}
    (hc : c.rest = fraction ++ (exponent ++ rest)) :
    ∃ d, skipFraction c = .ok d ∧ d.rest = rest := by
  have hends := hexponent.ends hrest
  cases h with
  | none =>
    rw [List.nil_append] at hc
    have hpoint : ¬ (c.rest.head? == some '.') = true := by
      rw [hc, beq_iff_eq]
      exact fun hhead => (hends '.' hhead).2 rfl
    rw [skipFraction, if_neg hpoint]
    exact skipExponent_of_exponent hexponent hrest hc
  | @point ds hds =>
    have hbehind : (behind c 1).rest = ds ++ (exponent ++ rest) := by simp [behind, hc]
    have hskip : (skipDigits (behind c 1)).rest = exponent ++ rest := by
      rw [rest_skipDigits, hbehind]
      exact dropWhile_append_of_boundary hds.2 fun c hc => (hends c hc).1
    obtain ⟨d, hd, hdrest⟩ := skipExponent_of_exponent hexponent hrest hskip
    refine ⟨d, ?_, hdrest⟩
    simp [skipFraction, hc, hbehind, startsWithDigit_append hds, hd]

theorem fraction_of_skipFraction {c d : Cursor} (h : skipFraction c = .ok d) :
    ∃ fraction exponent, Fraction fraction ∧ Exponent exponent ∧
      c.rest = fraction ++ (exponent ++ d.rest) := by
  rw [skipFraction] at h
  split at h
  · rename_i hpoint
    obtain ⟨cs, hc⟩ : ∃ cs, c.rest = '.' :: cs := by
      cases hc : c.rest with
      | nil => simp [hc] at hpoint
      | cons c cs => exact ⟨cs, by simpa [hc] using hpoint⟩
    have hbehind : (behind c 1).rest = cs := by simp [behind, hc]
    dsimp only at h
    split at h
    · rename_i hdigit
      rw [hbehind] at hdigit
      obtain ⟨ds, hds, hcs⟩ := exists_digits hdigit
      obtain ⟨exponent, hexponent, hrest⟩ := exponent_of_skipExponent h
      rw [rest_skipDigits, hbehind] at hrest
      exact ⟨'.' :: ds, exponent, .point hds, hexponent, by rw [hc, hcs, hrest]; rfl⟩
    · exact absurd h (faultAhead_ne_ok _ _ _)
  · obtain ⟨exponent, hexponent, hrest⟩ := exponent_of_skipExponent h
    exact ⟨[], exponent, .none, hexponent, hrest⟩

theorem skipAfter_of_unsigned {first : Char} {cs rest : List Char} {c : Cursor}
    (h : Unsigned (first :: cs)) (hrest : Ends rest) (hc : c.rest = cs ++ rest) :
    isDigit first = true ∧ ∃ d, skipAfter first c = .ok d ∧ d.rest = rest := by
  obtain ⟨whole, fraction, exponent, hwhole, hfraction, hexponent, htext⟩ :
      ∃ whole fraction exponent, Whole whole ∧ Fraction fraction ∧ Exponent exponent ∧
        first :: cs = whole ++ (fraction ++ exponent) := by
    generalize first :: cs = text at h
    cases h with
    | mk hwhole hfraction hexponent => exact ⟨_, _, _, hwhole, hfraction, hexponent, rfl⟩
  -- No digit comes after the whole part.
  have hends : ∀ c, (fraction ++ (exponent ++ rest)).head? = some c → isDigit c = false := by
    intro c hc
    cases hfraction with
    | none => exact (hexponent.ends hrest c hc).1
    | point hds =>
      obtain rfl := Option.some.inj hc
      rfl
  cases hwhole with
  | zero =>
    rw [List.singleton_append, List.cons.injEq] at htext
    obtain ⟨rfl, rfl⟩ := htext
    rw [List.append_assoc] at hc
    have hdigit : startsWithDigit c.rest = false := by
      rw [← Bool.not_eq_true, startsWithDigit_iff]
      rintro ⟨d, ds, hd, hdigit⟩
      rw [hc] at hd
      rw [hends d (by rw [hd]; rfl)] at hdigit
      cases hdigit
    refine ⟨rfl, ?_⟩
    rw [skipAfter, if_pos rfl, if_neg (by simp [hdigit])]
    exact skipFraction_of_fraction hfraction hexponent hrest hc
  | @digits d ds hd hzero hds =>
    rw [List.cons_append, List.cons.injEq] at htext
    obtain ⟨rfl, rfl⟩ := htext
    refine ⟨hd, ?_⟩
    rw [skipAfter, if_neg hzero]
    apply skipFraction_of_fraction hfraction hexponent hrest
    rw [rest_skipDigits, hc, List.append_assoc, List.append_assoc]
    exact dropWhile_append_of_boundary hds hends

theorem unsigned_of_skipAfter {first : Char} {c d : Cursor} (hfirst : isDigit first = true)
    (h : skipAfter first c = .ok d) :
    ∃ cs, Unsigned (first :: cs) ∧ c.rest = cs ++ d.rest := by
  rw [skipAfter] at h
  split at h
  · rename_i hzero
    obtain rfl := hzero
    split at h
    · exact absurd h (faultAhead_ne_ok _ _ _)
    · obtain ⟨fraction, exponent, hfraction, hexponent, hrest⟩ := fraction_of_skipFraction h
      exact ⟨fraction ++ exponent, .mk .zero hfraction hexponent, by rw [hrest, List.append_assoc]⟩
  · rename_i hzero
    obtain ⟨fraction, exponent, hfraction, hexponent, hrest⟩ := fraction_of_skipFraction h
    have hdigits : ∀ d ∈ c.rest.takeWhile isDigit, isDigit d = true :=
      fun d hd => List.all_eq_true.mp List.all_takeWhile d hd
    refine ⟨c.rest.takeWhile isDigit ++ (fraction ++ exponent),
      .mk (.digits hfirst hzero hdigits) hfraction hexponent, ?_⟩
    rw [List.append_assoc, List.append_assoc, ← hrest, rest_skipDigits,
      List.takeWhile_append_dropWhile]

theorem skipDigit_of_unsigned {first : Char} {cs rest : List Char} {c : Cursor}
    (h : Unsigned (first :: cs)) (hrest : Ends rest) (hc : c.rest = cs ++ rest) :
    isDigit first = true ∧ ∃ d, skipDigit first c = .ok d ∧ d.1.rest = rest := by
  obtain ⟨hfirst, d, hd, hdrest⟩ := skipAfter_of_unsigned h hrest hc
  refine ⟨hfirst, ⟨d, length_of_skipAfter hd⟩, ?_, hdrest⟩
  unfold skipDigit
  split
  · rename_i hd'
    rw [hd] at hd'
    cases hd'
  · rename_i d' hd'
    obtain rfl := Except.ok.inj (hd'.symm.trans hd)
    rfl

theorem unsigned_of_skipDigit {first : Char} {c : Cursor} {d : c.From}
    (hfirst : isDigit first = true) (h : skipDigit first c = .ok d) :
    ∃ cs, Unsigned (first :: cs) ∧ c.rest = cs ++ d.1.rest := by
  unfold skipDigit at h
  split at h
  · cases h
  · rename_i d' hd'
    obtain rfl := Except.ok.inj h
    exact unsigned_of_skipAfter hfirst hd'

theorem skipSigned_of_unsigned {text rest : List Char} {c : Cursor} (h : Unsigned text)
    (hrest : Ends rest) (hc : c.rest = text ++ rest) :
    ∃ d, skipSigned c = .ok d ∧ d.1.rest = rest := by
  obtain ⟨first, cs, rfl, -⟩ := h.exists_digit
  unfold skipSigned
  split
  · rename_i hnil
    rw [hc] at hnil
    cases hnil
  · rename_i ch cs' hcons
    obtain ⟨rfl, rfl⟩ := List.cons.inj (hcons.symm.trans hc)
    obtain ⟨hfirst, d, hd, hdrest⟩ :=
      skipDigit_of_unsigned (c := (c.step ch _ hcons).1) h hrest rfl
    rw [if_pos hfirst]
    dsimp only
    rw [hd]
    exact ⟨_, rfl, hdrest⟩

theorem unsigned_of_skipSigned {c : Cursor} {d : c.From} (h : skipSigned c = .ok d) :
    ∃ text, Unsigned text ∧ c.rest = text ++ d.1.rest := by
  unfold skipSigned at h
  split at h
  · cases h
  · rename_i ch cs hcons
    split at h
    · rename_i hfirst
      obtain ⟨d', hd, hd'⟩ := bind_eq_ok_iff.mp h
      obtain rfl := Except.ok.inj hd'
      obtain ⟨cs', htext, hcs⟩ := unsigned_of_skipDigit hfirst hd
      exact ⟨ch :: cs', htext, hcons.trans (congrArg (ch :: ·) hcs)⟩
    · cases h

end Number

theorem Spaced.dropWhile {cs rest : List Char} (h : Spaced cs rest)
    (hrest : ∀ c, rest.head? = some c → Cursor.isSpace c = false) :
    cs.dropWhile Cursor.isSpace = rest := by
  obtain ⟨space, hspace, rfl⟩ := h
  exact dropWhile_append_of_boundary hspace hrest

theorem spaced_dropWhile (cs : List Char) : Spaced cs (cs.dropWhile Cursor.isSpace) :=
  ⟨cs.takeWhile Cursor.isSpace, fun c hc => List.all_eq_true.mp List.all_takeWhile c hc,
    List.takeWhile_append_dropWhile.symm⟩

namespace Cursor

theorem rest_skipSpacesFrom (cs : List Char) (p : Position) :
    (skipSpacesFrom cs p).rest = cs.dropWhile isSpace := by
  induction cs generalizing p with
  | nil => rfl
  | cons c cs ih =>
    rw [skipSpacesFrom, List.dropWhile_cons]
    split
    · exact ih _
    · rfl

theorem rest_skipSpaces (c : Cursor) : c.skipSpaces.rest = c.rest.dropWhile isSpace :=
  rest_skipSpacesFrom c.rest c.position

theorem word_of_append (letters : List Char) {rest : List Char} {c : Cursor}
    (hc : c.rest = letters ++ rest) :
    ∃ d, word letters c = .ok d ∧ d.1.rest = rest := by
  induction letters generalizing c with
  | nil => exact ⟨_, rfl, hc⟩
  | cons letter letters ih =>
    unfold word
    split
    · rename_i hnil
      rw [hc] at hnil
      cases hnil
    · rename_i ch cs hcons
      obtain ⟨rfl, rfl⟩ := List.cons.inj (hcons.symm.trans hc)
      obtain ⟨d, hd, hdrest⟩ := ih (c := (c.step ch _ hcons).1) rfl
      rw [if_pos rfl]
      dsimp only
      rw [hd]
      exact ⟨_, rfl, hdrest⟩

theorem append_of_word {letters : List Char} {c : Cursor} {d : c.From}
    (h : word letters c = .ok d) : c.rest = letters ++ d.1.rest := by
  induction letters generalizing c with
  | nil =>
    obtain rfl := Except.ok.inj h
    rfl
  | cons letter letters ih =>
    unfold word at h
    split at h
    · cases h
    · rename_i ch cs hcons
      split at h
      · rename_i hletter
        subst hletter
        obtain ⟨d', hd, hd'⟩ := bind_eq_ok_iff.mp h
        obtain rfl := Except.ok.inj hd'
        exact hcons.trans (congrArg (ch :: ·) (ih hd))
      · cases h

end Cursor

namespace Literal

theorem skip_of_body {body rest : List Char} {c : Cursor} (h : Body body)
    (hc : c.rest = body ++ '"' :: rest) : ∃ d, skip c = .ok d ∧ d.1.rest = rest := by
  obtain ⟨q, hq⟩ := skipTail_of_body h rest c.position
  rw [← hc] at hq
  unfold skip
  split
  · rename_i hfault
    rw [hq] at hfault
    cases hfault
  · rename_i d hd
    obtain rfl := Except.ok.inj (hd.symm.trans hq)
    exact ⟨_, rfl, rfl⟩

theorem body_of_skip {c : Cursor} {d : c.Past} (h : skip c = .ok d) :
    ∃ body, Body body ∧ c.rest = body ++ '"' :: d.1.rest := by
  unfold skip at h
  split at h
  · cases h
  · rename_i hd
    obtain rfl := Except.ok.inj h
    exact body_of_skipTail hd

theorem read_of_means {body s rest : List Char} {c : Cursor} (h : Means body s)
    (hc : c.rest = body ++ '"' :: rest) :
    ∃ d, read c = .ok (String.ofList s, d) ∧ d.1.rest = rest := by
  obtain ⟨q, hq⟩ := tail_of_means h rest c.position []
  rw [← hc] at hq
  unfold read
  split
  · rename_i hfault
    rw [hq] at hfault
    cases hfault
  · rename_i s' d hd
    obtain ⟨rfl, rfl⟩ := Prod.mk.inj (Except.ok.inj (hd.symm.trans hq))
    exact ⟨_, rfl, rfl⟩

theorem means_of_read {c : Cursor} {s : String} {d : c.Past} (h : read c = .ok (s, d)) :
    ∃ body, Means body s.toList ∧ c.rest = body ++ '"' :: d.1.rest := by
  unfold read at h
  split at h
  · cases h
  · rename_i s' d' hd
    obtain ⟨rfl, rfl⟩ := Prod.mk.inj (Except.ok.inj h)
    obtain ⟨body, s'', hbody, rfl, hrest⟩ := means_of_tail hd
    exact ⟨body, by simpa using hbody, hrest⟩

end Literal

namespace Skip

theorem scalar_of_digit {first : Char} (h : Number.isDigit first = true) (c : Cursor) :
    scalar first c = some (Number.skipDigit first c) := by
  have hne : first ≠ 'n' ∧ first ≠ 't' ∧ first ≠ 'f' ∧ first ≠ '-' := by
    refine ⟨?_, ?_, ?_, ?_⟩ <;> (rintro rfl; exact absurd h (by decide))
  simp [scalar, hne, h]

theorem scalar_of_spelled {v : Value} {first : Char} {cs rest : List Char} {c : Cursor}
    (h : Scalar v (first :: cs) rest) (hrest : Number.Ends rest) (hc : c.rest = cs) :
    ∃ d, scalar first c = some (.ok d) ∧ d.1.rest = rest := by
  subst hc
  generalize htext : first :: c.rest = text at h
  cases h with
  | null =>
    obtain ⟨rfl, hc⟩ := List.cons.inj htext
    obtain ⟨d, hd, hdrest⟩ := Cursor.word_of_append ['u', 'l', 'l'] hc
    exact ⟨d, congrArg some hd, hdrest⟩
  | true =>
    obtain ⟨rfl, hc⟩ := List.cons.inj htext
    obtain ⟨d, hd, hdrest⟩ := Cursor.word_of_append ['r', 'u', 'e'] hc
    exact ⟨d, congrArg some hd, hdrest⟩
  | false =>
    obtain ⟨rfl, hc⟩ := List.cons.inj htext
    obtain ⟨d, hd, hdrest⟩ := Cursor.word_of_append ['a', 'l', 's', 'e'] hc
    exact ⟨d, congrArg some hd, hdrest⟩
  | @number text rest hnumber =>
    cases hnumber with
    | positive hnumber =>
      obtain ⟨first', cs, rfl, -⟩ := hnumber.exists_digit
      obtain ⟨rfl, hc⟩ := List.cons.inj htext
      obtain ⟨hfirst, d, hd, hdrest⟩ := Number.skipDigit_of_unsigned hnumber hrest hc
      refine ⟨d, ?_, hdrest⟩
      rw [scalar_of_digit hfirst, hd]
    | @negative text hnumber =>
      obtain ⟨rfl, hc⟩ := List.cons.inj htext
      obtain ⟨d, hd, hdrest⟩ := Number.skipSigned_of_unsigned hnumber hrest hc
      exact ⟨d, congrArg some hd, hdrest⟩
  | string hbody =>
    obtain ⟨rfl, hc⟩ := List.cons.inj htext
    obtain ⟨d, hd, hdrest⟩ := Literal.skip_of_body hbody hc
    refine ⟨⟨d.1, Nat.le_of_lt d.2⟩, ?_, hdrest⟩
    change some ((Literal.skip c).map _) = _
    rw [hd]
    rfl

theorem spelled_of_scalar {first : Char} {c : Cursor} {d : c.From}
    (h : scalar first c = some (.ok d)) : ∃ v, Scalar v (first :: c.rest) d.1.rest := by
  unfold scalar at h
  -- One branch for each kind of scalar, told apart by its first character.
  split at h
  · rename_i hfirst
    rw [hfirst, Cursor.append_of_word (Option.some.inj h)]
    exact ⟨_, .null⟩
  split at h
  · rename_i hfirst
    rw [hfirst, Cursor.append_of_word (Option.some.inj h)]
    exact ⟨_, .true⟩
  split at h
  · rename_i hfirst
    rw [hfirst, Cursor.append_of_word (Option.some.inj h)]
    exact ⟨_, .false⟩
  split at h
  · rename_i hfirst
    obtain ⟨text, htext, hc⟩ := Number.unsigned_of_skipSigned (Option.some.inj h)
    rw [hfirst, hc]
    exact ⟨_, .number (.negative htext)⟩
  split at h
  · rename_i hfirst
    obtain ⟨cs, htext, hc⟩ := Number.unsigned_of_skipDigit hfirst (Option.some.inj h)
    rw [hc]
    exact ⟨_, .number (.positive htext)⟩
  split at h
  · rename_i hfirst
    obtain ⟨d', hd', rfl⟩ := map_eq_ok_iff.mp (Option.some.inj h)
    obtain ⟨body, hbody, hc⟩ := Literal.body_of_skip hd'
    rw [hfirst, hc]
    exact ⟨_, .string hbody⟩
  · cases h

end Skip

end Accessors.Json
