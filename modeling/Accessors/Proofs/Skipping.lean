import Accessors.Proofs.Scanners

/-!
Skipped values. What is skipped up to the end of the open brackets is a value of the grammar with
the items and members that follow it, and each value of the grammar is skipped.
-/

set_option autoImplicit false

namespace Accessors.Json

namespace Cursor

/-- The cursor behind a character that comes after spaces. -/
def onto (c : Cursor) (ch : Char) (cs : List Char) : Cursor :=
  ⟨cs, c.skipSpaces.position.after ch⟩

theorem spaced_skipSpaces (c : Cursor) : Spaced c.rest c.skipSpaces.rest := by
  rw [rest_skipSpaces]
  exact spaced_dropWhile c.rest

theorem spaced_iff {c : Cursor} {ch : Char} {cs : List Char} (hch : isSpace ch = false) :
    Spaced c.rest (ch :: cs) ↔ c.skipSpaces.rest = ch :: cs := by
  constructor
  · intro h
    rw [rest_skipSpaces]
    exact h.dropWhile (by simp [hch])
  · intro h
    exact h ▸ c.spaced_skipSpaces

theorem length_onto {c : Cursor} {ch : Char} {cs : List Char} (h : c.skipSpaces.rest = ch :: cs) :
    (c.onto ch cs).length < c.length := by
  have hle := c.length_skipSpaces
  rw [length, h, List.length_cons] at hle
  exact hle

end Cursor

theorem Value.Spells.skipSpaces {v : Value} {c : Cursor} {ds rest : List Char}
    (hv : v.Spells ds rest) (hspace : Spaced c.rest ds) : v.Spells c.skipSpaces.rest rest := by
  obtain ⟨ch, cs, rfl, hch⟩ := hv.exists_start
  rwa [(Cursor.spaced_iff hch.space).mp hspace]

/-- An outcome that is a cursor leaves a text to read. -/
def Leaves {P : Cursor → Prop} (x : Except Fault { d : Cursor // P d }) (rest : List Char) : Prop :=
  ∃ d, x = .ok d ∧ d.1.rest = rest

section Leaves
variable {α : Type} {P Q : Cursor → Prop} {rest : List Char}

theorem leaves_ok {d : { d : Cursor // P d }} : Leaves (.ok d) rest ↔ d.1.rest = rest := by
  simp [Leaves]

theorem leaves_bind {x : Except Fault α} {f : α → Except Fault { d : Cursor // P d }} :
    Leaves (x >>= f) rest ↔ ∃ a, x = .ok a ∧ Leaves (f a) rest := by
  simp only [Leaves, bind_eq_ok_iff]
  grind

/-- Another proof for the same cursor makes no difference. -/
theorem leaves_repack {x : Except Fault { d : Cursor // P d }}
    (h : ∀ d : { d : Cursor // P d }, Q d.1) :
    Leaves (x >>= fun d => pure (⟨d.1, h d⟩ : { d : Cursor // Q d })) rest ↔ Leaves x rest := by
  cases x <;> simp [Leaves]

theorem not_leaves_error {fault : Fault} :
    ¬ Leaves (.error fault : Except Fault { d : Cursor // P d }) rest := by
  simp [Leaves]

end Leaves

theorem Frame.close_ne_comma (frame : Frame) : frame.close ≠ ',' := by
  cases frame <;> decide

theorem Frame.isSpace_close (frame : Frame) : Cursor.isSpace frame.close = false := by
  cases frame <;> rfl

namespace Skip

variable {stack : List Frame} {c : Cursor} {rest : List Char}

theorem not_leaves_value (h : c.skipSpaces.rest = []) : ¬ Leaves (value stack c) rest := by
  rw [value]
  dsimp only [Cursor.spaces]
  split
  · exact not_leaves_error
  · rename_i hcons
    cases hcons.symm.trans h

theorem leaves_value {ch : Char} {cs : List Char} (h : c.skipSpaces.rest = ch :: cs) :
    Leaves (value stack c) rest ↔
      (ch = '[' ∧ Leaves (after false (.list :: stack) (c.onto ch cs)) rest) ∨
        (ch = '{' ∧ Leaves (after false (.object :: stack) (c.onto ch cs)) rest) ∨
        (ch ≠ '[' ∧ ch ≠ '{' ∧ ∃ e, scalar ch (c.onto ch cs) = some (.ok e) ∧
          Leaves (after true stack e.1) rest) := by
  rw [value]
  dsimp only [Cursor.spaces]
  split
  · rename_i hnil
    cases hnil.symm.trans h
  · rename_i ch' cs' hcons
    obtain ⟨rfl, rfl⟩ := List.cons.inj (hcons.symm.trans h)
    by_cases hlist : ch' = '['
    · rw [if_pos hlist]
      refine (leaves_repack _).trans ?_
      simp [hlist, Cursor.onto, Cursor.step]
    by_cases hobject : ch' = '{'
    · rw [if_neg hlist, if_pos hobject]
      refine (leaves_repack _).trans ?_
      simp [hobject, Cursor.onto, Cursor.step]
    · rw [if_neg hlist, if_neg hobject]
      simp only [hlist, hobject, false_and, false_or, ne_eq, not_false_eq_true, true_and]
      split
      · rename_i hnone
        refine iff_of_false not_leaves_error ?_
        rintro ⟨e, he, -⟩
        cases hnone.symm.trans he
      · rename_i skipped hsome
        rw [leaves_bind]
        constructor
        · rintro ⟨e, rfl, hafter⟩
          exact ⟨e, hsome, (leaves_repack _).mp hafter⟩
        · rintro ⟨e, he, hafter⟩
          exact ⟨e, Option.some.inj (hsome.symm.trans he), (leaves_repack _).mpr hafter⟩

theorem leaves_after_nil {full : Bool} : Leaves (after full [] c) rest ↔ c.rest = rest := by
  rw [after]
  exact leaves_ok

variable {full : Bool} {frame : Frame}

theorem not_leaves_after (h : c.skipSpaces.rest = []) :
    ¬ Leaves (after full (frame :: stack) c) rest := by
  rw [after]
  dsimp only [Cursor.spaces]
  split
  · exact not_leaves_error
  · rename_i hcons
    cases hcons.symm.trans h

theorem leaves_after {ch : Char} {cs : List Char} (h : c.skipSpaces.rest = ch :: cs) :
    Leaves (after full (frame :: stack) c) rest ↔
      (full = true ∧ ch = ',' ∧ ∃ e, member frame (c.onto ch cs) = .ok e ∧
        Leaves (value (frame :: stack) e.1) rest) ∨
      (ch = frame.close ∧ Leaves (after true stack (c.onto ch cs)) rest) ∨
      (full = false ∧ ch ≠ frame.close ∧ ∃ e, member frame c.skipSpaces = .ok e ∧
        Leaves (value (frame :: stack) e.1) rest) := by
  rw [after]
  dsimp only [Cursor.spaces]
  split
  · rename_i hnil
    cases hnil.symm.trans h
  · rename_i ch' cs' hcons
    obtain ⟨rfl, rfl⟩ := List.cons.inj (hcons.symm.trans h)
    by_cases hclose : ch' = frame.close
    · have hcomma : ch' ≠ ',' := hclose ▸ frame.close_ne_comma
      rw [if_neg (by simp [hcomma]), if_pos hclose]
      refine (leaves_repack _).trans ?_
      simp [hclose, frame.close_ne_comma, Cursor.onto, Cursor.step]
    cases full with
    | true =>
      by_cases hcomma : ch' = ','
      · rw [if_pos ⟨rfl, hcomma⟩, leaves_bind]
        refine (exists_congr fun e => and_congr_right fun _ => leaves_repack _).trans ?_
        simp [hcomma, frame.close_ne_comma.symm, Cursor.onto, Cursor.step]
      · rw [if_neg (by simp [hcomma]), if_neg hclose, if_pos rfl]
        exact iff_of_false not_leaves_error (by simp [hcomma, hclose])
    | false =>
      rw [if_neg (by simp), if_neg hclose, if_neg (by simp), leaves_bind]
      refine (exists_congr fun e => and_congr_right fun _ => leaves_repack _).trans ?_
      simp [hclose]

theorem leaves_key_iff : Leaves (key c) rest ↔ ∃ name ds,
    Spaced c.rest ('"' :: (name ++ '"' :: ds)) ∧ Literal.Body name ∧ Spaced ds (':' :: rest) := by
  have hquote : Cursor.isSpace '"' = false := rfl
  simp only [Cursor.spaced_iff hquote]
  unfold key
  dsimp only [Cursor.spaces]
  split
  · rename_i hnil
    exact iff_of_false not_leaves_error (by simp [hnil])
  · rename_i cs hcons
    rw [leaves_bind]
    constructor
    · rintro ⟨name, hname, hcolon⟩
      obtain ⟨body, hbody, hcs⟩ := Literal.body_of_skip hname
      refine ⟨body, name.1.rest, hcons.trans (congrArg ('"' :: ·) hcs), hbody, ?_⟩
      split at hcolon
      · exact absurd hcolon not_leaves_error
      · rename_i cs' hcons'
        obtain rfl : cs' = rest := leaves_ok.mp hcolon
        exact (Cursor.spaced_iff rfl).mpr hcons'
      · exact absurd hcolon not_leaves_error
    · rintro ⟨body, ds, hname, hbody, hcolon⟩
      obtain ⟨-, hcs⟩ := List.cons.inj (hcons.symm.trans hname)
      obtain ⟨name, hskip, rfl⟩ :=
        Literal.skip_of_body (c := (c.skipSpaces.step '"' cs hcons).1) hbody hcs
      have hrest := (Cursor.spaced_iff rfl).mp hcolon
      refine ⟨name, hskip, ?_⟩
      split
      · rename_i hnil
        cases hnil.symm.trans hrest
      · rename_i cs' hcons'
        exact leaves_ok.mpr (List.cons.inj (hcons'.symm.trans hrest)).2
      · rename_i hne
        exact (hne rest hrest).elim
  · rename_i hne
    refine iff_of_false not_leaves_error ?_
    rintro ⟨name, ds, hname, -⟩
    exact hne _ hname

/-- What stands between the parts of a bracket, up to the key of the next one. -/
def Lead (full : Bool) (cs rest : List Char) : Prop :=
  if full then Spaced cs (',' :: rest) else Spaced cs rest

/-- What stands before a value inside a bracket: in an object its key. -/
def Keyed (frame : Frame) (cs rest : List Char) : Prop :=
  match frame with
  | .list => cs = rest
  | .object => ∃ name ds, Spaced cs ('"' :: (name ++ '"' :: ds)) ∧ Literal.Body name ∧
      Spaced ds (':' :: rest)

theorem leaves_member_iff : Leaves (member frame c) rest ↔ Keyed frame c.rest rest := by
  cases frame with
  | list => exact leaves_ok
  | object => exact leaves_key_iff

/-- The parts of a bracket up to its end. -/
def Parts (full : Bool) (frame : Frame) (cs rest : List Char) : Prop :=
  match frame with
  | .list => ∃ items, Items full items cs rest
  | .object => ∃ members, Members full members cs rest

/-- The parts of all open brackets up to the end of the last one. -/
def Closes : Bool → List Frame → List Char → List Char → Prop
  | _, [], cs, rest => cs = rest
  | full, frame :: stack, cs, rest => ∃ ds, Parts full frame cs ds ∧ Closes true stack ds rest

theorem parts_done {cs : List Char} (h : Spaced cs (frame.close :: rest)) :
    Parts full frame cs rest := by
  cases frame with
  | list => exact ⟨[], .done h⟩
  | object => exact ⟨[], .done h⟩

theorem Lead.led {cs ds : List Char} (h : Lead full cs ds) (hds : Spaced ds rest) :
    Led full cs rest := by
  cases full with
  | true => exact ⟨ds, h, hds⟩
  | false => exact Spaced.trans h hds

theorem parts_cons {cs ds es fs gs : List Char} {v : Value} (hlead : Lead full cs ds)
    (hkey : Keyed frame ds es) (hspace : Spaced es fs) (hv : v.Spells fs gs)
    (hparts : Parts true frame gs rest) : Parts full frame cs rest := by
  cases frame with
  | list =>
    obtain ⟨items, hitems⟩ := hparts
    obtain rfl : ds = es := hkey
    exact ⟨v :: items, .item (hlead.led hspace) hv hitems⟩
  | object =>
    obtain ⟨members, hmembers⟩ := hparts
    obtain ⟨name, hs, hname, hbody, hcolon⟩ := hkey
    exact ⟨(name, v) :: members, .member (hlead.led hname) hbody hcolon hspace hv hmembers⟩

-- Skipping goes on behind a value up to the last open bracket, so the brackets that are open stand
-- for the values around it: what is skipped behind it are the other parts of these values.
mutual

theorem spells_of_leaves {stack : List Frame} {c : Cursor} {rest : List Char}
    (h : Leaves (value stack c) rest) :
    ∃ v ds es, Spaced c.rest ds ∧ Value.Spells v ds es ∧ Closes true stack es rest := by
  have hspace := c.spaced_skipSpaces
  cases hcs : c.skipSpaces.rest with
  | nil => exact absurd h (not_leaves_value hcs)
  | cons ch cs =>
    rw [hcs] at hspace
    have hlt := Cursor.length_onto hcs
    obtain ⟨rfl, h⟩ | ⟨rfl, h⟩ | ⟨-, -, ⟨e, he⟩, hscalar, h⟩ := (leaves_value hcs).mp h
    · obtain ⟨es, ⟨items, hitems⟩, hcloses⟩ := closes_of_leaves h
      exact ⟨_, _, es, hspace, .list hitems, hcloses⟩
    · obtain ⟨es, ⟨members, hmembers⟩, hcloses⟩ := closes_of_leaves h
      exact ⟨_, _, es, hspace, .object hmembers, hcloses⟩
    · obtain ⟨v, hv⟩ := spelled_of_scalar hscalar
      exact ⟨v, _, e.rest, hspace, .scalar hv, closes_of_leaves h⟩
termination_by 2 * c.length
decreasing_by all_goals omega

theorem closes_of_leaves {full : Bool} {stack : List Frame} {c : Cursor} {rest : List Char}
    (h : Leaves (after full stack c) rest) : Closes full stack c.rest rest := by
  cases stack with
  | nil => exact leaves_after_nil.mp h
  | cons frame stack =>
    have hspace := c.spaced_skipSpaces
    cases hcs : c.skipSpaces.rest with
    | nil => exact absurd h (not_leaves_after hcs)
    | cons ch cs =>
      have hle := c.length_skipSpaces
      have hlt := Cursor.length_onto hcs
      obtain ⟨rfl, rfl, ⟨e, he⟩, hmember, h⟩ | ⟨rfl, h⟩ | ⟨rfl, -, ⟨e, he⟩, hmember, h⟩ :=
        (leaves_after hcs).mp h
      · obtain ⟨v, ds, es, hds, hv, fs, hparts, hcloses⟩ := spells_of_leaves h
        have hkey := leaves_member_iff.mp ⟨_, hmember, rfl⟩
        have hlead : Lead true c.rest cs := by
          rw [hcs] at hspace
          exact hspace
        exact ⟨fs, parts_cons hlead hkey hds hv hparts, hcloses⟩
      · exact ⟨cs, parts_done (hcs ▸ hspace), closes_of_leaves h⟩
      · obtain ⟨v, ds, es, hds, hv, fs, hparts, hcloses⟩ := spells_of_leaves h
        have hkey := leaves_member_iff.mp ⟨_, hmember, rfl⟩
        have hlead : Lead false c.rest c.skipSpaces.rest := hspace
        exact ⟨fs, parts_cons hlead hkey hds hv hparts, hcloses⟩
termination_by 2 * c.length + 1
decreasing_by all_goals omega

end

theorem Keyed.of_spaced {cs ds es : List Char} (h : Keyed frame ds es) (hspace : Spaced cs ds) :
    ∃ fs, Keyed frame cs fs ∧ Spaced fs es := by
  cases frame with
  | list =>
    obtain rfl : ds = es := h
    exact ⟨cs, rfl, hspace⟩
  | object =>
    obtain ⟨name, hs, hname, hbody, hcolon⟩ := h
    exact ⟨es, ⟨name, hs, hspace.trans hname, hbody, hcolon⟩, .refl es⟩

theorem leaves_after_close {cs : List Char} (hclose : Spaced c.rest (frame.close :: cs))
    (h : ∀ d : Cursor, d.rest = cs → Leaves (after true stack d) rest) :
    Leaves (after full (frame :: stack) c) rest := by
  have hcs := (Cursor.spaced_iff frame.isSpace_close).mp hclose
  exact (leaves_after hcs).mpr (.inr (.inl ⟨rfl, h _ rfl⟩))

theorem leaves_after_cons {ch : Char} {ds es : List Char} (hled : Led full c.rest (ch :: ds))
    (hspace : Cursor.isSpace ch = false) (hclose : ch ≠ frame.close)
    (hkey : Keyed frame (ch :: ds) es)
    (h : ∀ d : Cursor, Spaced d.rest es → Leaves (value (frame :: stack) d) rest) :
    Leaves (after full (frame :: stack) c) rest := by
  cases full with
  | true =>
    obtain ⟨cs, hcomma, hcs⟩ := hled
    obtain ⟨fs, hkey, hfs⟩ := hkey.of_spaced hcs
    have hcomma := (Cursor.spaced_iff rfl).mp hcomma
    obtain ⟨e, he, rfl⟩ := leaves_member_iff (c := c.onto ',' cs).mpr hkey
    exact (leaves_after hcomma).mpr (.inl ⟨rfl, rfl, e, he, h e.1 hfs⟩)
  | false =>
    have hch := (Cursor.spaced_iff hspace).mp hled
    obtain ⟨e, he, rfl⟩ := leaves_member_iff.mpr (hch ▸ hkey)
    exact (leaves_after hch).mpr (.inr (.inr ⟨rfl, hclose, e, he, h e.1 (.refl _)⟩))

mutual

/-- A value is skipped if what comes behind it is, with no number running on into it. -/
theorem leaves_of_spells {v : Value} {ds es : List Char} (hv : v.Spells ds es)
    {stack : List Frame} {c : Cursor} {rest : List Char} (hspace : Spaced c.rest ds)
    (hes : Number.Ends es) (h : ∀ d : Cursor, d.rest = es → Leaves (after true stack d) rest) :
    Leaves (value stack c) rest := by
  cases hv with
  | scalar hv =>
    obtain ⟨ch, cs, rfl, hch, hlist, hobject⟩ := hv.exists_start
    have hcs := (Cursor.spaced_iff hch.space).mp hspace
    obtain ⟨e, he, hrest⟩ := scalar_of_spelled (c := c.onto ch cs) hv hes rfl
    exact (leaves_value hcs).mpr (.inr (.inr ⟨hlist, hobject, e, he, h e.1 hrest⟩))
  | list hvs =>
    have hcs := (Cursor.spaced_iff rfl).mp hspace
    exact (leaves_value hcs).mpr (.inl ⟨rfl, leaves_of_items hvs rfl h⟩)
  | object hvs =>
    have hcs := (Cursor.spaced_iff rfl).mp hspace
    exact (leaves_value hcs).mpr (.inr (.inl ⟨rfl, leaves_of_members hvs rfl h⟩))

theorem leaves_of_items {full : Bool} {vs : List Value} {cs es : List Char}
    (hvs : Items full vs cs es) {stack : List Frame} {c : Cursor} {rest : List Char}
    (hc : c.rest = cs) (h : ∀ d : Cursor, d.rest = es → Leaves (after true stack d) rest) :
    Leaves (after full (.list :: stack) c) rest := by
  subst hc
  cases hvs with
  | done hend => exact leaves_after_close hend h
  | item hled hv hvs =>
    obtain ⟨ch, ds, rfl, hch⟩ := hv.exists_start
    have hkeyed : Keyed .list (ch :: ds) (ch :: ds) := rfl
    refine leaves_after_cons hled hch.space hch.bracket hkeyed ?_
    intro d hd
    exact leaves_of_spells hv hd hvs.ends fun e he => leaves_of_items hvs he h

theorem leaves_of_members {full : Bool} {vs : List (List Char × Value)} {cs es : List Char}
    (hvs : Members full vs cs es) {stack : List Frame} {c : Cursor} {rest : List Char}
    (hc : c.rest = cs) (h : ∀ d : Cursor, d.rest = es → Leaves (after true stack d) rest) :
    Leaves (after full (.object :: stack) c) rest := by
  subst hc
  cases hvs with
  | done hend => exact leaves_after_close hend h
  | member hled hkey hcolon hspace hv hvs =>
    have hkeyed : Keyed .object _ _ := ⟨_, _, .refl _, hkey, hcolon⟩
    refine leaves_after_cons hled rfl (by decide) hkeyed ?_
    intro d hd
    exact leaves_of_spells hv (hd.trans hspace) hvs.ends fun e he => leaves_of_members hvs he h

end

/-- A value by itself is skipped as the grammar has it. -/
theorem leaves_single {v : Value} {c : Cursor} {rest : List Char}
    (hv : v.Spells c.skipSpaces.rest rest) (hrest : Number.Ends rest) :
    Leaves (value [] c) rest :=
  leaves_of_spells hv c.spaced_skipSpaces hrest fun _ hd => leaves_after_nil.mpr hd

theorem spells_single {c : Cursor} {rest : List Char} (h : Leaves (value [] c) rest) :
    ∃ v : Value, v.Spells c.skipSpaces.rest rest := by
  obtain ⟨v, ds, es, hspace, hv, hes⟩ := spells_of_leaves h
  obtain rfl : es = rest := hes
  exact ⟨v, hv.skipSpaces hspace⟩

end Skip
end Accessors.Json
