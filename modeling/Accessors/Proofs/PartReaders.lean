import Accessors.Json.Read
import Accessors.Proofs.Skipping

/-!
Readers of the parts of lists and objects. Each one succeeds on what the grammar has at its place,
and reads it off the text.
-/

set_option autoImplicit false

namespace Accessors.Json

/-- An outcome gives a result and leaves a text to read. -/
def Gives {α : Type} {P : Cursor → Prop} (x : Except Fault (α × { d : Cursor // P d })) (a : α)
    (rest : List Char) : Prop :=
  ∃ d, x = .ok (a, d) ∧ d.1.rest = rest

section Gives
variable {α β : Type} {P Q : Cursor → Prop} {a : α} {rest : List Char}

theorem gives_ok {b : α} {d : { d : Cursor // P d }} :
    Gives (.ok (b, d)) a rest ↔ b = a ∧ d.1.rest = rest := by
  simp [Gives, and_assoc]

theorem gives_bind {x : Except Fault β} {f : β → Except Fault (α × { d : Cursor // P d })} :
    Gives (x >>= f) a rest ↔ ∃ b, x = .ok b ∧ Gives (f b) a rest := by
  simp only [Gives, bind_eq_ok_iff]
  grind

theorem not_gives_error {fault : Fault} :
    ¬ Gives (.error fault : Except Fault (α × { d : Cursor // P d })) a rest := by
  simp [Gives]

theorem gives_repack {x : Except Fault (α × { d : Cursor // P d })}
    (h : ∀ p : α × { d : Cursor // P d }, Q p.2.1) :
    Gives (x >>= fun p => pure (p.1, (⟨p.2.1, h p⟩ : { d : Cursor // Q d }))) a rest ↔
      Gives x a rest := by
  cases x with
  | error fault => exact iff_of_false not_gives_error not_gives_error
  | ok p =>
    obtain ⟨b, d⟩ := p
    rw [gives_ok]
    exact gives_ok

end Gives

namespace Read

variable {c : Cursor} {rest : List Char}

theorem wrongType_ne_ok {α : Type} (expected : String) (c : Cursor) (a : α) :
    wrongType expected c ≠ .ok a := by
  intro h
  unfold wrongType at h
  dsimp only at h
  split at h
  · cases h
  · repeat' split at h
    all_goals first
      | cases h
      | (obtain ⟨_, _, h⟩ := bind_eq_ok_iff.mp h; cases h)

theorem gives_read_iff {s : String} : Gives (Literal.read c) s rest ↔
    ∃ body, Literal.Means body s.toList ∧ c.rest = body ++ '"' :: rest := by
  constructor
  · rintro ⟨d, hd, rfl⟩
    exact Literal.means_of_read hd
  · rintro ⟨body, hbody, hc⟩
    obtain ⟨d, hd, hrest⟩ := Literal.read_of_means hbody hc
    rw [String.ofList_toList] at hd
    exact ⟨d, hd, hrest⟩

theorem gives_text_iff {s : String} : Gives (text c) s rest ↔
    ∃ body, Literal.Means body s.toList ∧ (Value.string body).Spells c.skipSpaces.rest rest := by
  unfold text
  dsimp only [Cursor.spaces]
  split
  · rename_i cs hcons
    refine (gives_repack _).trans (gives_read_iff.trans ?_)
    simp only [hcons, Value.spells_string_iff, List.cons.injEq, true_and]
    constructor
    · rintro ⟨body, hbody, hcs⟩
      exact ⟨body, hbody, hbody.body, hcs⟩
    · rintro ⟨body, hbody, -, hcs⟩
      exact ⟨body, hbody, hcs⟩
  · rename_i hne
    apply iff_of_false
    · rintro ⟨d, hd, -⟩
      exact wrongType_ne_ok _ _ _ hd
    · rintro ⟨body, -, hstring⟩
      exact hne _ (Value.spells_string_iff.mp hstring).2

theorem leaves_colon_iff : Leaves (colon c) rest ↔ Spaced c.rest (':' :: rest) := by
  rw [Cursor.spaced_iff rfl]
  unfold colon
  dsimp only [Cursor.spaces]
  split
  · rename_i hnil
    exact iff_of_false not_leaves_error (by simp [hnil])
  · rename_i cs hcons
    refine leaves_ok.trans ?_
    simp [hcons, Cursor.step, Cursor.Past.within]
  · rename_i hne
    exact iff_of_false not_leaves_error (hne rest)

theorem leaves_endList_iff : Leaves (endList c) rest ↔ Spaced c.rest (']' :: rest) := by
  rw [Cursor.spaced_iff rfl]
  unfold endList
  dsimp only [Cursor.spaces]
  split
  · rename_i hnil
    exact iff_of_false not_leaves_error (by simp [hnil])
  · rename_i cs hcons
    refine leaves_ok.trans ?_
    simp [hcons, Cursor.step, Cursor.Past.within]
  · rename_i cs hcons
    refine iff_of_false ?_ (by simp [hcons])
    split
    · exact not_leaves_error
    · exact not_leaves_error
  · rename_i hne _
    exact iff_of_false not_leaves_error (hne rest)

/-- The next member of an object is its end, or the name of a field. -/
theorem member_cases {first : Bool} {m : Member c} (h : member first c = .ok m) :
    (∃ d, m = .done d ∧ Spaced c.rest ('}' :: d.1.rest)) ∨
      ∃ name d key, m = .field name d ∧ Literal.Means key name.toList ∧
        Led (!first) c.rest ('"' :: (key ++ '"' :: d.1.rest)) := by
  have hspace := c.spaced_skipSpaces
  unfold member at h
  dsimp only [Cursor.spaces] at h
  split at h
  · cases h
  rename_i ch cs hcons
  rw [hcons] at hspace
  split at h
  · rename_i hclose
    subst hclose
    obtain rfl := Except.ok.inj h
    exact .inl ⟨_, rfl, hspace⟩
  split at h
  · rename_i hfirst
    subst hfirst
    split at h
    · rename_i hquote
      subst hquote
      obtain ⟨⟨name, d⟩, hread, h⟩ := bind_eq_ok_iff.mp h
      obtain rfl := Except.ok.inj h
      obtain ⟨key, hkey, hcs⟩ := gives_read_iff.mp ⟨d, hread, rfl⟩
      rw [show cs = key ++ '"' :: d.1.rest from hcs] at hspace
      exact .inr ⟨name, _, key, rfl, hkey, hspace⟩
    · cases h
  · rename_i hfirst
    obtain rfl : first = false := by simpa using hfirst
    split at h
    · rename_i hcomma
      subst hcomma
      split at h
      · cases h
      · rename_i cs' hcons'
        obtain ⟨⟨name, d⟩, hread, h⟩ := bind_eq_ok_iff.mp h
        obtain rfl := Except.ok.inj h
        obtain ⟨key, hkey, hcs⟩ := gives_read_iff.mp ⟨d, hread, rfl⟩
        have hspace' := (Cursor.spaced_iff rfl).mpr hcons'
        rw [show cs' = key ++ '"' :: d.1.rest from hcs] at hspace'
        exact .inr ⟨name, _, key, rfl, hkey, cs, hspace, hspace'⟩
      · cases h
      · cases h
    · cases h

theorem member_of_close {first : Bool} (h : Spaced c.rest ('}' :: rest)) :
    ∃ d, member first c = .ok (.done d) ∧ d.1.rest = rest := by
  rw [Cursor.spaced_iff rfl] at h
  unfold member
  dsimp only [Cursor.spaces]
  split
  · rename_i hnil
    cases hnil.symm.trans h
  · rename_i ch cs hcons
    obtain ⟨rfl, rfl⟩ := List.cons.inj (hcons.symm.trans h)
    rw [if_pos rfl]
    exact ⟨_, rfl, rfl⟩

theorem member_of_led {first : Bool} {name : String} {key : List Char}
    (hkey : Literal.Means key name.toList)
    (h : Led (!first) c.rest ('"' :: (key ++ '"' :: rest))) :
    ∃ d, member first c = .ok (.field name d) ∧ d.1.rest = rest := by
  cases first with
  | true =>
    have hcs := (Cursor.spaced_iff rfl).mp h
    unfold member
    dsimp only [Cursor.spaces]
    split
    · rename_i hnil
      cases hnil.symm.trans hcs
    · rename_i ch cs hcons
      obtain ⟨rfl, rfl⟩ := List.cons.inj (hcons.symm.trans hcs)
      obtain ⟨d, hd, hrest⟩ := gives_read_iff.mpr
        ⟨key, hkey, (rfl : (c.skipSpaces.step '"' _ hcons).1.rest = _)⟩
      rw [if_neg (by decide), if_pos rfl, if_pos rfl, hd]
      exact ⟨_, rfl, hrest⟩
  | false =>
    obtain ⟨ds, hcomma, hds⟩ := h
    have hcs := (Cursor.spaced_iff rfl).mp hcomma
    unfold member
    dsimp only [Cursor.spaces]
    split
    · rename_i hnil
      cases hnil.symm.trans hcs
    · rename_i ch cs hcons
      obtain ⟨rfl, rfl⟩ := List.cons.inj (hcons.symm.trans hcs)
      have hds := (Cursor.spaced_iff (c := (c.skipSpaces.step ',' _ hcons).1) rfl).mp hds
      rw [if_neg (by decide), if_neg (by decide), if_pos rfl]
      split
      · rename_i hnil
        cases hnil.symm.trans hds
      · rename_i cs' hcons'
        obtain ⟨-, rfl⟩ := List.cons.inj (hcons'.symm.trans hds)
        obtain ⟨d, hd, hrest⟩ := gives_read_iff.mpr ⟨key, hkey,
          (rfl : ((c.skipSpaces.step ',' _ hcons).1.skipSpaces.step '"' _ hcons').1.rest = _)⟩
        rw [hd]
        exact ⟨_, rfl, hrest⟩
      · rename_i hclose
        cases hclose.symm.trans hds
      · rename_i hne _
        exact (hne _ hds).elim

theorem element?_cases {first : Bool} {next : Option c.From} (h : element? first c = .ok next) :
    next = none ∨ ∃ d, next = some d ∧ Led (!first) c.rest d.1.rest := by
  have hspace := c.spaced_skipSpaces
  unfold element? at h
  dsimp only [Cursor.spaces] at h
  split at h
  · cases h
  rename_i ch cs hcons
  split at h
  · exact .inl (Except.ok.inj h).symm
  split at h
  · rename_i hfirst
    subst hfirst
    obtain rfl := Except.ok.inj h
    exact .inr ⟨_, rfl, hspace⟩
  · rename_i hfirst
    obtain rfl : first = false := by simpa using hfirst
    split at h
    · rename_i hcomma
      subst hcomma
      rw [hcons] at hspace
      split at h
      · cases h
      · cases h
      · obtain rfl := Except.ok.inj h
        exact .inr ⟨_, rfl, cs, hspace, (c.onto ',' cs).spaced_skipSpaces⟩
    · cases h

theorem element?_of_close {first : Bool} (h : Spaced c.rest (']' :: rest)) :
    element? first c = .ok none := by
  rw [Cursor.spaced_iff rfl] at h
  unfold element?
  dsimp only [Cursor.spaces]
  split
  · rename_i hnil
    cases hnil.symm.trans h
  · rename_i ch cs hcons
    obtain ⟨rfl, -⟩ := List.cons.inj (hcons.symm.trans h)
    rw [if_pos rfl]
    rfl

theorem element?_of_led {first : Bool} {ch : Char} {ds : List Char}
    (h : Led (!first) c.rest (ch :: ds)) (hch : Starts ch) :
    ∃ d, element? first c = .ok (some d) ∧ d.1.rest = ch :: ds := by
  cases first with
  | true =>
    have hcs := (Cursor.spaced_iff hch.space).mp h
    unfold element?
    dsimp only [Cursor.spaces]
    split
    · rename_i hnil
      cases hnil.symm.trans hcs
    · rename_i ch' cs hcons
      obtain ⟨rfl, rfl⟩ := List.cons.inj (hcons.symm.trans hcs)
      rw [if_neg hch.bracket, if_pos rfl]
      exact ⟨_, rfl, hcs⟩
  | false =>
    obtain ⟨es, hcomma, hes⟩ := h
    have hcs := (Cursor.spaced_iff rfl).mp hcomma
    unfold element?
    dsimp only [Cursor.spaces]
    split
    · rename_i hnil
      cases hnil.symm.trans hcs
    · rename_i ch' cs hcons
      obtain ⟨rfl, rfl⟩ := List.cons.inj (hcons.symm.trans hcs)
      have hes := (Cursor.spaced_iff (c := (c.skipSpaces.step ',' _ hcons).1) hch.space).mp hes
      rw [if_neg (by decide), if_neg (by decide), if_pos rfl]
      split
      · rename_i hnil
        cases hnil.symm.trans hes
      · rename_i hclose
        exact absurd (List.cons.inj (hes.symm.trans hclose)).1 hch.bracket
      · exact ⟨_, rfl, hes⟩

theorem once_eq_ok_iff {α : Type} {name : String} {old : Option α} :
    once name old c = .ok () ↔ old = none := by
  cases old <;> simp [once, objectFault]

section Members
variable {first : Bool} {name : String} {v : Value} {vs : List (List Char × Value)}

/-- A name, a colon and a value that were read are a member before those that follow. -/
theorem members_of_reads {d : c.Past} {e : d.1.Past} {es : List Char}
    (hmember : member first c = .ok (.field name d)) (hcolon : colon d.1 = .ok e)
    (hv : v.Spells e.1.skipSpaces.rest es) (hvs : Members true vs es rest) :
    ∃ key, Literal.Means key name.toList ∧ Members (!first) ((key, v) :: vs) c.rest rest := by
  obtain ⟨d', hdone, -⟩ | ⟨name', d', key, hfield, hkey, hled⟩ := member_cases hmember
  · cases hdone
  · obtain ⟨rfl, rfl⟩ := Member.field.inj hfield
    have hcolon := leaves_colon_iff.mp ⟨e, hcolon, rfl⟩
    exact ⟨key, hkey, .member hled hkey.body hcolon e.1.spaced_skipSpaces hv hvs⟩

theorem members_of_done {d : c.Past} (h : member first c = .ok (.done d)) :
    Members (!first) [] c.rest d.1.rest := by
  obtain ⟨d', hdone, hend⟩ | ⟨name', d', key, hfield, -⟩ := member_cases h
  · obtain rfl := Member.done.inj hdone
    exact .done hend
  · cases hfield

theorem done_of_members (h : Members (!first) [] c.rest rest) :
    ∃ d, member first c = .ok (.done d) ∧ d.1.rest = rest := by
  cases h with
  | done hend => exact member_of_close hend

theorem reads_of_members {key : List Char} (hkey : Literal.Means key name.toList)
    (h : Members (!first) ((key, v) :: vs) c.rest rest) :
    ∃ d e es, member first c = .ok (.field name d) ∧ colon d.1 = .ok e ∧
      v.Spells e.1.skipSpaces.rest es ∧ Members true vs es rest := by
  cases h with
  | member hled _ hcolon hspace hv hvs =>
    obtain ⟨d, hd, rfl⟩ := member_of_led hkey hled
    obtain ⟨e, he, rfl⟩ := leaves_colon_iff.mpr hcolon
    exact ⟨d, e, _, hd, he, hv.skipSpaces hspace, hvs⟩

/-- A member whose value is a text. -/
theorem members_of_text {d : c.Past} {e : d.1.Past} {s : String} {f : e.1.Past}
    (hmember : member first c = .ok (.field name d)) (hcolon : colon d.1 = .ok e)
    (htext : text e.1 = .ok (s, f)) (hvs : Members true vs f.1.rest rest) :
    ∃ key body, Literal.Means key name.toList ∧ Literal.Means body s.toList ∧
      Members (!first) ((key, .string body) :: vs) c.rest rest := by
  obtain ⟨body, hbody, hstring⟩ := gives_text_iff.mp ⟨f, htext, rfl⟩
  obtain ⟨key, hkey, hmembers⟩ := members_of_reads hmember hcolon hstring hvs
  exact ⟨key, body, hkey, hbody, hmembers⟩

theorem text_of_members {key body : List Char} {s : String}
    (hkey : Literal.Means key name.toList) (hbody : Literal.Means body s.toList)
    (h : Members (!first) ((key, .string body) :: vs) c.rest rest) :
    ∃ d e f, member first c = .ok (.field name d) ∧ colon d.1 = .ok e ∧
      text e.1 = .ok (s, f) ∧ Members true vs f.1.rest rest := by
  obtain ⟨d, e, es, hd, he, hv, hvs⟩ := reads_of_members hkey h
  obtain ⟨f, hf, rfl⟩ := gives_text_iff.mpr ⟨body, hbody, hv⟩
  exact ⟨d, e, f, hd, he, hf, hvs⟩

end Members

section Items
variable {v : Value} {vs : List Value}

theorem items_of_reads {first : Bool} {d : c.From} {es : List Char}
    (helement : element? first c = .ok (some d)) (hv : v.Spells d.1.skipSpaces.rest es)
    (hvs : Items true vs es rest) : Items (!first) (v :: vs) c.rest rest := by
  obtain hnone | ⟨d', hsome, hled⟩ := element?_cases helement
  · cases hnone
  · obtain rfl := Option.some.inj hsome
    exact .item (hled.trans d.1.spaced_skipSpaces) hv hvs

theorem reads_of_items (first : Bool) (h : Items (!first) (v :: vs) c.rest rest) :
    ∃ d es, element? first c = .ok (some d) ∧ v.Spells d.1.skipSpaces.rest es ∧
      Items true vs es rest := by
  cases h with
  | item hled hv hvs =>
    obtain ⟨ch, ds, rfl, hch⟩ := hv.exists_start
    obtain ⟨d, hd, hrest⟩ := element?_of_led hled hch
    exact ⟨d, _, hd, hv.skipSpaces (hrest ▸ .refl _), hvs⟩

end Items

/-- A field that is new has its colon and its value read before what follows. -/
theorem gives_field_iff {α β γ : Type} {name : String} {old : Option γ} {c d : Cursor}
    (read : (e : Cursor) → Except Fault (β × e.Past))
    (next : β → (f : Cursor) → Except Fault (α × f.Past))
    (h : ∀ (e : d.Past) (p : β × e.1.Past) (q : α × p.2.1.Past), q.2.1.length < c.length)
    {a : α} {rest : List Char} :
    Gives (do
      once name old d
      let e ← colon d
      let p ← read e.1
      let q ← next p.1 p.2.1
      pure (q.1, (⟨q.2.1, h e p q⟩ : c.Past))) a rest ↔
      old = none ∧
        ∃ e, colon d = .ok e ∧ ∃ p, read e.1 = .ok p ∧ Gives (next p.1 p.2.1) a rest := by
  constructor
  · intro hgives
    obtain ⟨⟨⟩, honce, hgives⟩ := gives_bind.mp hgives
    obtain ⟨e, he, hgives⟩ := gives_bind.mp hgives
    obtain ⟨p, hp, hgives⟩ := gives_bind.mp hgives
    exact ⟨once_eq_ok_iff.mp honce, e, he, p, hp, (gives_repack _).mp hgives⟩
  · rintro ⟨hold, e, he, p, hp, hgives⟩
    refine gives_bind.mpr ⟨(), once_eq_ok_iff.mpr hold, ?_⟩
    refine gives_bind.mpr ⟨e, he, gives_bind.mpr ⟨p, hp, ?_⟩⟩
    exact (gives_repack _).mpr hgives

end Read
end Accessors.Json
