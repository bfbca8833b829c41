import Accessors.Proofs.Scanners
import Mathlib.Data.Nat.Init

/-!
A reader of JSON texts into values, of any depth. It reads a text as a value if and only if the
grammar says that the text writes this value. In particular a text writes one value at most.
-/

set_option autoImplicit false

namespace Accessors.Json

abbrev NoLonger (cs : List Char) := { rest : List Char // rest.length ≤ cs.length }

abbrev Shorter (cs : List Char) := { rest : List Char // rest.length < cs.length }

/-- What comes after the spaces at the front of a text. -/
def spaces (cs : List Char) : NoLonger cs :=
  ⟨cs.dropWhile Cursor.isSpace, (List.dropWhile_suffix _).length_le⟩

/-- Gets to the next part of a list or an object; after another part a comma is passed. -/
def led? (full : Bool) (cs : List Char) : Option (NoLonger cs) :=
  if full then
    match spaces cs with
    | ⟨',' :: ds, h⟩ => some ⟨(spaces ds).1, Nat.le_trans (spaces ds).2 (Nat.le_of_lt h)⟩
    | _ => none
  else some (spaces cs)

namespace Value

/-- A scalar from its text. -/
def ofToken : List Char → Value
  | ['n', 'u', 'l', 'l'] => .null
  | ['t', 'r', 'u', 'e'] => .boolean true
  | ['f', 'a', 'l', 's', 'e'] => .boolean false
  | '"' :: body => .string body.dropLast
  | text => .number text

/-- Reads a scalar that starts with a given character. -/
def scalar? (first : Char) (cs : List Char) : Option (Value × NoLonger cs) :=
  match Skip.scalar first ⟨cs, ⟨1, 0⟩⟩ with
  | some (.ok ⟨d, h⟩) => some (ofToken (first :: cs.take (cs.length - d.rest.length)), ⟨d.rest, h⟩)
  | _ => none

/-- Reads a key whose opening quote has been read, and the colon behind it. -/
def key? (cs : List Char) : Option (List Char × Shorter cs) :=
  match Literal.skip ⟨cs, ⟨1, 0⟩⟩ with
  | .ok ⟨d, h⟩ =>
    match spaces d.rest with
    | ⟨':' :: rest, h'⟩ =>
      some (cs.take (cs.length - d.rest.length - 1),
        ⟨(spaces rest).1, Nat.lt_of_le_of_lt (spaces rest).2 (Nat.lt_trans h' h)⟩)
    | _ => none
  | .error _ => none

mutual

/-- Reads the value that a text starts with. -/
def value? (cs : List Char) : Option (Value × Shorter cs) :=
  match cs with
  | [] => none
  | first :: cs =>
    if first = '[' then do
      let (items, ⟨rest, h⟩) ← items? false cs
      return (.list items, ⟨rest, Nat.lt_succ_of_lt h⟩)
    else if first = '{' then do
      let (members, ⟨rest, h⟩) ← members? false cs
      return (.object members, ⟨rest, Nat.lt_succ_of_lt h⟩)
    else do
      let (v, ⟨rest, h⟩) ← scalar? first cs
      return (v, ⟨rest, Nat.lt_succ_of_le h⟩)
termination_by 2 * cs.length

/-- Reads items up to the closing bracket. -/
def items? (full : Bool) (cs : List Char) : Option (List Value × Shorter cs) :=
  match spaces cs with
  | ⟨']' :: rest, h⟩ => some ([], ⟨rest, h⟩)
  | _ => do
    let ⟨ds, hds⟩ ← led? full cs
    let (v, ⟨es, hes⟩) ← value? ds
    let (vs, ⟨rest, hrest⟩) ← items? true es
    return (v :: vs, ⟨rest, Nat.lt_of_lt_of_le (Nat.lt_trans hrest hes) hds⟩)
termination_by 2 * cs.length + 1

/-- Reads members up to the closing bracket. -/
def members? (full : Bool) (cs : List Char) : Option (List (List Char × Value) × Shorter cs) :=
  match spaces cs with
  | ⟨'}' :: rest, h⟩ => some ([], ⟨rest, h⟩)
  | _ => do
    match ← led? full cs with
    | ⟨'"' :: ds, hds⟩ =>
      let (key, ⟨es, hes⟩) ← key? ds
      let (v, ⟨fs, hfs⟩) ← value? es
      let (vs, ⟨rest, hrest⟩) ← members? true fs
      return ((key, v) :: vs, ⟨rest, Nat.lt_trans (Nat.lt_trans hrest (Nat.lt_trans hfs hes)) hds⟩)
    | _ => none
termination_by 2 * cs.length + 1
decreasing_by
  all_goals
    rw [List.length_cons] at hds
    omega

end

/-- Reads a whole text. -/
def read? (text : List Char) : Option Value := do
  let ⟨cs, _⟩ := spaces text
  let (v, rest) ← value? cs
  if (spaces rest.1).1.isEmpty then return v else none

end Value

theorem spaced_spaces (cs : List Char) : Spaced cs (spaces cs).1 := spaced_dropWhile cs

theorem spaces_of_spaced {cs rest : List Char} (h : Spaced cs rest)
    (hrest : ∀ c, rest.head? = some c → Cursor.isSpace c = false) :
    ∃ hle, spaces cs = ⟨rest, hle⟩ := by
  have heq := h.dropWhile hrest
  exact ⟨heq ▸ (spaces cs).2, Subtype.ext heq⟩

theorem led?_of_led {full : Bool} {cs ds : List Char} {c : Char} (h : Led full cs (c :: ds))
    (hc : Cursor.isSpace c = false) : ∃ hle, led? full cs = some ⟨c :: ds, hle⟩ := by
  have hhead : ∀ c', (c :: ds).head? = some c' → Cursor.isSpace c' = false := by
    intro c' hc'
    obtain rfl := Option.some.inj hc'
    exact hc
  cases full with
  | false =>
    obtain ⟨hle, hspaces⟩ := spaces_of_spaced h hhead
    exact ⟨hle, by rw [led?, if_neg (by decide), hspaces]⟩
  | true =>
    obtain ⟨es, hcomma, hes⟩ := h
    obtain ⟨hle, hspaces⟩ := spaces_of_spaced hcomma (by simp [Cursor.isSpace])
    obtain ⟨hle', hspaces'⟩ := spaces_of_spaced hes hhead
    refine ⟨by simp at hle; omega, ?_⟩
    rw [led?, if_pos rfl, hspaces]
    simp only [hspaces']

theorem led_of_led? {full : Bool} {cs : List Char} {ds : NoLonger cs}
    (h : led? full cs = some ds) : Led full cs ds.1 := by
  unfold led? at h
  split at h
  · rename_i hfull
    split at h
    · rename_i es hle hspaces
      obtain rfl := Option.some.inj h
      have hcomma := spaced_spaces cs
      rw [hspaces] at hcomma
      subst hfull
      exact ⟨es, hcomma, spaced_spaces es⟩
    · cases h
  · rename_i hfull
    obtain rfl := Option.some.inj h
    obtain rfl : full = false := by simpa using hfull
    exact spaced_spaces cs

/-- What is not a space or the end of a list comes before an item. -/
theorem Led.not_close {full : Bool} {cs ds : List Char} {c close : Char}
    (h : Led full cs (c :: ds)) (hc : Cursor.isSpace c = false) (hclose : c ≠ close)
    (hcomma : ',' ≠ close) : ∀ rest, (spaces cs).1 ≠ close :: rest := by
  intro rest hspaces
  cases full with
  | false =>
    have heq := Spaced.dropWhile h fun c' hc' => by
      obtain rfl := Option.some.inj hc'
      exact hc
    exact hclose (List.cons.inj (heq.symm.trans hspaces)).1
  | true =>
    obtain ⟨es, hes, -⟩ := h
    have heq := hes.dropWhile (by simp [Cursor.isSpace])
    exact hcomma (List.cons.inj (heq.symm.trans hspaces)).1

namespace Value

theorem ofToken_of_number {text : List Char} (h : Number.Spelled text) :
    ofToken text = .number text := by
  obtain ⟨first, cs, rfl, hfirst⟩ := h.exists_start
  have hne {x : Char} (hx : '-' ≠ x) (hdigit : Number.isDigit x = false) : first ≠ x := by
    rcases hfirst with rfl | hfirst
    · exact hx
    · exact Number.ne_of_isDigit hfirst hdigit
  unfold ofToken
  split
  · rename_i heq
    exact absurd (List.cons.inj heq).1 (hne (by decide) rfl)
  · rename_i heq
    exact absurd (List.cons.inj heq).1 (hne (by decide) rfl)
  · rename_i heq
    exact absurd (List.cons.inj heq).1 (hne (by decide) rfl)
  · rename_i heq
    exact absurd (List.cons.inj heq).1 (hne (by decide) rfl)
  · rfl

theorem exists_token {v : Value} {cs rest : List Char} (h : Scalar v cs rest) :
    ∃ token, cs = token ++ rest ∧ ofToken token = v := by
  cases h with
  | null => exact ⟨['n', 'u', 'l', 'l'], rfl, rfl⟩
  | true => exact ⟨['t', 'r', 'u', 'e'], rfl, rfl⟩
  | false => exact ⟨['f', 'a', 'l', 's', 'e'], rfl, rfl⟩
  | @number text rest h => exact ⟨text, rfl, ofToken_of_number h⟩
  | @string body rest h =>
    refine ⟨'"' :: (body ++ ['"']), by simp, ?_⟩
    rw [ofToken, List.dropLast_concat]

/-- The text of a scalar is what was taken off the front. -/
theorem ofToken_take {v : Value} {first : Char} {cs rest : List Char}
    (h : Scalar v (first :: cs) rest) (hrest : rest.length ≤ cs.length) :
    ofToken (first :: cs.take (cs.length - rest.length)) = v := by
  obtain ⟨token, htoken, rfl⟩ := exists_token h
  cases token with
  | nil =>
    have hlength := congrArg List.length htoken
    simp at hlength
    omega
  | cons c token =>
    obtain ⟨rfl, rfl⟩ := List.cons.inj htoken
    simp

theorem scalar?_of_scalar {v : Value} {first : Char} {cs rest : List Char}
    (h : Scalar v (first :: cs) rest) (hrest : Number.Ends rest) :
    ∃ hle, scalar? first cs = some (v, ⟨rest, hle⟩) := by
  obtain ⟨d, hd, rfl⟩ := Skip.scalar_of_spelled (c := ⟨cs, ⟨1, 0⟩⟩) h hrest rfl
  refine ⟨d.2, ?_⟩
  rw [scalar?, hd]
  simp only [ofToken_take h d.2]

theorem scalar_of_scalar? {v : Value} {first : Char} {cs : List Char} {rest : NoLonger cs}
    (h : scalar? first cs = some (v, rest)) : Scalar v (first :: cs) rest.1 := by
  unfold scalar? at h
  split at h
  · rename_i d hle hd
    obtain ⟨rfl, rfl⟩ := Prod.mk.inj (Option.some.inj h)
    obtain ⟨v, hv⟩ := Skip.spelled_of_scalar hd
    rwa [ofToken_take hv hle]
  · cases h

theorem take_before_quote (body rest : List Char) :
    (body ++ '"' :: rest).take ((body ++ '"' :: rest).length - rest.length - 1) = body := by
  have hlength : (body ++ '"' :: rest).length - rest.length - 1 = body.length := by
    simp
    omega
  rw [hlength, List.take_left]

theorem key?_of_body {key cs es fs : List Char} {c : Char} (hkey : Literal.Body key)
    (hcolon : Spaced cs (':' :: es)) (hspace : Spaced es (c :: fs))
    (hc : Cursor.isSpace c = false) :
    ∃ hlt, key? (key ++ '"' :: cs) = some (key, ⟨c :: fs, hlt⟩) := by
  obtain ⟨d, hd, hrest⟩ := Literal.skip_of_body (c := ⟨key ++ '"' :: cs, ⟨1, 0⟩⟩) hkey rfl
  obtain ⟨hle, hspaces⟩ := spaces_of_spaced (hrest ▸ hcolon) (by simp [Cursor.isSpace])
  obtain ⟨hle', hspaces'⟩ := spaces_of_spaced hspace (by simp [hc])
  refine ⟨by simp [hrest] at hle hle' ⊢; omega, ?_⟩
  rw [key?, hd]
  simp only [hspaces, hspaces', hrest, take_before_quote]

theorem body_of_key? {key cs : List Char} {fs : Shorter cs} (h : key? cs = some (key, fs)) :
    ∃ ds es, cs = key ++ '"' :: ds ∧ Literal.Body key ∧ Spaced ds (':' :: es) ∧
      Spaced es fs.1 := by
  unfold key? at h
  split at h
  · rename_i d hlt hd
    obtain ⟨body, hbody, hcs⟩ := Literal.body_of_skip hd
    dsimp only at hcs
    split at h
    · rename_i es hle hspaces
      obtain ⟨rfl, rfl⟩ := Prod.mk.inj (Option.some.inj h)
      have hcolon := spaced_spaces d.rest
      rw [hspaces] at hcolon
      have htake : cs.take (cs.length - d.rest.length - 1) = body := by
        rw [hcs, take_before_quote]
      exact ⟨d.rest, es, by rwa [htake], by rwa [htake], hcolon, spaced_spaces es⟩
    · cases h
  · cases h

theorem items?_of_close {full : Bool} {cs rest : List Char} (h : Spaced cs (']' :: rest)) :
    ∃ hlt, items? full cs = some ([], ⟨rest, hlt⟩) := by
  obtain ⟨hle, hspaces⟩ := spaces_of_spaced h (by simp [Cursor.isSpace])
  refine ⟨by simp at hle; omega, ?_⟩
  rw [items?]
  split
  · rename_i hspaces'
    obtain ⟨-, rfl⟩ := List.cons.inj (Subtype.mk.inj (hspaces'.symm.trans hspaces))
    rfl
  · rename_i hne
    exact (hne _ _ hspaces).elim

theorem items?_of_item {full : Bool} {cs ds es rest : List Char} {v : Value} {vs : List Value}
    {hds : ds.length ≤ cs.length} {hes : es.length < ds.length} {hrest : rest.length < es.length}
    (hclose : ∀ rest, (spaces cs).1 ≠ ']' :: rest) (hled : led? full cs = some ⟨ds, hds⟩)
    (hv : value? ds = some (v, ⟨es, hes⟩)) (hvs : items? true es = some (vs, ⟨rest, hrest⟩)) :
    items? full cs = some (v :: vs, ⟨rest, by omega⟩) := by
  rw [items?]
  split
  · rename_i hspaces
    exact absurd (congrArg Subtype.val hspaces) (hclose _)
  · simp only [hled, hv, hvs, Option.bind_eq_bind, Option.bind_some, Option.pure_def]

theorem items_of_items? {full : Bool} {cs : List Char} {vs : List Value} {rest : Shorter cs}
    (h : items? full cs = some (vs, rest)) :
    (vs = [] ∧ Spaced cs (']' :: rest.1)) ∨
      ∃ ds v es vs', vs = v :: vs' ∧ led? full cs = some ds ∧ value? ds.1 = some (v, es) ∧
        ∃ rest', items? true es.1 = some (vs', rest') ∧ rest'.1 = rest.1 := by
  rw [items?] at h
  split at h
  · rename_i rest' hle hspaces
    obtain ⟨rfl, rfl⟩ := Prod.mk.inj (Option.some.inj h)
    have hend := spaced_spaces cs
    rw [hspaces] at hend
    exact .inl ⟨rfl, hend⟩
  · simp only [Option.bind_eq_bind, Option.bind_eq_some_iff, Option.pure_def] at h
    obtain ⟨ds, hled, ⟨v, es⟩, hv, ⟨vs', rest'⟩, hvs, h⟩ := h
    obtain ⟨rfl, rfl⟩ := Prod.mk.inj (Option.some.inj h)
    exact .inr ⟨ds, v, es, vs', rfl, hled, hv, rest', hvs, rfl⟩

theorem members?_of_close {full : Bool} {cs rest : List Char} (h : Spaced cs ('}' :: rest)) :
    ∃ hlt, members? full cs = some ([], ⟨rest, hlt⟩) := by
  obtain ⟨hle, hspaces⟩ := spaces_of_spaced h (by simp [Cursor.isSpace])
  refine ⟨by simp at hle; omega, ?_⟩
  rw [members?]
  split
  · rename_i hspaces'
    obtain ⟨-, rfl⟩ := List.cons.inj (Subtype.mk.inj (hspaces'.symm.trans hspaces))
    rfl
  · rename_i hne
    exact (hne _ _ hspaces).elim

theorem members?_of_member {full : Bool} {cs ds es fs rest key : List Char} {v : Value}
    {vs : List (List Char × Value)} {hds : ('"' :: ds).length ≤ cs.length}
    {hes : es.length < ds.length} {hfs : fs.length < es.length} {hrest : rest.length < fs.length}
    (hclose : ∀ rest, (spaces cs).1 ≠ '}' :: rest) (hled : led? full cs = some ⟨'"' :: ds, hds⟩)
    (hkey : key? ds = some (key, ⟨es, hes⟩)) (hv : value? es = some (v, ⟨fs, hfs⟩))
    (hvs : members? true fs = some (vs, ⟨rest, hrest⟩)) :
    ∃ hlt, members? full cs = some ((key, v) :: vs, ⟨rest, hlt⟩) := by
  refine ⟨by simp at hds; omega, ?_⟩
  rw [members?]
  split
  · rename_i hspaces
    exact absurd (congrArg Subtype.val hspaces) (hclose _)
  · simp only [hled, hkey, hv, hvs, Option.bind_eq_bind, Option.bind_some, Option.pure_def]

theorem members_of_members? {full : Bool} {cs : List Char} {vs : List (List Char × Value)}
    {rest : Shorter cs} (h : members? full cs = some (vs, rest)) :
    (vs = [] ∧ Spaced cs ('}' :: rest.1)) ∨
      ∃ ds hds key es v fs vs', vs = (key, v) :: vs' ∧ led? full cs = some ⟨'"' :: ds, hds⟩ ∧
        key? ds = some (key, es) ∧ value? es.1 = some (v, fs) ∧
        ∃ rest', members? true fs.1 = some (vs', rest') ∧ rest'.1 = rest.1 := by
  rw [members?] at h
  split at h
  · rename_i rest' hle hspaces
    obtain ⟨rfl, rfl⟩ := Prod.mk.inj (Option.some.inj h)
    have hend := spaced_spaces cs
    rw [hspaces] at hend
    exact .inl ⟨rfl, hend⟩
  · simp only [Option.bind_eq_bind, Option.bind_eq_some_iff, Option.pure_def] at h
    obtain ⟨ds, hled, h⟩ := h
    split at h
    · rename_i ds' hds
      simp only [Option.bind_eq_some_iff] at h
      obtain ⟨⟨key, es⟩, hkey, ⟨v, fs⟩, hv, ⟨vs', rest'⟩, hvs, h⟩ := h
      obtain ⟨rfl, rfl⟩ := Prod.mk.inj (Option.some.inj h)
      exact .inr ⟨ds', hds, key, es, v, fs, vs', rfl, hled, hkey, hv, rest', hvs, rfl⟩
    · cases h

mutual

/-- What the grammar allows is read, if no number can run on into what comes behind. -/
theorem value?_of_spells {v : Value} {cs rest : List Char} (h : v.Spells cs rest)
    (hrest : Number.Ends rest) : ∃ hlt, value? cs = some (v, ⟨rest, hlt⟩) := by
  cases h with
  | scalar h =>
    obtain ⟨c, cs, rfl, -, hbracket, hbrace⟩ := h.exists_start
    obtain ⟨hle, hscalar⟩ := scalar?_of_scalar h hrest
    rw [value?, if_neg hbracket, if_neg hbrace, hscalar]
    exact ⟨_, rfl⟩
  | list h =>
    obtain ⟨hlt, hitems⟩ := items?_of_items h
    rw [value?, if_pos rfl, hitems]
    exact ⟨_, rfl⟩
  | object h =>
    obtain ⟨hlt, hmembers⟩ := members?_of_members h
    rw [value?, if_neg (by decide), if_pos rfl, hmembers]
    exact ⟨_, rfl⟩

theorem items?_of_items {full : Bool} {vs : List Value} {cs rest : List Char}
    (h : Items full vs cs rest) : ∃ hlt, items? full cs = some (vs, ⟨rest, hlt⟩) := by
  cases h with
  | done hend => exact items?_of_close hend
  | item hled hv hvs =>
    -- What follows an item is a comma or the end of the list, which no number runs into.
    obtain ⟨hes, hvalue⟩ := value?_of_spells hv hvs.ends
    obtain ⟨hrest, hitems⟩ := items?_of_items hvs
    obtain ⟨c, ds, rfl, hc⟩ := hv.exists_start
    obtain ⟨hds, hled?⟩ := led?_of_led hled hc.space
    have hclose := hled.not_close hc.space hc.bracket (by decide)
    exact ⟨_, items?_of_item hclose hled? hvalue hitems⟩

theorem members?_of_members {full : Bool} {vs : List (List Char × Value)} {cs rest : List Char}
    (h : Members full vs cs rest) : ∃ hlt, members? full cs = some (vs, ⟨rest, hlt⟩) := by
  cases h with
  | done hend => exact members?_of_close hend
  | member hled hkey hcolon hspace hv hvs =>
    obtain ⟨hgs, hvalue⟩ := value?_of_spells hv hvs.ends
    obtain ⟨hrest, hmembers⟩ := members?_of_members hvs
    obtain ⟨c, fs, rfl, hc⟩ := hv.exists_start
    obtain ⟨hes, hkey?⟩ := key?_of_body hkey hcolon hspace hc.space
    obtain ⟨hds, hled?⟩ := led?_of_led hled rfl
    have hclose : ∀ rest, (spaces _).1 ≠ '}' :: rest :=
      hled.not_close rfl (by decide) (by decide)
    exact members?_of_member hclose hled? hkey? hvalue hmembers

end

mutual

/-- What is read is what the grammar allows. -/
theorem spells_of_value? {v : Value} {cs : List Char} {rest : Shorter cs}
    (h : value? cs = some (v, rest)) : v.Spells cs rest.1 := by
  cases cs with
  | nil => rw [value?] at h; cases h
  | cons first cs =>
    rw [value?] at h
    split at h
    · rename_i hfirst
      simp only [Option.bind_eq_bind, Option.bind_eq_some_iff, Option.pure_def] at h
      obtain ⟨⟨items, rest'⟩, hitems, h⟩ := h
      obtain ⟨rfl, rfl⟩ := Prod.mk.inj (Option.some.inj h)
      subst hfirst
      exact .list (items_spelled_of_items? hitems)
    split at h
    · rename_i hfirst
      simp only [Option.bind_eq_bind, Option.bind_eq_some_iff, Option.pure_def] at h
      obtain ⟨⟨members, rest'⟩, hmembers, h⟩ := h
      obtain ⟨rfl, rfl⟩ := Prod.mk.inj (Option.some.inj h)
      subst hfirst
      exact .object (members_spelled_of_members? hmembers)
    · simp only [Option.bind_eq_bind, Option.bind_eq_some_iff, Option.pure_def] at h
      obtain ⟨⟨v', rest'⟩, hscalar, h⟩ := h
      obtain ⟨rfl, rfl⟩ := Prod.mk.inj (Option.some.inj h)
      exact .scalar (scalar_of_scalar? hscalar)
termination_by 2 * cs.length

theorem items_spelled_of_items? {full : Bool} {cs : List Char} {vs : List Value}
    {rest : Shorter cs} (h : items? full cs = some (vs, rest)) : Items full vs cs rest.1 := by
  obtain ⟨rfl, hend⟩ | ⟨ds, v, es, vs', rfl, hled, hv, rest', hvs, hrest⟩ := items_of_items? h
  · exact .done hend
  · rw [← hrest]
    exact .item (led_of_led? hled) (spells_of_value? hv) (items_spelled_of_items? hvs)
termination_by 2 * cs.length + 1
decreasing_by all_goals grind

theorem members_spelled_of_members? {full : Bool} {cs : List Char}
    {vs : List (List Char × Value)} {rest : Shorter cs}
    (h : members? full cs = some (vs, rest)) : Members full vs cs rest.1 := by
  obtain ⟨rfl, hend⟩ | ⟨ds, hds, key, es, v, fs, vs', rfl, hled, hkey, hv, rest', hvs, hrest⟩ :=
    members_of_members? h
  · exact .done hend
  · obtain ⟨gs, hs, rfl, hbody, hcolon, hspace⟩ := body_of_key? hkey
    rw [← hrest]
    exact .member (led_of_led? hled) hbody hcolon hspace (spells_of_value? hv)
      (members_spelled_of_members? hvs)
termination_by 2 * cs.length + 1
decreasing_by all_goals grind

end

/-- A text is read as the value that it writes, and as nothing if it writes none. -/
theorem read?_eq_some_iff {text : List Char} {v : Value} : read? text = some v ↔ v.Writes text := by
  constructor
  · intro h
    simp only [read?, Option.bind_eq_bind, Option.bind_eq_some_iff] at h
    obtain ⟨⟨v', rest⟩, hv, h⟩ := h
    split at h
    · rename_i hempty
      obtain rfl := Option.some.inj h
      have hend := spaced_spaces rest.1
      rw [List.isEmpty_iff.mp hempty] at hend
      exact ⟨_, rest.1, spaced_spaces text, spells_of_value? hv, hend⟩
    · cases h
  · rintro ⟨cs, rest, hspace, hv, hend⟩
    obtain ⟨hlt, hvalue⟩ := value?_of_spells hv (hend.ends Number.ends_nil)
    obtain ⟨c, ds, rfl, hc⟩ := hv.exists_start
    obtain ⟨hle, hspaces⟩ := spaces_of_spaced hspace (by simp [hc.space])
    obtain ⟨hle', hspaces'⟩ := spaces_of_spaced hend (by simp)
    rw [read?, hspaces]
    simp [hvalue, hspaces']

theorem Writes.unique {text : List Char} {v w : Value} (hv : v.Writes text)
    (hw : w.Writes text) : v = w :=
  Option.some.inj ((read?_eq_some_iff.mpr hv).symm.trans (read?_eq_some_iff.mpr hw))

end Value
end Accessors.Json
