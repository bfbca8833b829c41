import Accessors.Json.Skip

/-!
The grammar of JSON. Each relation says what is read off the front of a text and what is left of it,
so that parts that follow each other are put together by what lies between them. Nothing is said
here about how a text is read.
-/

set_option autoImplicit false

namespace Accessors.Json

/-- A value as it is written, less the spaces between its parts. Numbers keep their spelling, and so
do strings, without the quotes around them. -/
inductive Value where
  | null
  | boolean (b : Bool)
  | number (text : List Char)
  | string (body : List Char)
  | list (items : List Value)
  | object (members : List (List Char × Value))

/-- Spaces are passed over. -/
def Spaced (cs rest : List Char) : Prop :=
  ∃ space : List Char, (∀ c ∈ space, Cursor.isSpace c = true) ∧ cs = space ++ rest

theorem Spaced.refl (cs : List Char) : Spaced cs cs := ⟨[], by simp, rfl⟩

theorem Spaced.cons {c : Char} {cs rest : List Char} (hc : Cursor.isSpace c = true)
    (h : Spaced cs rest) : Spaced (c :: cs) rest := by
  obtain ⟨space, hspace, rfl⟩ := h
  exact ⟨c :: space, List.forall_mem_cons.mpr ⟨hc, hspace⟩, rfl⟩

theorem Spaced.trans {cs ds rest : List Char} (h : Spaced cs ds) (h' : Spaced ds rest) :
    Spaced cs rest := by
  obtain ⟨space, hspace, rfl⟩ := h
  obtain ⟨space', hspace', rfl⟩ := h'
  exact ⟨space ++ space', List.forall_mem_append.mpr ⟨hspace, hspace'⟩, by simp⟩

namespace Literal

/-- What may stand between the quotes of a string. -/
inductive Body : List Char → Prop where
  | nil : Body []
  | plain {c : Char} {cs : List Char} (hquote : c ≠ '"') (hcontrol : ¬ c.toNat < 0x20)
      (hescape : c ≠ '\\') (hcs : Body cs) : Body (c :: cs)
  | letter {e c : Char} {cs : List Char} (he : letter? e = some c) (hcs : Body cs) :
      Body ('\\' :: e :: cs)
  | code {a b c d : Char} {n : Nat} {cs : List Char} (hn : hex? a b c d = some n)
      (hcs : Body cs) : Body ('\\' :: 'u' :: a :: b :: c :: d :: cs)

/-- What a body stands for. Surrogates come in pairs. -/
inductive Means : List Char → List Char → Prop where
  | nil : Means [] []
  | plain {c : Char} {cs s : List Char} (hquote : c ≠ '"') (hcontrol : ¬ c.toNat < 0x20)
      (hescape : c ≠ '\\') (hcs : Means cs s) : Means (c :: cs) (c :: s)
  | letter {e c : Char} {cs s : List Char} (he : letter? e = some c) (hcs : Means cs s) :
      Means ('\\' :: e :: cs) (c :: s)
  | code {a b c d : Char} {n : Nat} {cs s : List Char} (hn : hex? a b c d = some n)
      (hlow : isLow n = false) (hhigh : isHigh n = false) (hcs : Means cs s) :
      Means ('\\' :: 'u' :: a :: b :: c :: d :: cs) (Char.ofNat n :: s)
  | pair {a b c d a' b' c' d' : Char} {high low : Nat} {cs s : List Char}
      (hn : hex? a b c d = some high) (hhigh : isHigh high = true)
      (hn' : hex? a' b' c' d' = some low) (hlow : isLow low = true) (hcs : Means cs s) :
      Means ('\\' :: 'u' :: a :: b :: c :: d :: '\\' :: 'u' :: a' :: b' :: c' :: d' :: cs)
        (pair high low :: s)

theorem Means.body {body s : List Char} (h : Means body s) : Body body := by
  induction h with
  | nil => exact .nil
  | plain hquote hcontrol hescape _ ih => exact .plain hquote hcontrol hescape ih
  | letter he _ ih => exact .letter he ih
  | code hn _ _ _ ih => exact .code hn ih
  | pair hn _ hn' _ _ ih => exact .code hn (.code hn' ih)

end Literal

namespace Number

/-- At least one digit. -/
def Digits (ds : List Char) : Prop := ds ≠ [] ∧ ∀ d ∈ ds, isDigit d = true

/-- No zero stands before other digits. -/
inductive Whole : List Char → Prop where
  | zero : Whole ['0']
  | digits {d : Char} {ds : List Char} (hd : isDigit d = true) (hzero : d ≠ '0')
      (hds : ∀ d ∈ ds, isDigit d = true) : Whole (d :: ds)

inductive Fraction : List Char → Prop where
  | none : Fraction []
  | point {ds : List Char} (hds : Digits ds) : Fraction ('.' :: ds)

inductive Exponent : List Char → Prop where
  | none : Exponent []
  | plain {e : Char} {ds : List Char} (he : e = 'e' ∨ e = 'E') (hds : Digits ds) :
      Exponent (e :: ds)
  | signed {e sign : Char} {ds : List Char} (he : e = 'e' ∨ e = 'E')
      (hsign : sign = '+' ∨ sign = '-') (hds : Digits ds) : Exponent (e :: sign :: ds)

/-- A number without a sign. -/
inductive Unsigned : List Char → Prop where
  | mk {whole fraction exponent : List Char} (hwhole : Whole whole) (hfraction : Fraction fraction)
      (hexponent : Exponent exponent) : Unsigned (whole ++ (fraction ++ exponent))

inductive Spelled : List Char → Prop where
  | positive {text : List Char} (h : Unsigned text) : Spelled text
  | negative {text : List Char} (h : Unsigned text) : Spelled ('-' :: text)

/-- A text that a number before it does not run into. -/
def Ends (cs : List Char) : Prop :=
  ∀ c, cs.head? = some c → isDigit c = false ∧ c ≠ '.' ∧ c ≠ 'e' ∧ c ≠ 'E'

end Number

/-- Values without parts. -/
inductive Scalar : Value → List Char → List Char → Prop where
  | null {rest : List Char} : Scalar .null ('n' :: 'u' :: 'l' :: 'l' :: rest) rest
  | true {rest : List Char} : Scalar (.boolean true) ('t' :: 'r' :: 'u' :: 'e' :: rest) rest
  | false {rest : List Char} :
      Scalar (.boolean false) ('f' :: 'a' :: 'l' :: 's' :: 'e' :: rest) rest
  | number {text rest : List Char} (h : Number.Spelled text) :
      Scalar (.number text) (text ++ rest) rest
  | string {body rest : List Char} (h : Literal.Body body) :
      Scalar (.string body) ('"' :: (body ++ '"' :: rest)) rest

/-- What stands before a part: spaces, and a comma if it comes after another part (`full`). -/
def Led (full : Bool) (cs rest : List Char) : Prop :=
  if full then ∃ ds, Spaced cs (',' :: ds) ∧ Spaced ds rest else Spaced cs rest

mutual

/-- A value is written from the front of a text up to its rest. -/
inductive Value.Spells : Value → List Char → List Char → Prop where
  | scalar {v : Value} {cs rest : List Char} (h : Scalar v cs rest) : Value.Spells v cs rest
  | list {items : List Value} {cs rest : List Char} (h : Items false items cs rest) :
      Value.Spells (.list items) ('[' :: cs) rest
  | object {members : List (List Char × Value)} {cs rest : List Char}
      (h : Members false members cs rest) : Value.Spells (.object members) ('{' :: cs) rest

/-- Items up to the closing bracket, after another item or after the opening bracket. -/
inductive Items : Bool → List Value → List Char → List Char → Prop where
  | done {full : Bool} {cs rest : List Char} (hend : Spaced cs (']' :: rest)) :
      Items full [] cs rest
  | item {full : Bool} {v : Value} {vs : List Value} {cs ds es rest : List Char}
      (hled : Led full cs ds) (hv : Value.Spells v ds es) (hvs : Items true vs es rest) :
      Items full (v :: vs) cs rest

/-- Members up to the closing bracket. The key of a member is a string. -/
inductive Members : Bool → List (List Char × Value) → List Char → List Char → Prop where
  | done {full : Bool} {cs rest : List Char} (hend : Spaced cs ('}' :: rest)) :
      Members full [] cs rest
  | member {full : Bool} {key : List Char} {v : Value} {vs : List (List Char × Value)}
      {cs ds es fs gs rest : List Char} (hled : Led full cs ('"' :: (key ++ '"' :: ds)))
      (hkey : Literal.Body key) (hcolon : Spaced ds (':' :: es)) (hspace : Spaced es fs)
      (hv : Value.Spells v fs gs) (hvs : Members true vs gs rest) :
      Members full ((key, v) :: vs) cs rest

end

theorem Value.spells_string_iff {body cs rest : List Char} :
    (Value.string body).Spells cs rest ↔ Literal.Body body ∧ cs = '"' :: (body ++ '"' :: rest) := by
  constructor
  · intro h
    cases h with
    | scalar h =>
      cases h with
      | string hbody => exact ⟨hbody, rfl⟩
  · rintro ⟨hbody, rfl⟩
    exact .scalar (.string hbody)

theorem Value.spells_list_iff {items : List Value} {cs rest : List Char} :
    (Value.list items).Spells cs rest ↔ ∃ ds, cs = '[' :: ds ∧ Items false items ds rest := by
  constructor
  · intro h
    cases h with
    | scalar h => cases h
    | list h => exact ⟨_, rfl, h⟩
  · rintro ⟨ds, rfl, h⟩
    exact .list h

theorem Value.spells_object_iff {members : List (List Char × Value)}
    {cs rest : List Char} :
    (Value.object members).Spells cs rest ↔
      ∃ ds, cs = '{' :: ds ∧ Members false members ds rest := by
  constructor
  · intro h
    cases h with
    | scalar h => cases h
    | object h => exact ⟨_, rfl, h⟩
  · rintro ⟨ds, rfl, h⟩
    exact .object h

theorem items_nil_iff {full : Bool} {cs rest : List Char} :
    Items full [] cs rest ↔ Spaced cs (']' :: rest) := by
  constructor
  · intro h
    cases h with
    | done hend => exact hend
  · exact .done

/-- What a value can start with: no space and none of the marks between values. -/
structure Starts (c : Char) : Prop where
  space : Cursor.isSpace c = false
  comma : c ≠ ','
  bracket : c ≠ ']'
  brace : c ≠ '}'

instance (c : Char) : Decidable (Starts c) :=
  decidable_of_iff (Cursor.isSpace c = false ∧ c ≠ ',' ∧ c ≠ ']' ∧ c ≠ '}')
    ⟨fun h => ⟨h.1, h.2.1, h.2.2.1, h.2.2.2⟩, fun h => ⟨h.1, h.2, h.3, h.4⟩⟩

theorem Number.ne_of_isDigit {c x : Char} (h : isDigit c = true) (hx : isDigit x = false) :
    c ≠ x := by
  rintro rfl
  rw [h] at hx
  cases hx

theorem Number.isSpace_of_isDigit {c : Char} (h : isDigit c = true) :
    Cursor.isSpace c = false := by
  have hne {x : Char} := ne_of_isDigit (x := x) h
  simp [Cursor.isSpace, hne (x := ' ') rfl, hne (x := '\n') rfl, hne (x := '\t') rfl,
    hne (x := '\r') rfl]

theorem Number.Unsigned.exists_digit {text : List Char} (h : Unsigned text) :
    ∃ first cs, text = first :: cs ∧ isDigit first = true := by
  cases h with
  | mk hwhole _ _ =>
    cases hwhole with
    | zero => exact ⟨_, _, rfl, rfl⟩
    | digits hd _ _ => exact ⟨_, _, rfl, hd⟩

theorem Number.Spelled.exists_start {text : List Char} (h : Spelled text) :
    ∃ first cs, text = first :: cs ∧ (first = '-' ∨ isDigit first = true) := by
  cases h with
  | positive h =>
    obtain ⟨first, cs, rfl, hfirst⟩ := h.exists_digit
    exact ⟨first, cs, rfl, .inr hfirst⟩
  | negative _ => exact ⟨_, _, rfl, .inl rfl⟩

/-- A scalar does not start with a bracket. -/
theorem Scalar.exists_start {v : Value} {cs rest : List Char} (h : Scalar v cs rest) :
    ∃ c ds, cs = c :: ds ∧ Starts c ∧ c ≠ '[' ∧ c ≠ '{' := by
  cases h with
  | null => exact ⟨_, _, rfl, by decide⟩
  | true => exact ⟨_, _, rfl, by decide⟩
  | false => exact ⟨_, _, rfl, by decide⟩
  | number h =>
    obtain ⟨first, cs, rfl, hfirst⟩ := h.exists_start
    refine ⟨first, _, rfl, ?_⟩
    rcases hfirst with rfl | hfirst
    · decide
    · have hne {x : Char} := Number.ne_of_isDigit (x := x) hfirst
      exact ⟨⟨Number.isSpace_of_isDigit hfirst, hne rfl, hne rfl, hne rfl⟩, hne rfl, hne rfl⟩
  | string _ => exact ⟨_, _, rfl, by decide⟩

theorem Value.Spells.exists_start {v : Value} {cs rest : List Char} (h : v.Spells cs rest) :
    ∃ c ds, cs = c :: ds ∧ Starts c := by
  cases h with
  | scalar h =>
    obtain ⟨c, ds, hcs, hc, -⟩ := h.exists_start
    exact ⟨c, ds, hcs, hc⟩
  | list _ => exact ⟨_, _, rfl, by decide⟩
  | object _ => exact ⟨_, _, rfl, by decide⟩

theorem Spaced.ends {cs rest : List Char} (h : Spaced cs rest) (hrest : Number.Ends rest) :
    Number.Ends cs := by
  obtain ⟨space, hspace, rfl⟩ := h
  cases space with
  | nil => exact hrest
  | cons c space =>
    intro c' hc'
    obtain rfl := Option.some.inj hc'
    have hc := hspace c List.mem_cons_self
    simp only [Cursor.isSpace, Bool.or_eq_true, beq_iff_eq] at hc
    rcases hc with ((rfl | rfl) | rfl) | rfl <;> decide

theorem Number.ends_nil : Ends [] := by
  intro c hc
  cases hc

/-- A number does not run into a mark. -/
theorem Number.ends_mark {mark : Char} {rest : List Char}
    (h : mark = ',' ∨ mark = ']' ∨ mark = '}') : Ends (mark :: rest) := by
  intro c hc
  obtain rfl := Option.some.inj hc
  rcases h with rfl | rfl | rfl <;> decide

theorem Led.trans {full : Bool} {cs ds rest : List Char} (h : Led full cs ds)
    (hds : Spaced ds rest) : Led full cs rest := by
  cases full with
  | true =>
    obtain ⟨es, hcomma, hes⟩ := h
    exact ⟨es, hcomma, hes.trans hds⟩
  | false => exact Spaced.trans h hds

theorem Led.ends {cs rest : List Char} (h : Led true cs rest) : Number.Ends cs := by
  obtain ⟨ds, hcomma, -⟩ := h
  exact hcomma.ends (Number.ends_mark (.inl rfl))

theorem Items.ends {vs : List Value} {cs rest : List Char} (h : Items true vs cs rest) :
    Number.Ends cs := by
  cases h with
  | done hend => exact hend.ends (Number.ends_mark (.inr (.inl rfl)))
  | item hled _ _ => exact hled.ends

theorem Members.ends {vs : List (List Char × Value)} {cs rest : List Char}
    (h : Members true vs cs rest) : Number.Ends cs := by
  cases h with
  | done hend => exact hend.ends (Number.ends_mark (.inr (.inr rfl)))
  | member hled _ _ _ _ _ => exact hled.ends

/-- A text is a value with spaces around it. -/
def Value.Writes (v : Value) (text : List Char) : Prop :=
  ∃ cs rest, Spaced text cs ∧ v.Spells cs rest ∧ Spaced rest []

end Accessors.Json
