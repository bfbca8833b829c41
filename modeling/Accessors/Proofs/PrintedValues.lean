import Accessors.Json.Layout
import Accessors.Proofs.Scanners
import Mathlib.Data.List.Forall2

/-!
Printed texts as values. What the layout prints for a string, a list or an object is a value of the
grammar, whatever comes behind it, and a printed string stands for the string that was to be
printed.
-/

set_option autoImplicit false

namespace Accessors.Json

open Layout

namespace Literal

/-- A string as it is printed between quotes. -/
def escaped (s : String) : List Char := s.toList.flatMap escape

theorem hex?_control :
    ∀ n < 0x20, hex? '0' '0' (Nat.digitChar (n / 16)) (Nat.digitChar (n % 16)) = some n := by
  decide

theorem means_escape (c : Char) {cs s : List Char} (h : Means cs s) :
    Means (escape c ++ cs) (c :: s) := by
  unfold escape
  -- Seven characters have an escape of one letter.
  split
  · exact .letter rfl h
  · exact .letter rfl h
  · exact .letter rfl h
  · exact .letter rfl h
  · exact .letter rfl h
  · exact .letter rfl h
  · exact .letter rfl h
  · rename_i hquote hescape _ _ _ _ _
    split
    · rename_i hcontrol
      have hcode := Means.code (hex?_control _ hcontrol) (by simp [isLow]; omega)
        (by simp [isHigh]; omega) h
      rwa [Char.ofNat_toNat] at hcode
    · rename_i hcontrol
      exact .plain hquote hcontrol hescape h

theorem means_escaped (s : String) : Means (escaped s) s.toList := by
  unfold escaped
  induction s.toList with
  | nil => exact .nil
  | cons c cs ih => exact means_escape c ih

@[simp]
theorem decode?_escaped (s : String) : decode? (escaped s) = some s :=
  decode?_eq_some_iff.mpr (means_escaped s)

end Literal

/-- A text is a value, whatever comes behind it. -/
def Value.Prints (v : Value) (text : String) : Prop :=
  ∀ rest, v.Spells (text.toList ++ rest) rest

theorem Value.Prints.writes_append {v : Value} {text space : String} (h : v.Prints text)
    (hspace : ∀ c ∈ space.toList, Cursor.isSpace c = true) : v.Writes (text ++ space).toList := by
  rw [String.toList_append]
  exact ⟨_, space.toList, .refl _, h _, space.toList, hspace, by simp⟩

theorem Value.Prints.writes {v : Value} {text : String} (h : v.Prints text) :
    v.Writes text.toList := by
  have hspells := h []
  rw [List.append_nil] at hspells
  exact ⟨_, [], .refl _, hspells, .refl _⟩

def Value.text (s : String) : Value := .string (Literal.escaped s)

def Value.fields (fields : List (String × Value)) : Value :=
  .object (fields.map fun field => (Literal.escaped field.1, field.2))

namespace Layout

theorem toList_text (s : String) : (text s).toList = '"' :: (Literal.escaped s ++ ['"']) := by
  simp [text, Literal.escaped]

theorem spaced_margin (level : Nat) (rest : List Char) :
    Spaced ('\n' :: ((margin level).toList ++ rest)) rest := by
  have hmargin : ∀ c ∈ (margin level).toList, Cursor.isSpace c = true := by
    intro c hc
    rw [margin, String.toList_ofList] at hc
    rw [List.eq_of_mem_replicate hc]
    rfl
  exact .cons rfl ⟨_, hmargin, rfl⟩

theorem led_margin (full : Bool) (level : Nat) (rest : List Char) :
    Led full ((if full then [','] else []) ++ '\n' :: ((margin level).toList ++ rest)) rest := by
  cases full with
  | false => exact spaced_margin level rest
  | true => exact ⟨_, .refl _, spaced_margin level rest⟩

/-- The lines of a block after its first item. -/
def lines (level : Nat) (items : List String) : List Char :=
  items.flatMap fun item => ',' :: '\n' :: ((margin (level + 1)).toList ++ item.toList)

theorem toList_intercalate_cons (sep item : String) (items : List String) :
    (String.intercalate sep (item :: items)).toList =
      item.toList ++ items.flatMap fun item => sep.toList ++ item.toList := by
  induction items generalizing item with
  | nil => simp
  | cons next items ih => simp [String.intercalate_cons_cons, ih]

theorem toList_block (opening closing : String) (level : Nat) (item : String)
    (items : List String) :
    (block opening closing level (item :: items)).toList = opening.toList ++
      '\n' :: ((margin (level + 1)).toList ++ (item.toList ++ (lines level items ++
        '\n' :: ((margin level).toList ++ closing.toList)))) := by
  simp only [block, List.map_cons, String.toList_append, toList_intercalate_cons, lines,
    List.flatMap_map, List.append_assoc]
  simp

end Layout

namespace Value

theorem prints_text (s : String) : (Value.text s).Prints (Layout.text s) := by
  intro rest
  have hstring : Scalar (Value.text s) _ rest := .string (Literal.means_escaped s).body
  rw [toList_text, List.cons_append, List.append_assoc]
  exact .scalar hstring

theorem items_lines {vs : List Value} {items : List String} (h : List.Forall₂ Prints vs items)
    (level : Nat) (rest : List Char) :
    Items true vs (lines level items ++ '\n' :: ((margin level).toList ++ ']' :: rest)) rest := by
  induction h with
  | nil => exact .done (spaced_margin level _)
  | @cons v item vs items hv _ ih =>
    have hitem := Items.item (led_margin true (level + 1) _) (hv _) ih
    simpa [lines] using hitem

theorem prints_list (level : Nat) {vs : List Value} {items : List String}
    (h : List.Forall₂ Prints vs items) : Prints (.list vs) (Layout.list level items) := by
  intro rest
  cases h with
  | nil =>
    have hclose : Spells (.list []) _ rest := .list (.done (.refl _))
    simpa [Layout.list] using hclose
  | @cons v item vs items hv hvs =>
    have hitem := Items.item (led_margin false (level + 1) _) (hv _) (items_lines hvs level rest)
    simpa [Layout.list, toList_block] using Spells.list hitem

/-- A printed field with its name before it. -/
def fieldText (printed : String × String) : String :=
  Layout.text printed.1 ++ ": " ++ printed.2

/-- A field with its printed text: the names are the same, and the text is the value. -/
def PrintsField (field : String × Value) (printed : String × String) : Prop :=
  field.1 = printed.1 ∧ field.2.Prints printed.2

theorem members_cons {field : String × Value} {printed : String × String}
    (h : PrintsField field printed) {full : Bool} {vs : List (List Char × Value)}
    {cs ds rest : List Char} (hvs : Members true vs ds rest)
    (hled : Led full cs ((fieldText printed).toList ++ ds)) :
    Members full ((Literal.escaped field.1, field.2) :: vs) cs rest := by
  obtain ⟨hname, hvalue⟩ := h
  have hkey : Led full cs
      ('"' :: (Literal.escaped field.1 ++ '"' :: ':' :: ' ' :: (printed.2.toList ++ ds))) := by
    simpa [fieldText, toList_text, hname] using hled
  exact .member hkey (Literal.means_escaped field.1).body (.refl _) (.cons rfl (.refl _))
    (hvalue ds) hvs

theorem members_lines {fields : List (String × Value)} {printed : List (String × String)}
    (h : List.Forall₂ PrintsField fields printed) (level : Nat) (rest : List Char) :
    Members true (fields.map fun field => (Literal.escaped field.1, field.2))
      (lines level (printed.map fieldText) ++ '\n' :: ((margin level).toList ++ '}' :: rest))
      rest := by
  induction h with
  | nil => exact .done (spaced_margin level _)
  | cons hfield _ ih =>
    have hmember := members_cons hfield ih (led_margin true (level + 1) _)
    simpa [lines] using hmember

theorem object_eq (level : Nat) (printed : List (String × String)) :
    Layout.object level printed = block "\x7b" "\x7d" level (printed.map fieldText) := rfl

theorem prints_object (level : Nat) {fields : List (String × Value)}
    {printed : List (String × String)} (h : List.Forall₂ PrintsField fields printed) :
    Prints (.fields fields) (Layout.object level printed) := by
  intro rest
  rw [object_eq]
  cases h with
  | nil =>
    have hclose : Members false [] ('\n' :: '\n' :: ((margin level).toList ++ '}' :: rest)) rest :=
      .done (.cons rfl (spaced_margin level _))
    simpa [Value.fields, block] using Spells.object hclose
  | cons hfield hfields =>
    have hmember := members_cons hfield (members_lines hfields level rest)
      (led_margin false (level + 1) _)
    simpa [Value.fields, toList_block] using Spells.object hmember

end Value
end Accessors.Json
