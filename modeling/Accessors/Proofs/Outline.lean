import Mathlib.Data.List.DropRight
import Accessors.Proofs.Emitters
import Accessors.Proofs.Naming

/-!
Reading generated code back. The outline of a text is what it declares or defines: constructors and
getters with the scopes that own them. It is read line by line from the shape of each line alone.
-/

set_option autoImplicit false

namespace Accessors.Cpp

/-- What stands before a given end. -/
def before? (back : String) (line : List Char) : Option (List Char) := line.dropSuffix? back.toList

/-- Cuts a text in two at the last separator. The separator ends in the mark, which does not stand
after it again. -/
def cutLast? (mark : Char) (separator : String) (cs : List Char) :
    Option (List Char × List Char) :=
  (before? separator (cs.rdropWhile (· != mark))).map (·, cs.rtakeWhile (· != mark))

/-- Neither of two texts ends in the other, so no text ends in both. -/
def Apart (s t : String) : Prop := ¬ s.toList <:+ t.toList ∧ ¬ t.toList <:+ s.toList

instance (s t : String) : Decidable (Apart s t) := inferInstanceAs (Decidable (_ ∧ _))

theorem before?_eq_some_iff {back : String} {line front : List Char} :
    before? back line = some front ↔ line = front ++ back.toList := by
  simp [before?, List.dropSuffix?_eq_some_iff]

theorem before?_append (front back : String) :
    before? back (front ++ back).toList = some front.toList := by
  rw [before?_eq_some_iff, String.toList_append]

theorem before?_eq_none {back tail : String} (h : Apart tail back) (front : String) :
    before? back (front ++ tail).toList = none := by
  rw [Option.eq_none_iff_forall_ne_some]
  intro rest hrest
  rw [before?_eq_some_iff, String.toList_append] at hrest
  have htail : tail.toList <:+ rest ++ back.toList := hrest ▸ List.suffix_append _ _
  have hback : back.toList <:+ rest ++ back.toList := List.suffix_append _ _
  exact (List.suffix_or_suffix_of_suffix htail hback).elim h.1 h.2

theorem cutLast?_append {mark : Char} {separator name : String} (front : String)
    (hseparator : separator.toList.getLast? = some mark) (hname : mark ∉ name.toList) :
    cutLast? mark separator (front ++ separator ++ name).toList =
      some (front.toList, name.toList) := by
  obtain ⟨start, hstart⟩ := List.getLast?_eq_some_iff.mp hseparator
  have hfree : ∀ c ∈ name.toList.reverse, (c != mark) = true := by
    intro c hc
    have hne : c ≠ mark := fun heq => hname (heq ▸ List.mem_reverse.mp hc)
    simpa using hne
  have hdrop : (front ++ separator ++ name).toList.rdropWhile (· != mark) =
      (front ++ separator).toList := by
    rw [List.rdropWhile, String.toList_append, List.reverse_append,
      List.dropWhile_append_of_pos hfree, String.toList_append, hstart]
    simp
  have htake : (front ++ separator ++ name).toList.rtakeWhile (· != mark) = name.toList := by
    rw [List.rtakeWhile, String.toList_append, List.reverse_append,
      List.takeWhile_append_of_pos hfree, String.toList_append, hstart]
    simp
  rw [cutLast?, hdrop, htake, before?_append, Option.map_some]

structure Getter where
  type : String
  owner : String
  name : String
deriving DecidableEq

inductive Entry where
  | constructor (owner type : String)
  | getter (getter : Getter)
deriving DecidableEq

namespace Entry

def constructor? : Entry → Option (String × String)
  | constructor owner type => some (owner, type)
  | getter _ => none

def getter? : Entry → Option Getter
  | constructor .. => none
  | getter g => some g

end Entry

/-- What a line of declarations says. -/
inductive HeaderLine where
  | opens (type : String)
  | closes
  | constructor (type : String)
  | getter (type name : String)

namespace HeaderLine

def opens? (line : List Char) : Option HeaderLine :=
  (((before? " \x7b" line).bind (·.dropPrefix? "class ".toList)).filter
    QualifiedName.isPart).map fun type => opens (String.ofList type)

def closes? (line : List Char) : Option HeaderLine :=
  if line = "\x7d;".toList then some closes else none

def constructor? (line : List Char) : Option HeaderLine :=
  ((before? "(const ValuePtr &root);" line).filter QualifiedName.isPart).map fun type =>
    constructor (String.ofList type)

def getter? (line : List Char) : Option HeaderLine :=
  (((before? "() const;" line).bind (cutLast? ' ' " ")).filter
    fun (_, name) => "get".toList.isPrefixOf name).map fun (type, name) =>
      getter (String.ofList type) (String.ofList name)

/-- Reads a line without the blanks around it. -/
def ofLine? (line : List Char) : Option HeaderLine :=
  (opens? line).or ((closes? line).or ((constructor? line).or (getter? line)))

section Forms
variable {front tail : String}

theorem opens?_eq_none (h : Apart tail " \x7b") : opens? (front ++ tail).toList = none := by
  rw [opens?, before?_eq_none h]
  rfl

theorem closes?_eq_none (h : Apart tail "\x7d;") : closes? (front ++ tail).toList = none := by
  rw [closes?, if_neg]
  intro heq
  rw [String.toList_append] at heq
  exact h.1 (heq ▸ List.suffix_append _ _)

theorem constructor?_eq_none (h : Apart tail "(const ValuePtr &root);") :
    constructor? (front ++ tail).toList = none := by
  rw [constructor?, before?_eq_none h]
  rfl

theorem getter?_eq_none (h : Apart tail "() const;") : getter? (front ++ tail).toList = none := by
  rw [getter?, before?_eq_none h]
  rfl

theorem ofLine?_eq_none
    (h : Apart tail " \x7b" ∧ Apart tail "\x7d;" ∧ Apart tail "(const ValuePtr &root);" ∧
      Apart tail "() const;") : ofLine? (front ++ tail).toList = none := by
  rw [ofLine?, opens?_eq_none h.1, closes?_eq_none h.2.1, constructor?_eq_none h.2.2.1,
    getter?_eq_none h.2.2.2]
  rfl

end Forms

theorem ofLine?_opens {type : String} (h : Plain type) :
    ofLine? ("class " ++ type ++ " \x7b").toList = some (opens type) := by
  have hclass : ("class " ++ type).toList.dropPrefix? "class ".toList = some type.toList := by
    rw [String.toList_append, List.dropPrefix?_eq_some_iff]
    exact ⟨_, rfl, beq_self_eq_true _⟩
  rw [ofLine?, opens?, before?_append, Option.bind_some, hclass, Option.filter_some, if_pos h.isPart,
    Option.map_some, String.ofList_toList, Option.some_or]

theorem ofLine?_constructor {type : String} (h : Plain type) :
    ofLine? (type ++ "(const ValuePtr &root);").toList = some (constructor type) := by
  rw [ofLine?, opens?_eq_none (by decide), closes?_eq_none (by decide), constructor?,
    before?_append, Option.filter_some, if_pos h.isPart, Option.map_some, String.ofList_toList]
  rfl

theorem ofLine?_getter {name : String} (type : String) (hname : ' ' ∉ name.toList)
    (hget : "get".toList <+: name.toList) :
    ofLine? (type ++ " " ++ name ++ "() const;").toList = some (getter type name) := by
  rw [ofLine?, opens?_eq_none (by decide), closes?_eq_none (by decide),
    constructor?_eq_none (by decide), getter?, before?_append, Option.bind_some,
    cutLast?_append type rfl hname, Option.filter_some, if_pos (by simpa using hget)]
  simp

end HeaderLine

/-- Declarations that are read up to some line, with the classes that are open there. -/
structure Header where
  scope : List String
  entries : List Entry

namespace Header

def read (header : Header) : HeaderLine → Header
  | .opens type => { header with scope := header.scope ++ [type] }
  | .closes => { header with scope := header.scope.dropLast }
  | .constructor type =>
    { header with
      entries := header.entries ++ [.constructor (String.intercalate "::" header.scope) type] }
  | .getter type name =>
    { header with
      entries := header.entries ++ [.getter ⟨type, String.intercalate "::" header.scope, name⟩] }

/-- Reads declarations that stand in the body of a class. -/
def ofText (className text : String) : Header :=
  ((Text.lines text.toList).filterMap fun line => HeaderLine.ofLine? (Text.trim line)).foldl read
    ⟨[className], []⟩

end Header

namespace Entry

def ofConstructorLine? (line : List Char) : Option Entry :=
  ((before? "(const ValuePtr &root) : m_root(root) \x7b" line).bind (cutLast? ':' "::")).map
    fun (owner, type) => constructor (String.ofList owner) (String.ofList type)

def ofGetterLine? (line : List Char) : Option Entry :=
  ((before? "() const \x7b" line).bind (cutLast? ' ' " ")).bind fun (type, qualified) =>
    ((cutLast? ':' "::" qualified).filter fun (_, name) => "get".toList.isPrefixOf name).map
      fun (owner, name) =>
        getter ⟨String.ofList type, String.ofList owner, String.ofList name⟩

def ofLine? (line : List Char) : Option Entry :=
  (ofConstructorLine? line).or (ofGetterLine? line)

theorem ofLine?_eq_none {tail : String}
    (h : Apart tail "(const ValuePtr &root) : m_root(root) \x7b" ∧ Apart tail "() const \x7b")
    (front : String) : ofLine? (front ++ tail).toList = none := by
  rw [ofLine?, ofConstructorLine?, before?_eq_none h.1, ofGetterLine?, before?_eq_none h.2]
  rfl

theorem ofLine?_constructor {type : String} (owner : String) (h : ':' ∉ type.toList) :
    ofLine? (owner ++ "::" ++ type ++ "(const ValuePtr &root) : m_root(root) \x7b").toList =
      some (constructor owner type) := by
  rw [ofLine?, ofConstructorLine?, before?_append, Option.bind_some, cutLast?_append owner rfl h]
  simp

theorem ofLine?_getter {owner name : String} (type : String)
    (howner : ' ' ∉ owner.toList) (hspace : ' ' ∉ name.toList) (hcolon : ':' ∉ name.toList)
    (hget : "get".toList <+: name.toList) :
    ofLine? (type ++ " " ++ (owner ++ "::" ++ name) ++ "() const \x7b").toList =
      some (getter ⟨type, owner, name⟩) := by
  have hqualified : ' ' ∉ (owner ++ "::" ++ name).toList := by simp [howner, hspace]
  rw [ofLine?, ofConstructorLine?, before?_eq_none (by decide), ofGetterLine?, before?_append,
    Option.bind_some, cutLast?_append type rfl hqualified, Option.bind_some]
  dsimp only
  rw [cutLast?_append owner rfl hcolon, Option.filter_some, if_pos (by simpa using hget)]
  simp

def ofText (text : String) : List Entry := (Text.lines text.toList).filterMap ofLine?

end Entry

/-- What a line can start with. -/
structure Leads (text : String) : Prop where
  newline_free : '\n' ∉ text.toList
  head : ∃ c ∈ text.toList.head?, Text.isBlank c = false

/-- What a line can end in. -/
structure Trails (text : String) : Prop where
  newline_free : '\n' ∉ text.toList
  last : ∃ c ∈ text.toList.getLast?, Text.isBlank c = false

instance (text : String) : Decidable (Leads text) :=
  decidable_of_iff ('\n' ∉ text.toList ∧ text.toList.head?.any (!Text.isBlank ·) = true)
    ⟨fun h => ⟨h.1, by simpa [Option.any_eq_true] using h.2⟩,
      fun h => ⟨h.1, by simpa [Option.any_eq_true] using h.2⟩⟩

instance (text : String) : Decidable (Trails text) :=
  decidable_of_iff ('\n' ∉ text.toList ∧ text.toList.getLast?.any (!Text.isBlank ·) = true)
    ⟨fun h => ⟨h.1, by simpa [Option.any_eq_true] using h.2⟩,
      fun h => ⟨h.1, by simpa [Option.any_eq_true] using h.2⟩⟩

theorem Leads.append {s t : String} (hs : Leads s) (ht : '\n' ∉ t.toList) : Leads (s ++ t) := by
  obtain ⟨hnewline, c, hc, hblank⟩ := hs
  exact ⟨by simp [hnewline, ht], c, by simp [List.head?_append, Option.mem_def.mp hc], hblank⟩

theorem Trails.append {s t : String} (ht : Trails t) (hs : '\n' ∉ s.toList) : Trails (s ++ t) := by
  obtain ⟨hnewline, c, hc, hblank⟩ := ht
  exact ⟨by simp [hnewline, hs], c, by simp [List.getLast?_append, Option.mem_def.mp hc], hblank⟩

theorem Leads.of_not_blank {text : String} (hne : text ≠ "")
    (h : ∀ c ∈ text.toList, Text.isBlank c = false) : Leads text := by
  obtain ⟨c, cs, htext⟩ := List.exists_cons_of_ne_nil (mt String.toList_eq_nil_iff.mp hne)
  exact ⟨Text.not_mem_of_isBlank rfl h, c, by simp [htext], h c (by simp [htext])⟩

theorem Trails.of_not_blank {text : String} (hne : text ≠ "")
    (h : ∀ c ∈ text.toList, Text.isBlank c = false) : Trails text := by
  have hnil := mt String.toList_eq_nil_iff.mp hne
  exact ⟨Text.not_mem_of_isBlank rfl h, text.toList.getLast hnil,
    List.getLast?_eq_some_getLast hnil, h _ (List.getLast_mem hnil)⟩

theorem Leads.of_plain {text : String} (h : Plain text) : Leads text :=
  .of_not_blank h.ne_empty h.not_blank

namespace Row

def line (unit : String) : Row → List Char
  | blank => []
  | code level content => (Writer.copies unit level ++ content).toList

def content : Row → List Char
  | blank => []
  | code _ content => content.toList

/-- A row stays on one line, and its content has no blank at either end. -/
def Tidy : Row → Prop
  | blank => True
  | code _ content => Leads content ∧ Trails content

theorem tidy_append {s t : String} (level : Nat) (hs : Leads s) (ht : Trails t) :
    (code level (s ++ t)).Tidy := ⟨hs.append ht.newline_free, ht.append hs.newline_free⟩

theorem toList_text (unit : String) (row : Row) :
    (row.text unit).toList = row.line unit ++ ['\n'] := by
  cases row <;> simp [text, line]

theorem mem_copies {unit : String} {level : Nat} {c : Char}
    (h : c ∈ (Writer.copies unit level).toList) : c ∈ unit.toList := by
  induction level with
  | zero => exact nomatch h
  | succ level ih =>
    rw [Writer.copies, String.toList_append, List.mem_append] at h
    exact h.elim id ih

theorem Tidy.line_ends {unit : String} {row : Row} (hunit : '\n' ∉ unit.toList) (h : row.Tidy) :
    '\n' ∉ row.line unit ∧ (row.line unit).getLast? ≠ some '\r' := by
  cases row with
  | blank => exact ⟨List.not_mem_nil, nofun⟩
  | code level content =>
    obtain ⟨-, hcontent, c, hc, hblank⟩ := h
    rw [line, String.toList_append, List.mem_append, List.getLast?_append, Option.mem_def.mp hc]
    refine ⟨fun hmem => hmem.elim (fun hpad => hunit (mem_copies hpad)) hcontent, ?_⟩
    rintro heq
    obtain rfl : c = '\r' := by simpa using heq
    exact absurd hblank (by decide)

theorem lines_textAll {unit : String} {rows : List Row} (hunit : '\n' ∉ unit.toList)
    (hrows : ∀ row ∈ rows, row.Tidy) :
    Text.lines (textAll unit rows).toList = rows.map (line unit) := by
  induction rows with
  | nil => rfl
  | cons row rows ih =>
    obtain ⟨hrow, hrows⟩ := List.forall_mem_cons.mp hrows
    obtain ⟨hnewline, hreturn⟩ := hrow.line_ends hunit
    rw [textAll_cons, String.toList_append, toList_text, List.append_assoc, List.singleton_append,
      Text.lines_cons _ hnewline hreturn, ih hrows, List.map_cons]

/-- A text of tidy rows is read item by item. -/
theorem filterMap_lines {α β : Type} {unit : String} {items : List α} {rows : α → List Row}
    {read : List Char → Option β} {found : α → List β} (hunit : '\n' ∉ unit.toList)
    (htidy : ∀ item ∈ items, ∀ row ∈ rows item, row.Tidy)
    (hread : ∀ item ∈ items,
      ((rows item).filterMap fun row => read (row.line unit)) = found item) :
    (Text.lines (textAll unit (items.flatMap rows)).toList).filterMap read =
      items.flatMap found := by
  rw [lines_textAll hunit (List.forall_mem_flatMap.mpr htidy), List.filterMap_map,
    List.filterMap_flatMap]
  exact List.flatMap_congr hread

theorem Tidy.trim_line {unit : String} {row : Row}
    (hunit : ∀ c ∈ unit.toList, Text.isBlank c = true) (h : row.Tidy) :
    Text.trim (row.line unit) = row.content := by
  cases row with
  | blank => rfl
  | code level content =>
    rw [line, String.toList_append]
    exact Text.trim_append (fun c hc => hunit c (mem_copies hc)) h.1.head h.2.last

end Row

end Accessors.Cpp
