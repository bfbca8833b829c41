import Accessors.Proofs.Substitution
import Accessors.Template.Boilerplate

/-!
The generated texts stand in the two files as they are. Both templates are what is read from their
texts. Each has one hole for the generated text; what is written before and after it depends on the
name of the output class and on the base name of the header, and on nothing else.
-/

set_option autoImplicit false

namespace Accessors

namespace Template

def pieceText : Piece → String
  | .text content => content
  | .hole name => "$\x7b" ++ name ++ "\x7d"

/-- A template as it is written. -/
def text (template : Template) : String := String.join (template.map pieceText)

/-- Pieces that are read as they were meant: text without a dollar sign, and holes with a name. -/
def Legible : Piece → Prop
  | .text content => '$' ∉ content.toList
  | .hole name => IsName name.toList

theorem ofChars_of_hole {cs rest : List Char} {name : String} (h : hole? cs = some (name, rest)) :
    ofChars cs = .hole name :: ofChars rest := by
  fun_cases ofChars cs with
  | case1 _ other others hread =>
    rw [h] at hread
    obtain ⟨rfl, rfl⟩ := Prod.mk.inj (Option.some.inj hread)
    rfl
  | case2 hread => exact nomatch h.symm.trans hread
  | case3 c cs hread => exact nomatch h.symm.trans hread

theorem ofChars_of_no_hole {c : Char} {cs : List Char} (h : hole? (c :: cs) = none) :
    ofChars (c :: cs) = .text (String.singleton c) :: ofChars cs := by
  generalize hcs : c :: cs = text at h
  fun_cases ofChars text with
  | case1 _ name rest hread => exact nomatch h.symm.trans hread
  | case2 hread => exact nomatch hcs
  | case3 d ds hread =>
    obtain ⟨rfl, rfl⟩ := List.cons.inj hcs
    rfl

theorem hole?_of_ne_dollar {c : Char} (h : c ≠ '$') (cs : List Char) : hole? (c :: cs) = none := by
  cases hread : hole? (c :: cs) with
  | none => rfl
  | some result =>
    obtain ⟨-, hwritten⟩ := hole?_eq_some_iff.mp hread
    exact absurd (List.cons.inj hwritten).1 h

section Reading
variable (values : String → Option String)

theorem render_ofChars_append {front : List Char} (h : '$' ∉ front) (cs : List Char) :
    render values (ofChars (front ++ cs)) =
      (String.ofList front ++ ·) <$> render values (ofChars cs) := by
  induction front with
  | nil => simp
  | cons c front ih =>
    rw [List.mem_cons, not_or] at h
    obtain ⟨hc, hfront⟩ := h
    rw [List.cons_append, ofChars_of_no_hole (hole?_of_ne_dollar (Ne.symm hc) _), render_cons, fill,
      ok_bind, ih hfront]
    cases render values (ofChars cs) <;> simp [String.append_assoc]

/-- A template can be read from its own text. The text between two holes is read in other pieces, and
the values cannot tell. -/
theorem render_ofText_text {template : Template} (h : ∀ piece ∈ template, Legible piece) :
    render values (ofText template.text) = render values template := by
  induction template with
  | nil => simp [ofText, text, ofChars, hole?]
  | cons piece template ih =>
    obtain ⟨hpiece, hrest⟩ := List.forall_mem_cons.mp h
    have htext : (text (piece :: template)).toList =
        (pieceText piece).toList ++ (text template).toList := by simp [text]
    rw [render_cons, ← ih hrest, ofText, htext, ofText]
    cases piece with
    | text content =>
      rw [pieceText, render_ofChars_append values hpiece, String.ofList_toList, fill, ok_bind]
    | hole name =>
      have hwritten : (pieceText (.hole name)).toList = written name := by
        simp [pieceText, written]
      rw [hwritten, ofChars_of_hole (hole?_written hpiece _), render_cons]

end Reading

def headerText : String :=
  "\n#pragma once\n\n#include <iostream>\n#include <memory>\n#include <string>\n\n" ++
  "namespace Json \x7b\nclass Value;\n\x7d\n\n$\x7bNAMESPACE_BEGIN\x7d\n/**\n" ++
  " * A class providing native access to JSON data.\n */\nclass $\x7bCLASS\x7d \x7b\n" ++
  "public:\n\ttypedef std::shared_ptr<::Json::Value> ValuePtr;\n\n\t/**\n" ++
  "\t * A constructor.\n\t */\n\t$\x7bCLASS\x7d();\n\n\t/**\n" ++
  "\t * Construct the accessor from a stream holding a JSON document.\n\t */\n" ++
  "\t$\x7bCLASS\x7d(std::istream &is);\n\n\t/**\n\t * A destructor.\n\t */\n" ++
  "\t~$\x7bCLASS\x7d();\n\n\t/**\n\t * Read a JSON document from a stream.\n\t */\n" ++
  "\tvoid read(std::istream &is);\n\n\t// generated accessors\n$\x7bGENERATED\x7d\n" ++
  "private:\n\tValuePtr m_root;\n\x7d;\n\n$\x7bNAMESPACE_END\x7d\n"

def sourceText : String :=
  "\n#include \"$\x7bINCLUDE\x7d.h\"\n\n#include <memory>\n\n#include <json/reader.h>\n" ++
  "#include <json/value.h>\n\n$\x7bNAMESPACE_BEGIN\x7d\n" ++
  "$\x7bCLASS\x7d::$\x7bCLASS\x7d() \x7b\n\n\x7d\n\n" ++
  "$\x7bCLASS\x7d::$\x7bCLASS\x7d(std::istream& is) \x7b\n\tread(is);\n\x7d\n\n" ++
  "$\x7bCLASS\x7d::~$\x7bCLASS\x7d() \x7b\n\n\x7d\n\n" ++
  "void $\x7bCLASS\x7d::read(std::istream &is) \x7b\n\t::Json::CharReaderBuilder builder;\n" ++
  "\t::Json::Value root;\n\tstd::string errs;\n" ++
  "\t::Json::parseFromStream(builder, is, &root, &errs);\n" ++
  "\tm_root = std::make_shared< ::Json::Value >(root);\n\x7d\n\n// generated accessors\n" ++
  "$\x7bGENERATED\x7d\n$\x7bNAMESPACE_END\x7d\n"

-- A literal unfolds to a list of characters, so that it need not be decoded.
theorem dollar_free {cs : List Char} (h : '$' ∉ cs) : '$' ∉ (String.ofList cs).toList := by
  rwa [String.toList_ofList]

theorem isName_of_hole? {name : String} (h : hole? (written name) = some (name, [])) :
    IsName name.toList := by
  obtain ⟨hname, -⟩ := hole?_eq_some_iff.mp h
  exact hname

theorem legible_pieces : ∀ template ∈ [header, source], ∀ piece ∈ template, Legible piece := by
  simp only [header, source, List.forall_mem_cons, List.not_mem_nil, false_implies, implies_true,
    and_true, Legible, String.toList_append, List.mem_append, not_or, and_assoc]
  repeat' apply And.intro
  any_goals exact dollar_free (by decide)
  all_goals exact isName_of_hole? (by decide)

theorem render_ofText_headerText (values : String → Option String) :
    (ofText headerText).render values = header.render values := by
  have htext : header.text = headerText := by decide +kernel
  rw [← htext]
  exact render_ofText_text values (legible_pieces header List.mem_cons_self)

theorem render_ofText_sourceText (values : String → Option String) :
    (ofText sourceText).render values = source.render values := by
  have htext : source.text = sourceText := by decide +kernel
  rw [← htext]
  exact render_ofText_text values (legible_pieces source (by simp))

def holes (template : Template) : List String :=
  template.filterMap fun
    | .hole name => some name
    | .text _ => none

theorem mem_holes {template : Template} {hole : String} :
    hole ∈ template.holes ↔ .hole hole ∈ template := by
  rw [holes, List.mem_filterMap]
  constructor
  · rintro ⟨piece, hpiece, heq⟩
    cases piece with
    | text content => exact nomatch heq
    | hole other =>
      obtain rfl := Option.some.inj heq
      exact hpiece
  · exact fun h => ⟨.hole hole, h, rfl⟩

/-- The holes that are filled in the same way for every schema. -/
def fixedHoles : List String :=
  [Hole.className, Hole.includeBase, Hole.namespaceBegin, Hole.namespaceEnd]

def front (template : Template) : Template := template.takeWhile (· != .hole Hole.generated)

def back (template : Template) : Template :=
  (template.dropWhile (· != .hole Hole.generated)).tail

def filled (name : QualifiedName) (includeBase : String) : Piece → String
  | .text content => content
  | .hole hole => (values name includeBase "" hole).getD ""

def filledAll (name : QualifiedName) (includeBase : String) (template : Template) : String :=
  String.join (template.map (filled name includeBase))

section Filling
variable (name : QualifiedName) (includeBase generated : String)

theorem fill_fixed {hole : String} (h : hole ∈ fixedHoles) :
    fill (values name includeBase generated) (.hole hole) =
      .ok (filled name includeBase (.hole hole)) := by
  simp only [fixedHoles, List.mem_cons, List.not_mem_nil, or_false] at h
  rcases h with rfl | rfl | rfl | rfl <;> rfl

theorem mapM_fill_fixed {template : Template} (h : ∀ hole ∈ template.holes, hole ∈ fixedHoles) :
    template.mapM (fill (values name includeBase generated)) =
      .ok (template.map (filled name includeBase)) := by
  induction template with
  | nil => rfl
  | cons piece template ih =>
    have hrest : ∀ hole ∈ holes template, hole ∈ fixedHoles :=
      fun hole hhole => h hole (mem_holes.mpr (List.mem_cons_of_mem piece (mem_holes.mp hhole)))
    have hpiece : fill (values name includeBase generated) piece =
        .ok (filled name includeBase piece) := by
      cases piece with
      | text content => rfl
      | hole hole =>
        have hmem : hole ∈ holes (.hole hole :: template) := mem_holes.mpr List.mem_cons_self
        exact fill_fixed name includeBase generated (h hole hmem)
    rw [List.mapM_cons, hpiece, ih hrest]
    rfl

/-- Both templates have one hole for the generated text. -/
theorem eq_front_back :
    ∀ template ∈ [header, source],
      template = template.front ++ .hole Hole.generated :: template.back ∧
      ∀ hole ∈ template.front.holes ++ template.back.holes, hole ∈ fixedHoles := by
  simp only [List.forall_mem_cons, List.not_mem_nil, false_implies, implies_true, and_true]
  exact ⟨⟨rfl, by decide⟩, ⟨rfl, by decide⟩⟩

/-- The generated text is not read again. -/
theorem render_wrapped : ∀ template ∈ [header, source],
    template.render (values name includeBase generated) =
      .ok (filledAll name includeBase template.front ++ generated ++
        filledAll name includeBase template.back) := by
  intro template htemplate
  obtain ⟨hsplit, hfixed⟩ := eq_front_back template htemplate
  obtain ⟨hfront, hback⟩ := List.forall_mem_append.mp hfixed
  have hgenerated : fill (values name includeBase generated) (.hole Hole.generated) =
      .ok generated := rfl
  have hmapM : template.mapM (fill (values name includeBase generated)) =
      .ok (template.front.map (filled name includeBase) ++
        generated :: template.back.map (filled name includeBase)) := by
    rw [congrArg (List.mapM _) hsplit, List.mapM_append, List.mapM_cons, hgenerated,
      mapM_fill_fixed _ _ _ hfront, mapM_fill_fixed _ _ _ hback]
    rfl
  simp [render, hmapM, filledAll, String.join_append, String.append_assoc]

end Filling

end Template

end Accessors
