import Accessors.Error

/-!
Texts with holes. A hole is written as a dollar sign and a name in braces.
-/

set_option autoImplicit false

namespace Accessors

/-- A piece of a template is text that stays as it is, or a hole to be filled. -/
inductive Piece where
  | text (content : String)
  | hole (name : String)
deriving DecidableEq

abbrev Template := List Piece

namespace Template

/-- Names of holes are written in ASCII. -/
def isNameStart (c : Char) : Bool := c.isAlpha || c == '_'

def isNamePart (c : Char) : Bool := c.isAlphanum || c == '_'

/-- The name of the hole at the start of a text, and what follows the hole. -/
def hole? : List Char → Option (String × List Char)
  | '$' :: '{' :: c :: cs =>
    if isNameStart c then
      match cs.dropWhile isNamePart with
      | '}' :: rest => some (String.ofList (c :: cs.takeWhile isNamePart), rest)
      | _ => none
    else none
  | _ => none

theorem length_of_hole? {cs rest : List Char} {name : String} (h : hole? cs = some (name, rest)) :
    rest.length < cs.length := by
  unfold hole? at h
  split at h
  · next c cs =>
    split at h
    · split at h
      · next rest' heq =>
        have hle := (List.dropWhile_suffix (l := cs) isNamePart).length_le
        simp only [heq, List.length_cons] at hle
        simp only [Option.some.injEq, Prod.mk.injEq] at h
        simp only [← h.2, List.length_cons]
        omega
      · exact nomatch h
    · exact nomatch h
  · exact nomatch h

/-- Reads a template character by character, holes first. -/
def ofChars (cs : List Char) : Template :=
  match h : hole? cs with
  | some (name, rest) =>
    have := length_of_hole? h
    .hole name :: ofChars rest
  | none =>
    match cs with
    | [] => []
    | c :: cs => .text (String.singleton c) :: ofChars cs
termination_by cs.length

def ofText (text : String) : Template := ofChars text.toList

/-- What stands in the place of a piece. Values are taken as they are and not read again. -/
def fill (values : String → Option String) : Piece → Except Error String
  | .text content => .ok content
  | .hole name =>
    match values name with
    | some value => .ok value
    | none => .error (.unfilled name)

/-- Fills all holes at once; the first hole without a value is reported. -/
def render (values : String → Option String) (template : Template) : Except Error String :=
  return String.join (← template.mapM (fill values))

end Template

end Accessors
