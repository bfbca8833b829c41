import Accessors.Json.Literal
import Accessors.Json.Number

/-!
Reading lists and objects of JSON one member after the other, for values of a known shape.
-/

set_option autoImplicit false

namespace Accessors.Json

namespace Read

open Cursor

/-- The fault of a value that stands where `expected` should. -/
def wrongType {α : Type} (expected : String) (c : Cursor) : Except Fault α :=
  let refuse (found : Found) (position : Position) : Except Fault α :=
    .error ⟨.mismatch (.wrongType found expected), position⟩
  match h : c.rest with
  | [] => c.faultAhead (.ended .value)
  | ch :: cs => do
    let first := (c.step ch cs h).1
    if ch = 'n' then
      let d ← word ['u', 'l', 'l'] first
      refuse .null d.1.position
    else if ch = 't' then
      let d ← word ['r', 'u', 'e'] first
      refuse (.boolean true) d.1.position
    else if ch = 'f' then
      let d ← word ['a', 'l', 's', 'e'] first
      refuse (.boolean false) d.1.position
    else if ch = '-' then
      let (found, position) ← Number.read true first
      refuse found position
    else if Number.isDigit ch then
      let (found, position) ← Number.read false c
      refuse found position
    else if ch = '"' then
      let (s, d) ← Literal.read first
      refuse (.string s) d.1.position
    else if ch = '[' then refuse .sequence c.position
    else if ch = '{' then refuse .map c.position
    else c.faultAhead (.malformed .missingValue)

/-- Reads a text value. -/
def text (c : Cursor) : Except Fault (String × Past c) := do
  let ⟨d, hd⟩ := c.spaces
  match h : d.rest with
  | '"' :: cs =>
    let ⟨quote, hquote⟩ := d.step '"' cs h
    let (s, e) ← Literal.read quote
    return (s, (e.beyond hquote).within hd)
  | _ => wrongType "a string" d

/-- Gets to the next element of a list, if there is one; a comma stands between elements. -/
def element? (first : Bool) (c : Cursor) : Except Fault (Option (From c)) := do
  let ⟨d, hd⟩ := c.spaces
  match h : d.rest with
  | [] => d.faultAhead (.ended .list)
  | ch :: cs =>
    if ch = ']' then return none
    else if first then return some ⟨d, hd⟩
    else if ch = ',' then
      let ⟨comma, hcomma⟩ := d.step ch cs h
      let e := comma.spaces
      match e.1.rest with
      | [] => e.1.faultAhead (.ended .value)
      | ']' :: _ => e.1.faultAhead (.malformed .trailingComma)
      | _ => return some ((e.beyond hcomma).within hd).weaken
    else d.faultAhead (.malformed .unendedList)

/-- Reads the end of a list whose elements have all been read. -/
def endList (c : Cursor) : Except Fault (Past c) := do
  let ⟨d, hd⟩ := c.spaces
  match h : d.rest with
  | [] => d.faultAhead (.ended .list)
  | ']' :: cs =>
    return (d.step ']' cs h).within hd
  | ',' :: cs =>
    let ⟨comma, _⟩ := d.step ',' cs h
    let ⟨e, _⟩ := comma.spaces
    if e.rest.head? = some ']' then e.faultAhead (.malformed .trailingComma)
    else e.faultAhead (.malformed .trailingCharacters)
  | _ => d.faultAhead (.malformed .trailingCharacters)

/-- What comes next in an object: the name of a field, which has been read, or its end. -/
inductive Member (c : Cursor) where
  | field (name : String) (rest : Past c)
  | done (rest : Past c)

/-- Reads the next name of an object, or its end; a comma stands between members. -/
def member (first : Bool) (c : Cursor) : Except Fault (Member c) := do
  let ⟨d, hd⟩ := c.spaces
  match h : d.rest with
  | [] => d.faultAhead (.ended .object)
  | ch :: cs =>
    let ⟨e, he⟩ := d.step ch cs h
    if ch = '}' then return .done (Past.within ⟨e, he⟩ hd)
    else if first then
      if ch = '"' then
        let (name, f) ← Literal.read e
        return .field name ((f.beyond he).within hd)
      else d.faultAhead (.malformed .keyNotString)
    else if ch = ',' then
      let ⟨f, hf⟩ := e.spaces
      match h : f.rest with
      | [] => f.faultAhead (.ended .value)
      | '"' :: cs =>
        let ⟨quote, hquote⟩ := f.step '"' cs h
        let (name, g) ← Literal.read quote
        return .field name ((((g.beyond hquote).within hf).beyond he).within hd)
      | '}' :: _ => f.faultAhead (.malformed .trailingComma)
      | _ => f.faultAhead (.malformed .keyNotString)
    else d.faultAhead (.malformed .unendedObject)

/-- Reads the colon behind a name. -/
def colon (c : Cursor) : Except Fault (Past c) := do
  let ⟨d, hd⟩ := c.spaces
  match h : d.rest with
  | [] => d.faultAhead (.ended .object)
  | ':' :: cs =>
    return (d.step ':' cs h).within hd
  | _ => d.faultAhead (.malformed .missingColon)

/-- A fault of an object as a whole is placed behind the spaces that follow what has been read,
and behind the end of the object if it is next. -/
def objectFault {α : Type} (how : Mismatch) (c : Cursor) : Except Fault α :=
  let d := c.skipSpaces
  .error ⟨.mismatch how,
    if d.rest.head? = some '}' then d.position.after '}' else d.position⟩

/-- Takes a field's first value; a second one is refused. -/
def once {α : Type} (name : String) (old : Option α) (c : Cursor) : Except Fault Unit :=
  if old.isSome then objectFault (.repeatedField name) c else .ok ()

end Read

end Accessors.Json
