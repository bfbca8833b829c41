import Accessors.Json.Literal
import Accessors.Json.Number

/-!
Skipping a JSON value that does not matter. It has to be well formed all the same, and may be
nested to any depth: the brackets that are open are kept in a list.
-/

set_option autoImplicit false

namespace Accessors.Json

/-- An open bracket. -/
inductive Frame where
  | list
  | object
deriving DecidableEq

namespace Frame

def unfinished : Frame → Unfinished
  | list => .list
  | object => .object

def unended : Frame → Malformed
  | list => .unendedList
  | object => .unendedObject

def close : Frame → Char
  | list => ']'
  | object => '}'

end Frame

namespace Skip

open Cursor

/-- Skips the key of a member and its colon. -/
def key (c : Cursor) : Except Fault (From c) := do
  let ⟨d, hd⟩ := c.spaces
  match h : d.rest with
  | [] => d.faultAhead (.ended .object)
  | '"' :: cs =>
    let ⟨quote, hquote⟩ := d.step '"' cs h
    let ⟨name, hname⟩ ← Literal.skip quote
    let ⟨e, he⟩ := name.spaces
    match h : e.rest with
    | [] => e.faultAhead (.ended .object)
    | ':' :: cs =>
      let colon := e.step ':' cs h
      return ((((colon.within he).beyond hname).beyond hquote).within hd).weaken
    | _ => e.faultAhead (.malformed .missingColon)
  | _ => d.faultAhead (.malformed .keyNotString)

/-- Gets to the next value of an open bracket: past the key, if it is an object. -/
def member (frame : Frame) (c : Cursor) : Except Fault (From c) :=
  match frame with
  | .list => .ok c.here
  | .object => key c

/-- Skips a value that opens no bracket; its first character has been read. -/
def scalar (first : Char) (c : Cursor) : Option (Except Fault (From c)) :=
  if first = 'n' then some (word ['u', 'l', 'l'] c)
  else if first = 't' then some (word ['r', 'u', 'e'] c)
  else if first = 'f' then some (word ['a', 'l', 's', 'e'] c)
  else if first = '-' then some (Number.skipSigned c)
  else if Number.isDigit first then some (Number.skipDigit first c)
  else if first = '"' then some ((Literal.skip c).map Past.weaken)
  else none

mutual

/-- Skips a value inside open brackets, and what follows up to the last of them. -/
def value (stack : List Frame) (c : Cursor) : Except Fault (Past c) := do
  let ⟨d, hd⟩ := c.spaces
  match h : d.rest with
  | [] => d.faultAhead (.ended .value)
  | ch :: cs =>
    let ⟨first, hfirst⟩ := d.step ch cs h
    if ch = '[' then
      let e ← after false (.list :: stack) first
      return (e.beyond hfirst).within hd
    else if ch = '{' then
      let e ← after false (.object :: stack) first
      return (e.beyond hfirst).within hd
    else
      match scalar ch first with
      | none => d.faultAhead (.malformed .missingValue)
      | some skipped =>
        let ⟨e, he⟩ ← skipped
        let f ← after true stack e
        return ((f.within he).beyond hfirst).within hd
termination_by 2 * c.length

/-- Skips what follows a value, or an opening bracket if `full` is false, up to the last open
bracket. -/
def after (full : Bool) (stack : List Frame) (c : Cursor) : Except Fault (From c) := do
  match stack with
  | [] => return c.here
  | frame :: outer =>
    let ⟨d, hd⟩ := c.spaces
    match h : d.rest with
    | [] => d.faultAhead (.ended frame.unfinished)
    | ch :: cs =>
      let ⟨next, hnext⟩ := d.step ch cs h
      if full ∧ ch = ',' then
        let ⟨e, he⟩ ← member frame next
        let f ← value (frame :: outer) e
        return (((f.within he).beyond hnext).within hd).weaken
      else if ch = frame.close then
        let e ← after true outer next
        return ((e.beyond hnext).within hd).weaken
      else if full then d.faultAhead (.malformed frame.unended)
      else
        let ⟨e, he⟩ ← member frame d
        let f ← value (frame :: outer) e
        return ((f.within he).within hd).weaken
termination_by 2 * c.length + 1

end

end Skip

end Accessors.Json
