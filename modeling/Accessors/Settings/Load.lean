import Accessors.Json.Read
import Accessors.Json.Skip
import Accessors.Settings.Basic

/-!
Settings from a JSON text. The text is read from left to right and the first fault is reported.
A structure is written as an object, or as a list of its fields in order.
-/

set_option autoImplicit false

namespace Accessors.Settings

open Json Json.Cursor

/-- Reads the members of a binding. Fields that it does not have are skipped. -/
def bindingMembers (first : Bool) (native extract : Option String) (c : Cursor) :
    Except Fault (Binding × Past c) := do
  match ← Read.member first c with
  | .done ⟨d, hd⟩ =>
    match native, extract with
    | some native, some extract => return (⟨native, extract⟩, ⟨d, hd⟩)
    | none, _ => d.fault (.mismatch (.missingField "native"))
    | some _, none => d.fault (.mismatch (.missingField "extract"))
  | .field name ⟨d, hd⟩ =>
    if name = "native" then
      Read.once name native d
      let ⟨e, he⟩ ← Read.colon d
      let (value, ⟨f, hf⟩) ← Read.text e
      let (binding, g) ← bindingMembers false (some value) extract f
      return (binding, ((g.beyond hf).beyond he).beyond hd)
    else if name = "extract" then
      Read.once name extract d
      let ⟨e, he⟩ ← Read.colon d
      let (value, ⟨f, hf⟩) ← Read.text e
      let (binding, g) ← bindingMembers false native (some value) f
      return (binding, ((g.beyond hf).beyond he).beyond hd)
    else
      let ⟨e, he⟩ ← Read.colon d
      let ⟨f, hf⟩ ← Skip.value [] e
      let (binding, g) ← bindingMembers false native extract f
      return (binding, ((g.beyond hf).beyond he).beyond hd)
termination_by c.length

/-- A list that is too short for a binding; its end is the next character. -/
def shortBinding {α : Type} (length : Nat) (c : Cursor) : Except Fault α :=
  .error ⟨.mismatch (.wrongLength length "struct ScalarBinding with 2 elements"),
    c.skipSpaces.position.after ']'⟩

/-- Reads the two elements of a binding. -/
def bindingElements (c : Cursor) : Except Fault (Binding × Past c) := do
  let some ⟨d, hd⟩ ← Read.element? true c | shortBinding 0 c
  let (native, ⟨e, he⟩) ← Read.text d
  let some ⟨f, hf⟩ ← Read.element? false e | shortBinding 1 e
  let (extract, ⟨g, hg⟩) ← Read.text f
  let i ← Read.endList g
  return (⟨native, extract⟩, (((i.beyond hg).within hf).beyond he).within hd)

def readBinding (c : Cursor) : Except Fault (Binding × Past c) := do
  let ⟨d, hd⟩ := c.spaces
  match h : d.rest with
  | '[' :: cs =>
    let ⟨e, he⟩ := d.step '[' cs h
    let (binding, f) ← bindingElements e
    return (binding, (f.beyond he).within hd)
  | '{' :: cs =>
    let ⟨e, he⟩ := d.step '{' cs h
    let (binding, f) ← bindingMembers true none none e
    return (binding, (f.beyond he).within hd)
  | _ => Read.wrongType "struct ScalarBinding" d

/-- The table with another binding; it takes the place of an earlier one. -/
def bind (bindings : Kind → Option Binding) (kind : Kind) (binding : Binding) :
    Kind → Option Binding :=
  fun k => if k = kind then some binding else bindings k

/-- Reads the members of a table of bindings. -/
def tableMembers (first : Bool) (bindings : Kind → Option Binding) (c : Cursor) :
    Except Fault ((Kind → Option Binding) × Past c) := do
  match ← Read.member first c with
  | .done rest => return (bindings, rest)
  | .field name ⟨d, hd⟩ =>
    match Kind.ofKeyword? name with
    | none => d.fault (.mismatch (.unknownVariant name (Kind.all.map Kind.keyword)))
    | some kind =>
      let ⟨e, he⟩ ← Read.colon d
      let (binding, ⟨f, hf⟩) ← readBinding e
      let (table, g) ← tableMembers false (bind bindings kind binding) f
      return (table, ((g.beyond hf).beyond he).beyond hd)
termination_by c.length

def readTable (c : Cursor) : Except Fault ((Kind → Option Binding) × Past c) := do
  let ⟨d, hd⟩ := c.spaces
  match h : d.rest with
  | '{' :: cs =>
    let ⟨e, he⟩ := d.step '{' cs h
    let (table, f) ← tableMembers true (fun _ => none) e
    return (table, (f.beyond he).within hd)
  | _ => Read.wrongType "a map" d

/-- Settings with the standard ones where nothing is given. -/
def ofFields (indent : Option String) (bindings : Option (Kind → Option Binding)) : Settings :=
  ⟨indent.getD standard.indent, bindings.getD standard.bindings⟩

/-- Reads the members of the settings. Only two fields are known. -/
def settingsMembers (first : Bool) (indent : Option String)
    (bindings : Option (Kind → Option Binding)) (c : Cursor) :
    Except Fault (Settings × Past c) := do
  match ← Read.member first c with
  | .done rest => return (ofFields indent bindings, rest)
  | .field name ⟨d, hd⟩ =>
    if name = "indent" then
      Read.once name indent d
      let ⟨e, he⟩ ← Read.colon d
      let (value, ⟨f, hf⟩) ← Read.text e
      let (settings, g) ← settingsMembers false (some value) bindings f
      return (settings, ((g.beyond hf).beyond he).beyond hd)
    else if name = "scalars" then
      Read.once name bindings d
      let ⟨e, he⟩ ← Read.colon d
      let (value, ⟨f, hf⟩) ← readTable e
      let (settings, g) ← settingsMembers false indent (some value) f
      return (settings, ((g.beyond hf).beyond he).beyond hd)
    else Read.objectFault (.unknownField name ["indent", "scalars"]) d
termination_by c.length

/-- Reads the elements of the settings, of which any number may be left out at the end. -/
def settingsElements (c : Cursor) : Except Fault (Settings × Past c) := do
  match ← Read.element? true c with
  | none =>
    let rest ← Read.endList c
    return (standard, rest)
  | some ⟨d, hd⟩ =>
    let (indent, ⟨e, he⟩) ← Read.text d
    match ← Read.element? false e with
    | none =>
      let f ← Read.endList e
      return (ofFields (some indent) none, (f.beyond he).within hd)
    | some ⟨f, hf⟩ =>
      let (bindings, ⟨g, hg⟩) ← readTable f
      let i ← Read.endList g
      return (ofFields (some indent) (some bindings),
        (((i.beyond hg).within hf).beyond he).within hd)

def readSettings (c : Cursor) : Except Fault (Settings × Past c) := do
  let ⟨d, hd⟩ := c.spaces
  match h : d.rest with
  | '[' :: cs =>
    let ⟨e, he⟩ := d.step '[' cs h
    let (settings, f) ← settingsElements e
    return (settings, (f.beyond he).within hd)
  | '{' :: cs =>
    let ⟨e, he⟩ := d.step '{' cs h
    let (settings, f) ← settingsMembers true none none e
    return (settings, (f.beyond he).within hd)
  | _ => Read.wrongType "struct CodegenConfig" d

/-- The settings that a text gives. Nothing may follow them but spaces. -/
def load (source : String) : Except Fault Settings := do
  let (settings, ⟨d, _⟩) ← readSettings (.start source)
  let rest := d.skipSpaces
  if rest.rest.isEmpty then return settings
  else rest.faultAhead (.malformed .trailingCharacters)

end Accessors.Settings
