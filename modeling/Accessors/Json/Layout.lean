/-!
JSON text with two spaces of indentation for each level. A list without items is written `[]`.
-/

set_option autoImplicit false

namespace Accessors.Json

namespace Layout

/-- Quotes, backslashes and control characters are written as escapes. -/
def escape (c : Char) : List Char :=
  match c with
  | '"' => ['\\', '"']
  | '\\' => ['\\', '\\']
  | '\x08' => ['\\', 'b']
  | '\x0c' => ['\\', 'f']
  | '\n' => ['\\', 'n']
  | '\r' => ['\\', 'r']
  | '\t' => ['\\', 't']
  | c =>
    if c.toNat < 0x20 then
      ['\\', 'u', '0', '0', Nat.digitChar (c.toNat / 16), Nat.digitChar (c.toNat % 16)]
    else [c]

def text (s : String) : String := "\"" ++ String.ofList (s.toList.flatMap escape) ++ "\""

/-- The start of a line at a level. -/
def margin (level : Nat) : String := String.ofList (List.replicate (2 * level) ' ')

/-- Items between brackets, each on a line one level further in. -/
def block (opening closing : String) (level : Nat) (items : List String) : String :=
  opening ++ "\n" ++
    String.intercalate ",\n" (items.map fun item => margin (level + 1) ++ item) ++
    "\n" ++ margin level ++ closing

def list (level : Nat) (items : List String) : String :=
  if items.isEmpty then "[]" else block "[" "]" level items

def object (level : Nat) (fields : List (String × String)) : String :=
  block "\x7b" "\x7d" level (fields.map fun (name, value) => text name ++ ": " ++ value)

end Layout

end Accessors.Json
