import Accessors.Json.Cursor

/-!
String literals of JSON, to be read or to be skipped. Reading demands that surrogate escapes come
in pairs; skipping does not look at what an escape stands for.
-/

set_option autoImplicit false

namespace Accessors.Json

namespace Literal

/-- Escapes of a single letter. -/
def letter? : Char → Option Char
  | '"' => some '"'
  | '\\' => some '\\'
  | '/' => some '/'
  | 'b' => some '\x08'
  | 'f' => some '\x0c'
  | 'n' => some '\n'
  | 'r' => some '\r'
  | 't' => some '\t'
  | _ => none

def hexDigit? (c : Char) : Option Nat :=
  if '0' ≤ c ∧ c ≤ '9' then some (c.toNat - '0'.toNat)
  else if 'a' ≤ c ∧ c ≤ 'f' then some (c.toNat - 'a'.toNat + 10)
  else if 'A' ≤ c ∧ c ≤ 'F' then some (c.toNat - 'A'.toNat + 10)
  else none

/-- The number that four hexadecimal digits stand for. -/
def hex? (a b c d : Char) : Option Nat :=
  match hexDigit? a, hexDigit? b, hexDigit? c, hexDigit? d with
  | some a, some b, some c, some d => some (((a * 16 + b) * 16 + c) * 16 + d)
  | _, _, _, _ => none

def isLow (n : Nat) : Bool := 0xdc00 ≤ n && n ≤ 0xdfff

def isHigh (n : Nat) : Bool := 0xd800 ≤ n && n ≤ 0xdbff

def pair (high low : Nat) : Char :=
  Char.ofNat (0x10000 + (high - 0xd800) * 0x400 + (low - 0xdc00))

/-- Columns further on in the same line. -/
def shift (p : Position) (n : Nat) : Position := ⟨p.line, p.column + n⟩

/-- Four bytes that are no number in an escape, or fewer than four bytes. -/
def hexFault {α : Type} (p : Position) (cs : List Char) : Except Fault α :=
  if (String.ofList (cs.take 4)).utf8ByteSize < 4 then .error ⟨.ended .string, p.afterBytes 4 cs⟩
  else .error ⟨.malformed .invalidEscape, p.afterBytes 4 cs⟩

/-- Reads up to the closing quote; `acc` holds what was read, last character first. -/
def tail : List Char → Position → List Char → Except Fault (List Char × Cursor)
  | [], p, _ => .error ⟨.ended .string, p⟩
  | ch :: cs, p, acc =>
    if ch = '"' then .ok (acc.reverse, ⟨cs, shift p 1⟩)
    else if ch.toNat < 0x20 then .error ⟨.malformed .controlCharacter, p.ahead (ch :: cs)⟩
    else if ch ≠ '\\' then tail cs (p.after ch) (ch :: acc)
    else
      match cs with
      | [] => .error ⟨.ended .string, shift p 1⟩
      | 'u' :: a :: b :: c :: d :: cs =>
        match hex? a b c d with
        | none => hexFault (shift p 2) (a :: b :: c :: d :: cs)
        | some n =>
          if isLow n then .error ⟨.malformed .loneSurrogate, shift p 6⟩
          else if isHigh n then
            match cs with
            | '\\' :: 'u' :: a :: b :: c :: d :: cs =>
              match hex? a b c d with
              | none => hexFault (shift p 8) (a :: b :: c :: d :: cs)
              | some low =>
                if isLow low then tail cs (shift p 12) (pair n low :: acc)
                else .error ⟨.malformed .loneSurrogate, shift p 12⟩
            | '\\' :: 'u' :: cs => hexFault (shift p 8) cs
            | '\\' :: ch :: cs => .error ⟨.malformed .brokenSurrogate, (shift p 7).ahead (ch :: cs)⟩
            | ['\\'] => .error ⟨.ended .string, shift p 7⟩
            | ch :: cs => .error ⟨.malformed .brokenSurrogate, (shift p 6).ahead (ch :: cs)⟩
            | [] => .error ⟨.ended .string, shift p 6⟩
          else tail cs (shift p 6) (Char.ofNat n :: acc)
      | 'u' :: cs => hexFault (shift p 2) cs
      | e :: cs =>
        match letter? e with
        | some ch => tail cs (shift p 2) (ch :: acc)
        | none => .error ⟨.malformed .invalidEscape, (shift p 1).ahead (e :: cs)⟩

/-- Skips up to the closing quote. -/
def skipTail : List Char → Position → Except Fault Cursor
  | [], p => .error ⟨.ended .string, p⟩
  | ch :: cs, p =>
    if ch = '"' then .ok ⟨cs, shift p 1⟩
    else if ch.toNat < 0x20 then .error ⟨.malformed .controlCharacter, p⟩
    else if ch ≠ '\\' then skipTail cs (p.after ch)
    else
      match cs with
      | [] => .error ⟨.ended .string, shift p 1⟩
      | 'u' :: a :: b :: c :: d :: cs =>
        match hex? a b c d with
        | none => hexFault (shift p 2) (a :: b :: c :: d :: cs)
        | some _ => skipTail cs (shift p 6)
      | 'u' :: cs => hexFault (shift p 2) cs
      | e :: cs =>
        match letter? e with
        | some _ => skipTail cs (shift p 2)
        | none => .error ⟨.malformed .invalidEscape, (shift p 1).ahead (e :: cs)⟩

theorem hexFault_ne_ok {α : Type} (p : Position) (cs : List Char) (a : α) :
    hexFault p cs ≠ .ok a := by
  unfold hexFault
  split <;> simp

theorem length_of_tail {cs : List Char} {p : Position} {acc s : List Char} {d : Cursor}
    (h : tail cs p acc = .ok (s, d)) : d.length < cs.length := by
  fun_induction tail cs p acc <;> simp only [List.length_cons, List.length_nil] <;>
    grind [Cursor.length, hexFault_ne_ok]

theorem length_of_skipTail {cs : List Char} {p : Position} {d : Cursor}
    (h : skipTail cs p = .ok d) : d.length < cs.length := by
  fun_induction skipTail cs p <;> simp only [List.length_cons, List.length_nil] <;>
    grind [Cursor.length, hexFault_ne_ok]

/-- Reads a literal whose opening quote has been read. -/
def read (c : Cursor) : Except Fault (String × Cursor.Past c) :=
  match h : tail c.rest c.position [] with
  | .error fault => .error fault
  | .ok (s, d) => .ok (String.ofList s, ⟨d, length_of_tail h⟩)

/-- Skips a literal whose opening quote has been read. -/
def skip (c : Cursor) : Except Fault (Cursor.Past c) :=
  match h : skipTail c.rest c.position with
  | .error fault => .error fault
  | .ok d => .ok ⟨d, length_of_skipTail h⟩

end Literal

end Accessors.Json
