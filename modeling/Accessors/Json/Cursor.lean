import Accessors.Json.Fault

/-!
A cursor on a JSON text: what is left to read and where that starts. A reader hands on a cursor
that has moved, and the proof that less is left lets loops over a text end.
-/

set_option autoImplicit false

namespace Accessors.Json

namespace Position

/-- The position behind a character. -/
def after (p : Position) (c : Char) : Position :=
  if c = '\n' then ⟨p.line + 1, 0⟩ else ⟨p.line, p.column + c.utf8Size⟩

/-- The position that counts one more byte of what is left. -/
def ahead (p : Position) : List Char → Position
  | [] => p
  | c :: _ => if c = '\n' then ⟨p.line + 1, 0⟩ else ⟨p.line, p.column + 1⟩

/-- The position that counts `n` more bytes of what is left, or all of it. -/
def afterBytes (p : Position) : Nat → List Char → Position
  | _, [] => p
  | n, c :: cs =>
    if c.utf8Size ≤ n then (p.after c).afterBytes (n - c.utf8Size) cs
    else ⟨p.line, p.column + n⟩

end Position

structure Cursor where
  rest : List Char
  position : Position

namespace Cursor

def start (text : String) : Cursor := ⟨text.toList, ⟨1, 0⟩⟩

def length (c : Cursor) : Nat := c.rest.length

/-- Cursors with less to read than `c`. -/
abbrev Past (c : Cursor) := { d : Cursor // d.length < c.length }

/-- Cursors with no more to read than `c`. -/
abbrev From (c : Cursor) := { d : Cursor // d.length ≤ c.length }

def here (c : Cursor) : From c := ⟨c, Nat.le_refl _⟩

section Moves
variable {c d : Cursor}

-- A move that starts from `d` becomes one that starts from `c`, if `d` was reached from there.
def Past.within (e : Past d) (h : d.length ≤ c.length) : Past c :=
  ⟨e.1, Nat.lt_of_lt_of_le e.2 h⟩

def Past.beyond (e : Past d) (h : d.length < c.length) : Past c := ⟨e.1, Nat.lt_trans e.2 h⟩

def From.within (e : From d) (h : d.length ≤ c.length) : From c := ⟨e.1, Nat.le_trans e.2 h⟩

def From.beyond (e : From d) (h : d.length < c.length) : Past c :=
  ⟨e.1, Nat.lt_of_le_of_lt e.2 h⟩

def Past.weaken (e : Past c) : From c := ⟨e.1, Nat.le_of_lt e.2⟩

end Moves

/-- A fault in what has been read. -/
def fault {α : Type} (c : Cursor) (problem : Problem) : Except Fault α :=
  .error ⟨problem, c.position⟩

/-- A fault that the next byte makes visible. -/
def faultAhead {α : Type} (c : Cursor) (problem : Problem) : Except Fault α :=
  .error ⟨problem, c.position.ahead c.rest⟩

def isSpace (c : Char) : Bool := c == ' ' || c == '\n' || c == '\t' || c == '\r'

def skipSpacesFrom : List Char → Position → Cursor
  | [], p => ⟨[], p⟩
  | c :: cs, p => if isSpace c then skipSpacesFrom cs (p.after c) else ⟨c :: cs, p⟩

def skipSpaces (c : Cursor) : Cursor := skipSpacesFrom c.rest c.position

theorem length_skipSpacesFrom (cs : List Char) (p : Position) :
    (skipSpacesFrom cs p).length ≤ cs.length := by
  induction cs generalizing p with
  | nil => simp [skipSpacesFrom, length]
  | cons c cs ih =>
    unfold skipSpacesFrom
    split
    · exact Nat.le_succ_of_le (ih _)
    · simp [length]

theorem length_skipSpaces (c : Cursor) : c.skipSpaces.length ≤ c.length :=
  length_skipSpacesFrom c.rest c.position

/-- The cursor on the next character that is no space. -/
def spaces (c : Cursor) : From c := ⟨c.skipSpaces, c.length_skipSpaces⟩

/-- Reads a character that was seen to be next. -/
def step (c : Cursor) (ch : Char) (cs : List Char) (h : c.rest = ch :: cs) : Past c :=
  ⟨⟨cs, c.position.after ch⟩, by simp [length, h]⟩

/-- Reads the letters of a word. -/
def word : List Char → (c : Cursor) → Except Fault (From c)
  | [], c => .ok c.here
  | letter :: letters, c =>
    match h : c.rest with
    | [] => c.fault (.ended .value)
    | ch :: cs => do
      if ch = letter then
        let ⟨d, hd⟩ := c.step ch cs h
        let e ← word letters d
        return (e.beyond hd).weaken
      else c.faultAhead (.malformed .unknownWord)

end Cursor

end Accessors.Json
