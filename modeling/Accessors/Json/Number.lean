import Accessors.Json.Cursor

/-!
Numbers of JSON. They are read only to say what was found in the place of something else, and
skipped inside values that do not matter. Integers of 64 bits are kept exactly; all others are
floating-point numbers: as many digits as fit into 64 bits, times or over a power of ten.
-/

set_option autoImplicit false

namespace Accessors.Json

namespace Number

def isDigit (c : Char) : Bool := '0' ≤ c && c ≤ '9'

def startsWithDigit (cs : List Char) : Bool := cs.head?.any isDigit

/-- A cursor behind `n` characters of one byte. -/
def behind (c : Cursor) (n : Nat) : Cursor :=
  ⟨c.rest.drop n, ⟨c.position.line, c.position.column + n⟩⟩

theorem length_behind (c : Cursor) (n : Nat) : (behind c n).length ≤ c.length := by
  simp [behind, Cursor.length]

def digits (c : Cursor) : List Char := c.rest.takeWhile isDigit

def skipDigits (c : Cursor) : Cursor := behind c (digits c).length

/-- Appends digits to a number while the result is at most `bound`; the digits that are left over
come with it. -/
def absorb (bound : Nat) : Nat → List Char → Nat × List Char
  | n, [] => (n, [])
  | n, d :: ds =>
    let next := n * 10 + (d.toNat - '0'.toNat)
    if next ≤ bound then absorb bound next ds else (n, d :: ds)

def maxSignificand : Nat := 18446744073709551615

def maxExponent : Nat := 2147483647

/-- The power of ten as a floating-point number, up to the largest one. -/
def power (n : Nat) : Float := Float.ofScientific 1 false n

/-- Divides by a power of ten, in steps of the largest one. -/
def scaleDown (x : Float) (n : Nat) : Float :=
  if n ≤ 308 then x / power n
  else if x == 0.0 then x
  else scaleDown (x / power 308) (n - 308)
termination_by n

/-- Multiplies by a power of ten, if the product is finite. -/
def scaleUp? (x : Float) (n : Nat) : Option Float :=
  if n ≤ 308 then
    let product := x * power n
    if product.isInf then none else some product
  else if x == 0.0 then some x
  else none

/-- The number `significand * 10 ^ exponent` with a sign. -/
def float? (negative : Bool) (significand : Nat) (exponent : Int) : Option Float :=
  let x := (UInt64.ofNat significand).toFloat
  let scaled := if 0 ≤ exponent then scaleUp? x exponent.toNat
    else some (scaleDown x (-exponent).toNat)
  scaled.map fun y => if negative then -y else y

def found (negative : Bool) (significand : Nat) (exponent : Int) (c : Cursor) :
    Except Fault (Found × Position) :=
  match float? negative significand exponent with
  | some x => .ok (.float x, c.position)
  | none => c.fault (.malformed .numberOutOfRange)

/-- Reads an exponent; the cursor stands on its mark. -/
def exponentPart (negative : Bool) (significand : Nat) (before : Int) (c : Cursor) :
    Except Fault (Found × Position) :=
  let c := behind c 1
  let down := c.rest.head? == some '-'
  let c := if down || c.rest.head? == some '+' then behind c 1 else c
  if c.rest.isEmpty then c.fault (.ended .value)
  else if !startsWithDigit c.rest then c.faultAhead (.malformed .invalidNumber)
  else
    let (exponent, excess) := absorb maxExponent 0 (digits c)
    let after := skipDigits c
    if excess.isEmpty then
      found negative significand (if down then before - exponent else before + exponent) after
    else if significand ≠ 0 ∧ !down then
      (behind c ((digits c).length - excess.length + 1)).fault (.malformed .numberOutOfRange)
    else .ok (.float (if negative then -0.0 else 0.0), after.position)

def isExponentMark (cs : List Char) : Bool := cs.head? == some 'e' || cs.head? == some 'E'

/-- Reads what follows the point; the cursor stands on it. -/
def fractionPart (negative : Bool) (significand : Nat) (before : Int) (c : Cursor) :
    Except Fault (Found × Position) :=
  let c := behind c 1
  if c.rest.isEmpty then c.fault (.ended .value)
  else if !startsWithDigit c.rest then c.faultAhead (.malformed .invalidNumber)
  else
    let (significand, excess) := absorb maxSignificand significand (digits c)
    let exponent := before - (((digits c).length - excess.length : Nat) : Int)
    let after := skipDigits c
    if isExponentMark after.rest then exponentPart negative significand exponent after
    else found negative significand exponent after

/-- Reads what follows the digits before the point, of which `excess` were left out. -/
def afterInteger (negative : Bool) (significand excess : Nat) (c : Cursor) :
    Except Fault (Found × Position) :=
  if c.rest.head? == some '.' then fractionPart negative significand excess c
  else if isExponentMark c.rest then exponentPart negative significand excess c
  else if excess ≠ 0 then found negative significand excess c
  else if !negative then .ok (.integer significand, c.position)
  else if 0 < significand ∧ significand ≤ 9223372036854775808 then
    .ok (.integer (-significand), c.position)
  else found negative significand 0 c

/-- Reads a number whose sign has been read, and tells where it ends. -/
def read (negative : Bool) (c : Cursor) : Except Fault (Found × Position) :=
  match c.rest with
  | [] => c.fault (.ended .value)
  | '0' :: cs =>
    if startsWithDigit cs then (behind c 1).faultAhead (.malformed .invalidNumber)
    else afterInteger negative 0 0 (behind c 1)
  | ch :: _ =>
    if isDigit ch then
      let (significand, excess) := absorb maxSignificand 0 (digits c)
      afterInteger negative significand excess.length (skipDigits c)
    else c.faultAhead (.malformed .invalidNumber)

/-- Skips the exponent of a number, if there is one. -/
def skipExponent (c : Cursor) : Except Fault Cursor :=
  if isExponentMark c.rest then
    let d := behind c 1
    let d := if d.rest.head? == some '+' || d.rest.head? == some '-' then behind d 1 else d
    if startsWithDigit d.rest then .ok (skipDigits d) else d.faultAhead (.malformed .invalidNumber)
  else .ok c

/-- Skips the fraction of a number, if there is one, and its exponent. -/
def skipFraction (c : Cursor) : Except Fault Cursor :=
  if c.rest.head? == some '.' then
    let d := behind c 1
    if startsWithDigit d.rest then skipExponent (skipDigits d)
    else d.faultAhead (.malformed .invalidNumber)
  else skipExponent c

/-- Skips a number whose first digit has been read. -/
def skipAfter (first : Char) (c : Cursor) : Except Fault Cursor :=
  if first = '0' then
    if startsWithDigit c.rest then c.faultAhead (.malformed .invalidNumber) else skipFraction c
  else skipFraction (skipDigits c)

theorem length_skipDigits (c : Cursor) : (skipDigits c).length ≤ c.length := length_behind c _

theorem faultAhead_ne_ok {α : Type} (c : Cursor) (problem : Problem) (a : α) :
    c.faultAhead problem ≠ .ok a := by simp [Cursor.faultAhead]

theorem length_of_skipExponent {c d : Cursor} (h : skipExponent c = .ok d) :
    d.length ≤ c.length := by
  unfold skipExponent at h
  grind [length_behind, length_skipDigits, faultAhead_ne_ok]

theorem length_of_skipFraction {c d : Cursor} (h : skipFraction c = .ok d) :
    d.length ≤ c.length := by
  unfold skipFraction at h
  grind [length_behind, length_skipDigits, faultAhead_ne_ok, → length_of_skipExponent]

theorem length_of_skipAfter {first : Char} {c d : Cursor} (h : skipAfter first c = .ok d) :
    d.length ≤ c.length := by
  unfold skipAfter at h
  grind [length_behind, length_skipDigits, faultAhead_ne_ok, → length_of_skipFraction]

/-- Skips a number whose first digit has been read. -/
def skipDigit (first : Char) (c : Cursor) : Except Fault (Cursor.From c) :=
  match h : skipAfter first c with
  | .error fault => .error fault
  | .ok d => .ok ⟨d, length_of_skipAfter h⟩

/-- Skips a number whose sign has been read. -/
def skipSigned (c : Cursor) : Except Fault (Cursor.From c) :=
  match h : c.rest with
  | [] => c.faultAhead (.malformed .invalidNumber)
  | ch :: cs => do
    if isDigit ch then
      let digit := c.step ch cs h
      let rest ← skipDigit ch digit.1
      return (rest.beyond digit.2).weaken
    else c.faultAhead (.malformed .invalidNumber)

end Number

end Accessors.Json
