import Accessors.Decimal.Shortest
import Accessors.Text.Quoted

/-!
Faults of a JSON text: what is wrong, and where.
-/

set_option autoImplicit false

namespace Accessors.Json

/-- A place in a text: the line, counted from one, and the bytes before the place in that line. -/
structure Position where
  line : Nat
  column : Nat
deriving DecidableEq

/-- What was being read when the text ended. -/
inductive Unfinished where
  | list
  | object
  | string
  | value
deriving DecidableEq

def Unfinished.message : Unfinished → String
  | list => "EOF while parsing a list"
  | object => "EOF while parsing an object"
  | string => "EOF while parsing a string"
  | value => "EOF while parsing a value"

/-- Ways in which a text is not JSON. -/
inductive Malformed where
  | missingColon
  | unendedList
  | unendedObject
  | unknownWord
  | missingValue
  | invalidEscape
  | invalidNumber
  | numberOutOfRange
  | controlCharacter
  | keyNotString
  | loneSurrogate
  | brokenSurrogate
  | trailingComma
  | trailingCharacters
deriving DecidableEq

def Malformed.message : Malformed → String
  | missingColon => "expected `:`"
  | unendedList => "expected `,` or `]`"
  | unendedObject => "expected `,` or `\x7d`"
  | unknownWord => "expected ident"
  | missingValue => "expected value"
  | invalidEscape => "invalid escape"
  | invalidNumber => "invalid number"
  | numberOutOfRange => "number out of range"
  | controlCharacter => "control character (\\u0000-\\u001F) found while parsing a string"
  | keyNotString => "key must be a string"
  | loneSurrogate => "lone leading surrogate in hex escape"
  | brokenSurrogate => "unexpected end of hex escape"
  | trailingComma => "trailing comma"
  | trailingCharacters => "trailing characters"

/-- A value that stands where another kind of value is expected. -/
inductive Found where
  | null
  | boolean (b : Bool)
  | integer (n : Int)
  | float (x : Float)
  | string (s : String)
  | sequence
  | map

namespace Found

/-- Numbers from `1e-5` up to `1e16` are written in places, with at least one after the point;
others with an exponent that has a sign. -/
def decimalText (d : Decimal) : String :=
  let digits := Nat.toDigits 10 d.digits
  let places := (digits.length : Int) + d.exponent
  String.ofList <|
    if 0 ≤ d.exponent ∧ places ≤ 16 then
      digits ++ List.replicate d.exponent.toNat '0' ++ ['.', '0']
    else if 0 < places ∧ places ≤ 16 then
      digits.take places.toNat ++ ['.'] ++ digits.drop places.toNat
    else if -5 < places ∧ places ≤ 0 then
      ['0', '.'] ++ List.replicate (-places).toNat '0' ++ digits
    else
      let mantissa := match digits with
        | first :: rest@(_ :: _) => first :: '.' :: rest
        | short => short
      let power := places - 1
      mantissa ++ ['e', if power < 0 then '-' else '+'] ++ Nat.toDigits 10 power.natAbs

/-- Zero keeps its sign. -/
def floatText (x : Float) : String :=
  let bits := x.toBits
  let magnitude := bits &&& 0x7fffffffffffffff
  let sign := if bits == magnitude then "" else "-"
  sign ++ (if magnitude == 0 then "0.0" else decimalText (Decimal.ofBits magnitude))

def message : Found → String
  | null => "null"
  | boolean b => "boolean `" ++ (if b then "true" else "false") ++ "`"
  | integer n => s!"integer `{n}`"
  | float x => "floating point `" ++ floatText x ++ "`"
  | string s => "string " ++ Text.quoted s
  | sequence => "sequence"
  | map => "map"

end Found

/-- Ways in which JSON has another shape than what is read from it. -/
inductive Mismatch where
  | unknownField (name : String) (known : List String)
  | unknownVariant (name : String) (known : List String)
  | repeatedField (name : String)
  | missingField (name : String)
  | wrongLength (length : Nat) (expected : String)
  | wrongType (found : Found) (expected : String)

/-- Names to choose from. -/
def choice : List String → String
  | [a, b] => "`" ++ a ++ "` or `" ++ b ++ "`"
  | names => "one of " ++ String.intercalate ", " (names.map fun name => "`" ++ name ++ "`")

def Mismatch.message : Mismatch → String
  | unknownField name known => "unknown field `" ++ name ++ "`, expected " ++ choice known
  | unknownVariant name known => "unknown variant `" ++ name ++ "`, expected " ++ choice known
  | repeatedField name => "duplicate field `" ++ name ++ "`"
  | missingField name => "missing field `" ++ name ++ "`"
  | wrongLength length expected => s!"invalid length {length}, expected " ++ expected
  | wrongType found expected => "invalid type: " ++ found.message ++ ", expected " ++ expected

inductive Problem where
  | ended (inside : Unfinished)
  | malformed (how : Malformed)
  | mismatch (how : Mismatch)

def Problem.message : Problem → String
  | ended inside => inside.message
  | malformed how => how.message
  | mismatch how => how.message

structure Fault where
  problem : Problem
  position : Position

def Fault.message (fault : Fault) : String :=
  fault.problem.message ++
    s!" at line {fault.position.line} column {fault.position.column}"

end Accessors.Json
