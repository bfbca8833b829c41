import Accessors.Error
import Accessors.Text.Blank
import Accessors.Text.Word

/-!
The lines of a schema that say something, neither blank nor a comment, and what each of them
declares. Only the first two tokens of a line count, and the second gives the symbol that is
declared.
-/

set_option autoImplicit false

namespace Accessors

/-- A trimmed line with its place in the text, counted from one. -/
structure Line where
  number : Nat
  text : String
deriving DecidableEq

namespace Line

def tokens (line : Line) : List String :=
  (Text.words line.text.toList).map String.ofList

/-- A line that closes a class starts with a closing brace. -/
def closes (line : Line) : Bool :=
  (Text.trimStart line.text.toList).head? == some '}'

/-- Whether a trimmed line says something. -/
def isLogical (text : List Char) : Bool := !text.isEmpty && text.head? != some '#'

/-- The lines that say something, trimmed, with their numbers in the whole text. -/
def ofText (source : String) : List Line :=
  ((Text.lines source.toList).zipIdx 1).filterMap fun (raw, number) =>
    let text := Text.trim raw
    if isLogical text then some ⟨number, String.ofList text⟩ else none

end Line

/-- The longest run of word characters at the start of the last `/` piece of a token. -/
def symbolName (token : String) : Except Error String :=
  match ((token.toList.splitOn '/').getLastD []).takeWhile Text.isWord with
  | [] => .error (.invalidToken token)
  | symbol => .ok (String.ofList symbol)

/-- A declaration keeps the token that says where its data is found. -/
inductive Declaration where
  | openClass (name token : String)
  | scalar (kind : Kind) (name token : String)
  | array (kind : Kind) (size name token : String)
deriving DecidableEq

namespace Declaration

def isBracket (c : Char) : Bool := c == '[' || c == ']'

/-- Takes `p[s]` apart into `p`, which is not empty, and `s`, which has no bracket. -/
def sized? (text : String) : Option (String × String) :=
  match text.toList.reverse with
  | ']' :: rest =>
    match rest.dropWhile (!isBracket ·) with
    | '[' :: last :: front =>
      some (String.ofList (last :: front).reverse,
        String.ofList (rest.takeWhile (!isBracket ·)).reverse)
    | _ => none
  | _ => none

def endsInBracket (text : String) : Bool := text.toList.getLast? == some ']'

/-- `kind name[size]` -/
def ofSizedName (line : Line) (kind : Kind) (token : String) : Except Error Declaration :=
  match sized? token with
  | none => .error (.malformed line.number line.text .unsizedName)
  | some (name, size) => do return .array kind size (← symbolName name) token

/-- `kind[size] name` -/
def ofSizedKind (line : Line) (keyword token : String) : Except Error Declaration :=
  match sized? keyword with
  | none => .error (.malformed line.number line.text .unsizedKind)
  | some (element, size) =>
    match Kind.ofKeyword? element with
    | none => .error (.malformed line.number line.text (.unknownElement element))
    | some kind => do return .array kind size (← symbolName token) token

/-- The declaration of a line by its first two tokens. -/
def ofTokens (line : Line) (keyword token : String) : Except Error Declaration :=
  if keyword = "class" then do
    return .openClass (← symbolName token) token
  else
    match Kind.ofKeyword? keyword with
    | some kind =>
      if endsInBracket token then ofSizedName line kind token
      else do return .scalar kind (← symbolName token) token
    | none =>
      if endsInBracket keyword then ofSizedKind line keyword token
      else if endsInBracket token then
        .error (.malformed line.number line.text (.unknownElement keyword))
      else .error (.malformed line.number line.text (.unknownKeyword keyword))

def ofLine (line : Line) : Except Error Declaration :=
  match line.tokens with
  | keyword :: token :: _ => ofTokens line keyword token
  | _ => .error (.malformed line.number line.text .missingName)

end Declaration

end Accessors
