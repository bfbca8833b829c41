import Accessors.Command.Request

/-!
Reading the arguments of the command line. They are read from left to right, and the first
misuse ends the reading.
-/

set_option autoImplicit false

namespace Accessors.Command

/-- Why no request comes out of the arguments. -/
inductive Stop where
  | help
  | version
  | misuse
deriving DecidableEq

/-- What a command understands. Options take a value, flags take none. -/
structure Grammar where
  positionals : List String
  options : List String
  flags : List String
  /-- The letters of options. -/
  letters : List (Char × String)
  /-- What must not be empty. -/
  nonempty : List String

/-- What has been read so far. Values of positionals stand in the order of the grammar. -/
structure Reading where
  positionals : List String
  values : List (String × String)
  flags : List String

/-- A flag is given at most once. -/
def Reading.addFlag (r : Reading) (name : String) : Except Stop Reading :=
  if name ∈ r.flags then .error .misuse else .ok { r with flags := r.flags ++ [name] }

namespace Grammar

variable (g : Grammar)

def checkValue (name value : String) : Except Stop Unit :=
  if name ∈ g.nonempty ∧ value = "" then .error .misuse else .ok ()

def addPositional (r : Reading) (value : String) : Except Stop Reading :=
  match g.positionals[r.positionals.length]? with
  | none => .error .misuse
  | some name => do
    g.checkValue name value
    return { r with positionals := r.positionals ++ [value] }

/-- An option is given at most once. -/
def addOption (r : Reading) (name value : String) : Except Stop Reading :=
  if (r.values.lookup name).isSome then .error .misuse
  else do
    g.checkValue name value
    return { r with values := r.values ++ [(name, value)] }

/-- An argument that cannot be taken for an option: it has no dash at its start, or nothing else. -/
def isPlain (arg : String) : Bool := arg.toList.head? != some '-' || arg == "-"

/-- Reads arguments; `pending` is an option that still needs its value. -/
def read : Option String → Reading → List String → Except Stop Reading
  | none, r, [] => .ok r
  | some _, _, [] => .error .misuse
  | some name, r, arg :: args => do
    if isPlain arg then read none (← g.addOption r name arg) args else .error .misuse
  | none, r, arg :: args => do
    if isPlain arg then read none (← g.addPositional r arg) args
    else
      match arg.toList with
      | ['-', '-'] => args.foldlM g.addPositional r
      | '-' :: '-' :: long =>
        let name := String.ofList (long.takeWhile (· != '='))
        match long.dropWhile (· != '=') with
        | [] =>
          if name = "help" then .error .help
          else if name ∈ g.flags then read none (← r.addFlag name) args
          else if name ∈ g.options then read (some name) r args
          else .error .misuse
        | _ :: value =>
          if name ∈ g.options then
            read none (← g.addOption r name (String.ofList value)) args
          else .error .misuse
      | '-' :: letter :: rest =>
        if letter = 'h' then .error .help
        else
          match g.letters.lookup letter with
          | none => .error .misuse
          | some name =>
            match rest with
            | [] => read (some name) r args
            | '=' :: value => read none (← g.addOption r name (String.ofList value)) args
            | value => read none (← g.addOption r name (String.ofList value)) args
      | _ => .error .misuse

end Grammar

def generateGrammar : Grammar where
  positionals := ["qualified_name", "schema"]
  options := ["out-dir", "config"]
  flags := ["stdout", "no-op"]
  letters := [('o', "out-dir")]
  nonempty := ["schema", "out-dir", "config"]

def astGrammar : Grammar where
  positionals := ["schema"]
  options := ["out"]
  flags := ["no-op"]
  letters := [('o', "out")]
  nonempty := ["schema", "out"]

def readGenerate (args : List String) : Except Stop Generate := do
  let r ← generateGrammar.read none ⟨[], [], []⟩ args
  match r.positionals with
  | [name, schema] => return {
      qualifiedName := name
      schema := schema
      outDir := (r.values.lookup "out-dir").getD "."
      config := r.values.lookup "config"
      stdout := r.flags.contains "stdout"
      noOp := r.flags.contains "no-op" }
  | _ => .error .misuse

def readAst (args : List String) : Except Stop Ast := do
  let r ← astGrammar.read none ⟨[], [], []⟩ args
  match r.positionals with
  | [schema] => return {
      schema := schema
      out := r.values.lookup "out"
      noOp := r.flags.contains "no-op" }
  | _ => .error .misuse

/-- The request that arguments spell. -/
def Request.ofArguments : List String → Except Stop Request
  | "generate" :: args => return .generate (← readGenerate args)
  | "ast" :: args => return .ast (← readAst args)
  | "help" :: topics =>
    .error (if topics ∈ [[], ["generate"], ["ast"], ["help"]] then .help else .misuse)
  | "--help" :: _ => .error .help
  | "--version" :: _ => .error .version
  | arg :: _ =>
    match arg.toList with
    | '-' :: 'h' :: _ => .error .help
    | '-' :: 'V' :: _ => .error .version
    | _ => .error .misuse
  | [] => .error .misuse

end Accessors.Command
