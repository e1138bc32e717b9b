/-! What the arguments of a command line ask for. -/

namespace SpringScaffold

inductive Format where
  | yaml
  | json
  deriving DecidableEq, Repr, Inhabited

namespace Format

def all : List Format := [.yaml, .json]

def word : Format → String
  | .yaml => "yaml"
  | .json => "json"

end Format

inductive Request where
  | version
  | generate (input output : Option String) (dto : Bool)
  | inspect (input : String) (format : Format)
  | initialise (force : Bool)
  deriving DecidableEq, Repr

/-- A switch of a command, with or without a value. -/
structure Switch where
  long : String
  short : Option Char
  takesValue : Bool
  deriving DecidableEq, Repr

namespace Switch

def input : Switch := ⟨"input", some 'i', true⟩

def output : Switch := ⟨"output", some 'o', true⟩

def dto : Switch := ⟨"use-dto", none, false⟩

def format : Switch := ⟨"format", none, true⟩

def force : Switch := ⟨"force", none, false⟩

/-- What an argument says of a switch: nothing, its name, or its name and a value. -/
inductive Use where
  | other
  | named
  | valued (value : List Char)
  deriving DecidableEq, Repr

/-- A value stands behind an equals sign. -/
def readLong (s : Switch) (cs : List Char) : Use :=
  if s.long.toList.isPrefixOf cs then
    match cs.drop s.long.length with
    | [] => .named
    | '=' :: value => .valued value
    | _ => .other
  else .other

/-- A value may follow the letter at once. -/
def readShort (s : Switch) : List Char → Use
  | [] => .other
  | c :: rest =>
    if s.short = some c then
      match rest with
      | [] => .named
      | '=' :: value => .valued value
      | value => .valued value
    else .other

def use (s : Switch) (arg : String) : Use :=
  match arg.toList with
  | '-' :: '-' :: rest => s.readLong rest
  | '-' :: rest => s.readShort rest
  | _ => .other

/-- A value of its own must not look like a switch. A single hyphen does not. -/
def isFree (arg : String) : Bool := arg == "-" || arg.toList.head? != some '-'

end Switch

/-- The switches that were given, with their values. -/
abbrev Switches := List (String × String)

/-- Notes a switch, which may be given once. No value is empty. -/
def Switches.add (given : Switches) (s : Switch) (value : String) : Option Switches :=
  if (given.lookup s.long).isSome || (s.takesValue && value = "") then none
  else some ((s.long, value) :: given)

/-- Reads the arguments of a command that has the given switches and nothing else. -/
def readSwitches (all : List Switch) (given : Switches) : List String → Option Switches
  | [] => some given
  | arg :: rest =>
    if arg = "--" then if rest.isEmpty then some given else none
    else
      match all.find? fun s => s.use arg ≠ .other with
      | none => none
      | some s =>
        match s.use arg, s.takesValue with
        | .valued value, true => do
          readSwitches all (← given.add s (String.ofList value)) rest
        | .named, false => do readSwitches all (← given.add s "") rest
        | .named, true =>
          match rest with
          | [] => none
          | value :: rest =>
            if Switch.isFree value then do readSwitches all (← given.add s value) rest else none
        | _, _ => none

namespace Request

def readGenerate (args : List String) : Option Request := do
  let given ← readSwitches [.input, .output, .dto] [] args
  return .generate (given.lookup "input") (given.lookup "output") (given.lookup "use-dto").isSome

def readInspect (args : List String) : Option Request := do
  let given ← readSwitches [.input, .format] [] args
  let input ← given.lookup "input"
  let format ← match given.lookup "format" with
    | some w => Format.all.find? (·.word == w)
    | none => some .yaml
  return .inspect input format

def readInitialise (args : List String) : Option Request := do
  let given ← readSwitches [.force] [] args
  return .initialise (given.lookup "force").isSome

/-- What is asked for, if the arguments make sense. -/
def ofArguments : List String → Option Request
  | [] => none
  | arg :: rest =>
    if arg = "--version" || ['-', 'V'].isPrefixOf arg.toList then some .version
    else if arg = "generate" then readGenerate rest
    else if arg = "inspect" then readInspect rest
    else if arg = "init" then readInitialise rest
    else none

end Request

end SpringScaffold
