import SpringScaffold.Decimal.Style
import SpringScaffold.Value

/-! Writing values as JSON, on one line or indented. -/

namespace SpringScaffold.Json

def hexDigit (n : Nat) : Char := "0123456789abcdef".toList.getD n '0'

/-- Control characters are written by their short escape or by their code. -/
def escapeChar (c : Char) : List Char :=
  if c = '"' then ['\\', '"']
  else if c = '\\' then ['\\', '\\']
  else if c.toNat = 8 then ['\\', 'b']
  else if c.toNat = 9 then ['\\', 't']
  else if c.toNat = 10 then ['\\', 'n']
  else if c.toNat = 12 then ['\\', 'f']
  else if c.toNat = 13 then ['\\', 'r']
  else if c.toNat < 32 then ['\\', 'u', '0', '0', hexDigit (c.toNat / 16), hexDigit (c.toNat % 16)]
  else [c]

def quote (s : String) : String :=
  String.ofList ('"' :: s.toList.flatMap escapeChar ++ ['"'])

def writeNumber : Number → String
  | .integer i => toString i
  | .float x => DecimalStyle.plus.write x

mutual

/-- On one line, without blanks. -/
def compact : Value → String
  | .null => "null"
  | .bool b => if b then "true" else "false"
  | .number n => writeNumber n
  | .text s => quote s
  | .list items => "[" ++ compactItems items ++ "]"
  | .object members => "\x7b" ++ compactMembers members ++ "\x7d"
termination_by structural v => v

def compactItems : List Value → String
  | [] => ""
  | v :: rest => compact v ++ (if rest.isEmpty then "" else ",") ++ compactItems rest
termination_by structural l => l

def compactMembers : List (String × Value) → String
  | [] => ""
  | m :: rest => compactMember m ++ (if rest.isEmpty then "" else ",") ++ compactMembers rest
termination_by structural l => l

def compactMember : String × Value → String
  | (key, v) => quote key ++ ":" ++ compact v
termination_by structural m => m

end

def indentation (depth : Nat) : String := String.ofList ('\n' :: List.replicate (2 * depth) ' ')

mutual

/-- Every item and member on a line of its own, two spaces deeper than what holds it. -/
def pretty (depth : Nat) : Value → String
  | .null => "null"
  | .bool b => if b then "true" else "false"
  | .number n => writeNumber n
  | .text s => quote s
  | .list [] => "[]"
  | .list (v :: rest) => "[" ++ prettyItems (depth + 1) (v :: rest) ++ indentation depth ++ "]"
  | .object [] => "\x7b\x7d"
  | .object (m :: rest) =>
    "\x7b" ++ prettyMembers (depth + 1) (m :: rest) ++ indentation depth ++ "\x7d"
termination_by structural v => v

def prettyItems (depth : Nat) : List Value → String
  | [] => ""
  | v :: rest =>
    indentation depth ++ pretty depth v ++ (if rest.isEmpty then "" else ",")
      ++ prettyItems depth rest
termination_by structural l => l

def prettyMembers (depth : Nat) : List (String × Value) → String
  | [] => ""
  | m :: rest =>
    indentation depth ++ prettyMember depth m ++ (if rest.isEmpty then "" else ",")
      ++ prettyMembers depth rest
termination_by structural l => l

def prettyMember (depth : Nat) : String × Value → String
  | (key, v) => quote key ++ ": " ++ pretty depth v
termination_by structural m => m

end

end SpringScaffold.Json
