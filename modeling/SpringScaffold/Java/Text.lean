import SpringScaffold.Text.Blank
import SpringScaffold.Text.LetterCase
import SpringScaffold.Text.Runs

/-! Texts of a document made fit for their place in a Java file. -/

namespace SpringScaffold.Java

open Text

def removeQuotes (s : String) : String := String.ofList (s.toList.filter (· != '"'))

/-- Puts a backslash before each double quote. -/
def escapeQuotes (s : String) : String :=
  String.ofList (s.toList.flatMap fun c => if c = '"' then ['\\', '"'] else [c])

def removeLineBreaks (s : String) : String :=
  String.ofList (s.toList.filter fun c => c != '\r' && c != '\n')

/-- Each stretch of white space becomes one space. -/
def collapseBlanks (s : String) : String := String.ofList (collapse s.toList)

/-- A text on one line of a comment. -/
def oneLine (s : String) : String := collapseBlanks (removeLineBreaks s)

/-- The pieces between the separators, each without white space at its ends. -/
def pieces (separator : String) (s : String) : List String :=
  (splitOn separator.toList s.toList).map fun p => String.ofList (trim p)

def defaultSeparator : String := ","

/-- The first character in upper case, the others in lower case. -/
def capitalize (s : String) : String :=
  match s.toList with
  | [] => ""
  | c :: rest => String.ofList (upperChar c ++ lower rest)

def literal (s : String) : String := "\"" ++ escapeQuotes s ++ "\""

end SpringScaffold.Java
