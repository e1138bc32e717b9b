import SpringScaffold.Java.Text

/-! Java files as lines. -/

namespace SpringScaffold.Java

/-- Lines joined by line breaks, with none at the end. -/
def joinLines (ls : List String) : String := String.intercalate "\n" ls

/-- Lines that are there on a condition only. -/
def onlyIf (condition : Bool) (ls : List String) : List String := if condition then ls else []

/-- A text counts as given if it is there and not empty. -/
def given (s : Option String) : Option String := s.filter (· != "")

/-- A comment whose lines begin in the given column. -/
def comment (indent : String) (ls : List String) : List String :=
  [indent ++ "/**"] ++ ls.map (indent ++ " * " ++ ·) ++ [indent ++ " */"]

def commentUnlessEmpty (indent : String) (ls : List String) : List String :=
  onlyIf (!ls.isEmpty) (comment indent ls)

def parameterList (ps : List String) : String := "(" ++ String.intercalate ", " ps ++ ")"

end SpringScaffold.Java
