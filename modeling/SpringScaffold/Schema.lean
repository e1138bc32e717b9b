import SpringScaffold.Value

/-! What a document has to look like. -/

namespace SpringScaffold

/-- The shape of a value in a document. -/
inductive Shape where
  /-- A text. -/
  | text
  /-- A text or nothing. -/
  | optionalText
  | flag
  /-- One of the given words. -/
  | choice (words : List String)
  | list (item : Shape)
  /-- Texts without repetition. -/
  | textSet
  /-- Members of any names that hold texts. -/
  | textMap
  /-- Members of any names that hold any values. -/
  | extensions
  /-- Members of fixed names, under the title that error texts use. A member that may be absent
  comes with the value that stands for its absence. -/
  | record (title : String) (members : List (String × Shape × Option Value))
  deriving Inhabited

namespace Shape

def lookup (members : List (String × Shape × Option Value)) (name : String) : Option Shape :=
  (members.find? (·.1 = name)).map (·.2.1)

/-- What an error text says was wanted. -/
def wanted : Shape → String
  | .text | .optionalText => "a string"
  | .flag => "a boolean"
  | .choice _ => "variant identifier"
  | .list _ => "a sequence"
  | .textSet => "a set"
  | .textMap | .extensions => "a map"
  | .record title _ => "struct " ++ title

/-- The members that were read, in the order of their declaration, the absent ones filled in. Fails
with the first member that must not be absent. -/
def fill (read : List (String × Value)) :
    List (String × Shape × Option Value) → Except String (List (String × Value))
  | [] => .ok []
  | (name, _, absent) :: rest =>
    match (read.lookup name).or absent with
    | some v => (fill read rest).map ((name, v) :: ·)
    | none => .error name

end Shape

end SpringScaffold
