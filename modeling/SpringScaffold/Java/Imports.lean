import SpringScaffold.ImportMapping
import SpringScaffold.Signature

/-! The imports of a rendered file. -/

namespace SpringScaffold.Java

/-- The given identifiers, and those of the signatures that the mapping knows. -/
def importIds (m : ImportMapping) (base : ImportSet) (signatures : List String) : ImportSet :=
  base.insertAll ((signatures.flatMap Signature.identifiers).filter fun id => (m.resolve id).isSome)

def collectImports (m : ImportMapping) (base : ImportSet) (signatures : List String) :
    List String :=
  m.qualify (importIds m base signatures)

def importLine (qualified : String) : String := "import " ++ qualified ++ ";"

end SpringScaffold.Java
