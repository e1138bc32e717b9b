/-! Tags of YAML nodes, octet by octet: octets that are written one by one need not spell a text. -/

namespace SpringScaffold.Yaml

structure Tag where
  octets : List UInt8
  deriving DecidableEq, Repr

namespace Tag

def octetsOf (s : String) : List UInt8 := s.toUTF8.data.toList

def ofText (s : String) : Tag := ⟨octetsOf s⟩

/-- What the octets spell, if they spell anything. -/
def spell? (octets : List UInt8) : Option String := String.fromUTF8? ⟨octets.toArray⟩

/-- The octets up to the first zero, which ends every part of a tag. -/
def upToZero (octets : List UInt8) : List UInt8 := octets.takeWhile (· != 0)

def standardSpace : String := "tag:yaml.org,2002:"

def standard (name : String) : Tag := ofText (standardSpace ++ name)

/-- The octet of the exclamation mark. -/
def mark : UInt8 := '!'.toUInt8

/-- A tag of the document's own. -/
def isLocal (t : Tag) : Bool := t.octets.head? == some mark

/-- The word that a tag of the document's own stands for. The mark alone stands for itself. -/
def word? (t : Tag) : Option String :=
  if !t.isLocal then none
  else spell? (if t.octets.length = 1 then t.octets else t.octets.drop 1)

end Tag

end SpringScaffold.Yaml
