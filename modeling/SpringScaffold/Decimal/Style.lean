import SpringScaffold.Decimal.Shortest

/-! How a floating-point number is written: its shortest digits with a point between them, or with a
power of ten behind. -/

namespace SpringScaffold

/-- Numbers whose leading digit has a power of ten in `fixed` are written without an exponent, all
numbers if there is no such range. -/
structure DecimalStyle where
  fixed : Option (Int × Int)
  plusSign : Bool

namespace DecimalStyle

/-- Exponents from 16 up carry a plus sign. -/
def plus : DecimalStyle := ⟨some (-5, 15), true⟩

def plain : DecimalStyle := ⟨some (-5, 15), false⟩

def positional : DecimalStyle := ⟨none, false⟩

def zeros (n : Nat) : List Char := List.replicate n '0'

def writeFixed (ds : List Char) (e : Int) : List Char :=
  if 0 ≤ e then ds ++ zeros e.toNat ++ ['.', '0']
  else
    let whole := (ds.length : Int) + e
    if 0 < whole then ds.take whole.toNat ++ ['.'] ++ ds.drop whole.toNat
    else ['0', '.'] ++ zeros (-whole).toNat ++ ds

def writeExponent (style : DecimalStyle) (ds : List Char) (power : Int) : List Char :=
  let point := match ds with
    | [d] => [d]
    | d :: rest => d :: '.' :: rest
    | [] => []
  let sign := if power < 0 then ['-'] else if style.plusSign then ['+'] else []
  point ++ ['e'] ++ sign ++ (toString power.natAbs).toList

def write (style : DecimalStyle) (x : Binary64) : String :=
  let d := Decimal.shortest x
  let ds := (toString d.digits).toList
  let power := d.exponent + ds.length - 1
  let isFixed := match style.fixed with
    | some (lo, hi) => lo ≤ power && power ≤ hi
    | none => true
  let body := if isFixed then writeFixed ds d.exponent else style.writeExponent ds power
  String.ofList ((if x.negative then ['-'] else []) ++ body)

end DecimalStyle

end SpringScaffold
