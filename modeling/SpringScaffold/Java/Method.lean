import SpringScaffold.Java.Text
import SpringScaffold.Spec

/-! What an operation is in Java: its types, its status, and its parameters with their
annotations. -/

namespace SpringScaffold

namespace Operation

/-- The type of what the controller answers with. -/
def entityType (o : Operation) : String :=
  Signature.wrap (o.returnType.getD Signature.void) o.returnContainer

def isVoid (o : Operation) : Bool :=
  o.returnContainer.isNone && (o.returnType.all (· == Signature.void))

/-- The type that the service returns. -/
def serviceType (o : Operation) : String := if o.isVoid then "void" else o.entityType

def isSuccess (code : String) : Bool :=
  match code.toList with
  | [a, b, c] => a == '2' && Text.isAsciiDigit b && Text.isAsciiDigit c
  | _ => false

/-- The first declared success, or 200. -/
def successCode (o : Operation) : String :=
  ((o.responses.map (·.code)).find? isSuccess).getD "200"

/-- Every signature of the method. -/
def signatures (o : Operation) : List String := o.entityType :: o.parameters.map (·.dataType)

end Operation

namespace Java

/-- A parameter of a method. -/
structure MethodParameter where
  annotations : String
  type : String
  name : String
  deriving DecidableEq, Repr

def temporalAnnotations (isDateTime isDate : Bool) : Option String :=
  if isDateTime then some "@DateTimeFormat(iso = DateTimeFormat.ISO.DATE_TIME)"
  else if isDate then some "@DateTimeFormat(iso = DateTimeFormat.ISO.DATE)"
  else none

/-- What binds a parameter to its place in the request. -/
def binding (validation : Bool) (p : Parameter) : String :=
  let named (annotations : String) : String :=
    annotations ++ "(value = " ++ literal p.name.written ++ ", required = "
      ++ (if p.required then "true" else "false") ++ ")"
  match p.location with
  | .path => "@PathVariable(" ++ literal p.name.written ++ ")"
  | .query => named "@RequestParam"
  | .header => named "@RequestHeader"
  | .cookie => named "@CookieValue"
  | .body => if validation then "@Valid @RequestBody" else "@RequestBody"

def parameterAnnotations (validation : Bool) (p : Parameter) : String :=
  ((temporalAnnotations p.isDateTime p.isDate).map (· ++ " ")).getD "" ++ binding validation p

def MethodParameter.of (validation : Bool) (p : Parameter) : MethodParameter :=
  ⟨parameterAnnotations validation p, p.dataType, p.name.camel⟩

end Java

end SpringScaffold
