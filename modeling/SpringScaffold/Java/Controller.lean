import SpringScaffold.Config
import SpringScaffold.Java.File
import SpringScaffold.Java.Imports
import SpringScaffold.Java.Method

/-! Controllers: one class for a group of operations, which answers requests by calling the group's
service. -/

namespace SpringScaffold.Java

/-- How a controller method answers. -/
inductive Answer where
  /-- Calls the service and answers without a body. -/
  | build
  /-- Answers with what the service returns. -/
  | body
  deriving DecidableEq, Repr

/-- A controller method. -/
structure Handler where
  summary : Option String
  expectedHeaders : List String
  deprecated : Bool
  method : HttpMethod
  path : String
  entityType : String
  name : String
  parameters : List MethodParameter
  /-- What is passed on to the service. -/
  arguments : List String
  answer : Answer
  status : String
  deriving Repr

structure Controller where
  apiPackage : String
  /-- The package of the models, if there are any. -/
  models : Option String
  name : String
  description : Option String
  imports : List String
  validation : Bool
  lombok : Bool
  handlers : List Handler
  deriving Repr

namespace Handler

def of (validation : Bool) (o : Operation) : Handler where
  summary := o.summary
  expectedHeaders := o.implicitHeaders.map (·.name.written)
  deprecated := o.deprecated
  method := o.method
  path := o.path
  entityType := o.entityType
  name := o.name.camel
  parameters := o.parameters.map (MethodParameter.of validation)
  arguments := o.parameters.map (·.name.camel)
  answer := if o.isVoid then .build else .body
  status := o.successCode

def commentLines (h : Handler) : List String :=
  ((given h.summary).map oneLine).toList ++ h.expectedHeaders.map ("Expects header " ++ · ++ ".")

/-- Methods with a mapping annotation of their own. -/
def hasOwnMapping : HttpMethod → Bool
  | .get | .post | .put | .delete | .patch => true
  | .options | .head | .trace => false

def mappingAnnotations (h : Handler) : String :=
  if hasOwnMapping h.method then
    "@" ++ capitalize h.method.word ++ "Mapping(" ++ literal h.path ++ ")"
  else
    "@RequestMapping(value = " ++ literal h.path ++ ", method = RequestMethod." ++ h.method.word
      ++ ")"

def call (h : Handler) : String := "service." ++ h.name ++ parameterList h.arguments

def answerLines (h : Handler) : List String :=
  match h.answer with
  | .build =>
    ["        " ++ h.call ++ ";",
      "        return ResponseEntity.status(" ++ h.status ++ ").build();"]
  | .body => ["        return ResponseEntity.status(" ++ h.status ++ ").body(" ++ h.call ++ ");"]

def lines (h : Handler) : List String :=
  [""] ++ commentUnlessEmpty "    " h.commentLines
    ++ onlyIf h.deprecated ["    @Deprecated"]
    ++ ["    " ++ h.mappingAnnotations,
        "    public ResponseEntity<" ++ h.entityType ++ "> " ++ h.name
          ++ parameterList
              (h.parameters.map fun p => p.annotations ++ " " ++ p.type ++ " " ++ p.name)
          ++ " \x7b"]
    ++ h.answerLines ++ ["    \x7d"]

end Handler

namespace Controller

def importLines (c : Controller) : List String :=
  [importLine (c.apiPackage ++ ".service." ++ c.name ++ "Service")]
    ++ (c.models.map fun package => importLine (package ++ ".*")).toList
    ++ c.imports.map importLine
    ++ onlyIf c.validation [importLine "javax.validation.Valid"]
    ++ onlyIf c.lombok [importLine "lombok.RequiredArgsConstructor"]
    ++ [importLine "org.springframework.http.ResponseEntity",
        importLine "org.springframework.web.bind.annotation.*"]

def lines (c : Controller) : List String :=
  ["package " ++ c.apiPackage ++ ".controller;", ""]
    ++ c.importLines ++ [""]
    ++ commentUnlessEmpty "" ((given c.description).map oneLine).toList
    ++ ["@RestController"]
    ++ onlyIf c.lombok ["@RequiredArgsConstructor"]
    ++ ["public class " ++ c.name ++ "Controller \x7b", "",
        "    private final " ++ c.name ++ "Service service;"]
    ++ onlyIf (!c.lombok)
        ["", "    public " ++ c.name ++ "Controller(" ++ c.name ++ "Service service) \x7b",
          "        this.service = service;", "    \x7d"]
    ++ c.handlers.flatMap Handler.lines ++ ["\x7d"]

def render (c : Controller) : String := joinLines c.lines

end Controller

end SpringScaffold.Java

namespace SpringScaffold

/-- The operations of a group. Indices out of range are passed over. -/
def Spec.operationsOf (s : Spec) (g : Group) : List Operation :=
  g.operations.filterMap (s.operations[·]?)

/-- The package of the models, if there are any. -/
def Spec.modelPackage? (s : Spec) (c : Config) : Option String :=
  if s.models.isEmpty then none else some c.modelPackage

open Java in
def Spec.controller (s : Spec) (c : Config) (g : Group) : Controller :=
  let operations := s.operationsOf g
  { apiPackage := c.apiPackage
    models := s.modelPackage? c
    name := g.name.pascal
    description := g.description
    imports := collectImports c.mapping (ImportSet.ofList (operations.flatMap (·.imports.ids)))
      (operations.flatMap (·.signatures))
    validation := c.options.beanValidation
    lombok := c.options.lombok
    handlers := operations.map (Handler.of c.options.beanValidation) }

end SpringScaffold
