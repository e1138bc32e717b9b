import SpringScaffold.Java.Controller

/-! Services: the interface that a group's controller calls. -/

namespace SpringScaffold.Java

/-- A method of a service. -/
structure ServiceMethod where
  type : String
  name : String
  /-- Types and names. -/
  parameters : List (String × String)
  deriving DecidableEq, Repr

structure Service where
  apiPackage : String
  models : Option String
  name : String
  description : Option String
  imports : List String
  methods : List ServiceMethod
  deriving Repr

def ServiceMethod.of (o : Operation) : ServiceMethod where
  type := o.serviceType
  name := o.name.camel
  parameters := o.parameters.map fun p => (p.dataType, p.name.camel)

def ServiceMethod.lines (m : ServiceMethod) : List String :=
  ["", "    " ++ m.type ++ " " ++ m.name
    ++ parameterList (m.parameters.map fun (type, name) => type ++ " " ++ name) ++ ";"]

namespace Service

def lines (s : Service) : List String :=
  ["package " ++ s.apiPackage ++ ".service;", ""]
    ++ (s.models.map fun package => importLine (package ++ ".*")).toList
    ++ s.imports.map importLine ++ [""]
    ++ comment "" (["Business logic behind " ++ s.name ++ "Controller."]
        ++ ((given s.description).map oneLine).toList)
    ++ ["public interface " ++ s.name ++ "Service \x7b"]
    ++ s.methods.flatMap ServiceMethod.lines ++ ["\x7d"]

def render (s : Service) : String := joinLines s.lines

end Service

end SpringScaffold.Java

namespace SpringScaffold

open Java in
def Spec.service (s : Spec) (c : Config) (g : Group) : Service :=
  let operations := s.operationsOf g
  { apiPackage := c.apiPackage
    models := s.modelPackage? c
    name := g.name.pascal
    description := g.description
    imports := collectImports c.mapping .empty (operations.flatMap (·.signatures))
    methods := operations.map ServiceMethod.of }

end SpringScaffold
