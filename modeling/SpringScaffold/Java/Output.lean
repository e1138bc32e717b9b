import SpringScaffold.Java.ModelClass
import SpringScaffold.Java.Service

/-! The files that a description is rendered to. Controllers and services stand side by side at
first and are moved into their own directories later. -/

namespace SpringScaffold

/-- The family of files that a file belongs to. -/
inductive Role where
  /-- A controller or a service, which only the file's name tells. -/
  | api
  | controller
  | service
  | model
  | other
  deriving DecidableEq, Repr, Inhabited

namespace Role

def all : List Role := [.api, .controller, .service, .model, .other]

def word : Role → String
  | .api => "api"
  | .controller => "controller"
  | .service => "service"
  | .model => "model"
  | .other => "other"

end Role

structure GeneratedFile where
  path : String
  role : Role
  content : String
  deriving DecidableEq, Repr

/-- The directory of all sources below the output directory. -/
def sourceRoot : String := "src/main/java"

/-- The directory of a package. -/
def packageDirectory (package : String) : String :=
  sourceRoot ++ "/" ++ String.ofList (package.toList.map fun c => if c = '.' then '/' else c)

namespace Spec

def groupFiles (s : Spec) (c : Config) (g : Group) : List GeneratedFile :=
  let base := packageDirectory c.apiPackage ++ "/" ++ g.name.pascal
  [⟨base ++ "Controller.java", .controller, (s.controller c g).render⟩,
    ⟨base ++ "Service.java", .service, (s.service c g).render⟩]

def modelFile (c : Config) (m : Model) : GeneratedFile :=
  ⟨packageDirectory c.modelPackage ++ "/" ++ m.className ++ ".java", .model, m.render c⟩

def generate (s : Spec) (c : Config) : List GeneratedFile :=
  s.groups.flatMap (s.groupFiles c) ++ s.models.map (modelFile c)

end Spec

end SpringScaffold
