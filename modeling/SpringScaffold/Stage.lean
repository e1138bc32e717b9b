import SpringScaffold.Grouping

/-! The stages that make a description ready for rendering. -/

namespace SpringScaffold

namespace Model

def dtoSuffix : String := "Dto"

/-- The class name of a model. -/
def classNameOf (dto : Bool) (name : String) : String := if dto then name ++ dtoSuffix else name

/-- What asks for the helpers that need array functions, whatever its value. -/
def nullableHelpers : String := "x-jackson-optional-nullable-helpers"

/-- An example that stands for having none. -/
def nullExample : String := "null"

end Model

namespace Spec

/-- Changes every type signature. -/
def mapSignatures (f : String → String) (s : Spec) : Spec :=
  let parameter (p : Parameter) : Parameter := { p with dataType := f p.dataType }
  { s with
    models := s.models.map fun m =>
      { m with properties := m.properties.map fun p => { p with dataType := f p.dataType } }
    operations := s.operations.map fun o =>
      { o with
        returnType := o.returnType.map f
        responses := o.responses.map fun r => { r with dataType := r.dataType.map f }
        parameters := o.parameters.map parameter
        implicitHeaders := o.implicitHeaders.map parameter } }

/-- The names of the models that get another name as their class name. -/
def renames (dto : Bool) (s : Spec) : Dictionary String :=
  s.models.foldl (fun d m =>
    if Model.classNameOf dto m.name = m.name then d
    else d.insert m.name (Model.classNameOf dto m.name)) .empty

/-- Gives every model its class name. -/
def setClassNames (dto : Bool) (s : Spec) : Spec :=
  { s with models := s.models.map fun m => { m with className := Model.classNameOf dto m.name } }

/-- Gives every model its class name and lets the signatures refer to it. -/
def nameModels (o : Options) (s : Spec) : Spec :=
  if (s.renames o.dto).entries.isEmpty then s.setClassNames o.dto
  else (s.setClassNames o.dto).mapSignatures (Signature.rename (s.renames o.dto))

end Spec

namespace Parameter

def isTemporal (p : Parameter) : Bool := p.isDate || p.isDateTime

def implicitHeaderMark : String := "x-implicit-header"

def isImplicitHeader (p : Parameter) : Bool :=
  p.location == .header && match p.extensions.find? implicitHeaderMark with
    | some (.bool b) => b
    | _ => false

end Parameter

namespace Response

/-- The code that stands for the usual success. -/
def placeholderCode : String := "0"

def normalize (r : Response) : Response :=
  let r := if r.code = placeholderCode then { r with code := "200" } else r
  if r.container.isNone then
    match Signature.split? r.dataType with
    | some t => { r with dataType := some t.base, container := t.container }
    | none => r
  else r

end Response

namespace Operation

def addImports (o : Operation) : Operation :=
  if o.parameters.any Parameter.isTemporal then
    { o with imports := o.imports.insert ImportId.dateTimeFormat }
  else o

/-- Splits the container off the return type unless there is one already. -/
def splitReturn (o : Operation) : Operation :=
  if o.returnContainer.isNone then
    match Signature.split? o.returnType with
    | some t => { o with returnType := some t.base, returnContainer := t.container }
    | none => o
  else o

/-- Implicit headers leave the parameters. -/
def splitHeaders (o : Operation) : Operation :=
  let (hidden, shown) := o.parameters.partition Parameter.isImplicitHeader
  { o with parameters := shown, implicitHeaders := o.implicitHeaders ++ hidden }

def normalize (o : Operation) : Operation :=
  { o with responses := o.responses.map Response.normalize }.splitReturn.splitHeaders

end Operation

namespace Property

def isTemporal (p : Property) : Bool := p.isDate || p.isDateTime

def clearNullExample (p : Property) : Property :=
  if p.sample = some Model.nullExample then { p with sample := none } else p

end Property

namespace Model

/-- The imports that one property asks for. -/
def importsFor (o : Options) (m : Model) (p : Property) : List String :=
  (if p.isTemporal then [ImportId.dateTimeFormat] else [])
    ++ (if !m.isEnum then
          ImportId.jsonProperty :: (if m.hasEnums then [ImportId.jsonValue] else [])
        else if o.serialization = .jackson then [ImportId.jsonCreator] else [])
    ++ (if p.isByteArray || m.extensions.contains nullableHelpers then [ImportId.arrays] else [])

def annotate (o : Options) (m : Model) : Model :=
  { m with
    imports := m.imports.insertAll (m.properties.flatMap (m.importsFor o))
    properties := m.properties.map Property.clearNullExample }

end Model

/-- A step over a description. -/
inductive Stage where
  | modelNames
  | operationImports
  | operations
  | modelProperties
  | groups
  deriving DecidableEq, Repr, Inhabited

namespace Stage

/-- All stages in the order in which they run. -/
def all : List Stage := [.modelNames, .operationImports, .operations, .modelProperties, .groups]

def word : Stage → String
  | .modelNames => "model_names"
  | .operationImports => "operation_imports"
  | .operations => "operations"
  | .modelProperties => "model_properties"
  | .groups => "groups"

def run (o : Options) (mode : GroupBy) : Stage → Spec → Spec
  | .modelNames, s => s.nameModels o
  | .operationImports, s => { s with operations := s.operations.map Operation.addImports }
  | .operations, s => { s with operations := s.operations.map Operation.normalize }
  | .modelProperties, s => { s with models := s.models.map (Model.annotate o) }
  | .groups, s => { s with groups := s.groupOperations mode }

/-- What a stage reports when it starts from the given description. -/
def log (mode : GroupBy) : Stage → Spec → List LogEntry
  | .groups, s => s.groupLog mode
  | _, _ => []

end Stage

namespace Spec

def runStages (o : Options) (mode : GroupBy) (stages : List Stage) (s : Spec) : Spec :=
  stages.foldl (fun s stage => stage.run o mode s) s

/-- All stages, once each. -/
def postProcess (o : Options) (mode : GroupBy) (s : Spec) : Spec := s.runStages o mode Stage.all

def stagesLog (o : Options) (mode : GroupBy) : List Stage → Spec → List LogEntry
  | [], _ => []
  | stage :: rest, s =>
    .runningStage stage.word :: stage.log mode s ++ stagesLog o mode rest (stage.run o mode s)

def postProcessLog (o : Options) (mode : GroupBy) (s : Spec) : List LogEntry :=
  let done := s.postProcess o mode
  stagesLog o mode Stage.all s
    ++ [.finished done.operations.length done.models.length done.groups.length]

end Spec

end SpringScaffold
