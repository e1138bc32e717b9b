import SpringScaffold.Command.Arguments
import SpringScaffold.Command.Output
import SpringScaffold.Config.Load
import SpringScaffold.Json.Printer
import SpringScaffold.Spec.Load
import SpringScaffold.Stage
import SpringScaffold.Yaml.Printer

/-! Running a command. -/

namespace SpringScaffold

def LoadError.failure (path : String) (e : LoadError) : Failure :=
  ⟨"failed to load " ++ path, [e.message, e.cause]⟩

def ConfigError.failure (e : ConfigError) : Failure := ⟨e.message, [e.cause]⟩

namespace Request

variable {m : Type → Type} [Monad m] [Host m]

/-- The settings of the project in the working directory. -/
def projectConfig : Attempt m Config := do
  match ← (Config.load Config.fileName : m _) with
  | .ok c => return c.getD .default
  | .error e => throw e.failure

/-- The description in a file, ready to be rendered. -/
def loadSpec (path : String) (c : Config) : Attempt m Spec := do
  match ← (Spec.load path : m _) with
  | .ok s => return s.postProcess c.options c.groupBy
  | .error e => throw (e.failure path)

def runGenerate (input output : Option String) (dto : Bool) : Attempt m Unit := do
  let given ← projectConfig
  let c := { given with options := { given.options with dto := dto || given.options.dto } }
  let input := input.getD c.input
  let output := output.getD c.output
  let s ← loadSpec input c
  note ("Generating " ++ input ++ " → " ++ output)
  let files := s.generate c
  attempt ("failed to create output directory " ++ output) (Host.createDirectories output)
  writeFiles output files
  note ("Generated " ++ toString files.length ++ " files in " ++ output)

def runInspect (input : String) (format : Format) : Attempt m String := do
  let s ← loadSpec input (← projectConfig)
  return match format with
  | .yaml => Yaml.write s.toValue
  | .json => Json.pretty 0 s.toValue ++ "\n"

def runInitialise (force : Bool) : Attempt m Unit := do
  if (← (Host.exists? Config.fileName : m _)) && !force then
    throw ⟨Config.fileName ++ " already exists. Use --force to overwrite.", []⟩
  match ← (Host.write Config.fileName Config.initialText : m _) with
  | .ok () => note ("Created " ++ Config.fileName)
  | .error e => throw ⟨e.message, []⟩

def versionText : String := "scg 0.3.0\n"

/-- Does what is asked for and gives the text to print. -/
def run : Request → Attempt m String
  | .version => return versionText
  | .generate input output dto => do
    runGenerate input output dto
    return ""
  | .inspect input format => runInspect input format
  | .initialise force => do
    runInitialise force
    return ""

end Request

/-- How a command line ended. -/
inductive Outcome where
  | badArguments
  | failed (f : Failure)
  | done (output : String)
  deriving DecidableEq, Repr

namespace Outcome

def code : Outcome → Nat
  | .badArguments => 2
  | .failed _ => 1
  | .done _ => 0

def output : Outcome → String
  | .done output => output
  | _ => ""

/-- What is printed where errors go. -/
def errorText : Outcome → String
  | .badArguments => "error: the arguments make no sense\n"
  | .failed f => f.report
  | .done _ => ""

end Outcome

variable {m : Type → Type} [Monad m] [Host m]

def runCommand (args : List String) : m Outcome := do
  match Request.ofArguments args with
  | none => return .badArguments
  | some request =>
    match ← request.run.run with
    | .ok output => return .done output
    | .error f => return .failed f

end SpringScaffold
