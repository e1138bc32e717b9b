import SpringScaffold.Text.Runs

/-! Why a command did not get through, and how that is reported. -/

namespace SpringScaffold

/-- What failed, and the causes, each of them the cause of the one before. -/
structure Failure where
  top : String
  causes : List String
  deriving DecidableEq, Repr

namespace Failure

def spaces (n : Nat) : String := String.ofList (List.replicate n ' ')

/-- Every line but the first is indented. -/
def hang (indent : Nat) (s : String) : String :=
  String.ofList (("\n" ++ spaces indent).toList.intercalate (Text.splitOn ['\n'] s.toList))

def numbered (cause : String × Nat) : String :=
  spaces 4 ++ toString cause.2 ++ ": " ++ hang 7 cause.1 ++ "\n"

/-- Several causes are numbered. -/
def causeLines : List String → String
  | [] => ""
  | [cause] => "\nCaused by:\n" ++ spaces 4 ++ hang 4 cause ++ "\n"
  | causes => "\nCaused by:\n" ++ String.join (causes.zipIdx.map numbered)

def report (f : Failure) : String := "Error: " ++ f.top ++ "\n" ++ causeLines f.causes

end Failure

end SpringScaffold
