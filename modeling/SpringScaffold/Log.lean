/-! What a run reports on its way. -/

namespace SpringScaffold

inductive LogEntry where
  | runningStage (name : String)
  | finished (operations models groups : Nat)
  /-- The operations of a group disagree on what describes the group. -/
  | differingDescriptions (group : String)
  | unmappedImport (id : String)
  deriving DecidableEq, Repr

namespace LogEntry

def level : LogEntry → String
  | .runningStage _ | .unmappedImport _ => "DEBUG"
  | .finished .. => "INFO"
  | .differingDescriptions _ => "WARN"

def text : LogEntry → String
  | .runningStage name => "running stage " ++ name
  | .finished operations models groups =>
    "post-processed " ++ toString operations ++ " operations, " ++ toString models ++ " models, "
      ++ toString groups ++ " groups"
  | .differingDescriptions group =>
    "operations in group " ++ group
      ++ " have different tag descriptions; using the first operation's"
  | .unmappedImport id => "no import mapping for " ++ id

def line (e : LogEntry) : String := e.level ++ ": " ++ e.text

end LogEntry

end SpringScaffold
