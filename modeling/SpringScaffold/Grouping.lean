import SpringScaffold.Config
import SpringScaffold.Log
import SpringScaffold.Spec

/-! Grouping operations. Two operations share a group when their keys have the same Pascal case,
which names the rendered files. A group carries the name of the key that came first. -/

namespace SpringScaffold

namespace Operation

/-- The key of an operation that has none of its own. -/
def defaultKey : String := "default"

def tagKey (o : Operation) : String := (o.tags.head?.map (·.name)).getD defaultKey

/-- The first segment of the path that is neither empty nor a variable. -/
def routeKey (o : Operation) : String :=
  let segments :=
    (Text.splitOn ['/'] o.path.toList).filter fun s => !s.isEmpty && s.head? != some '\x7b'
  (segments.head?.map String.ofList).getD defaultKey

def key (o : Operation) : GroupBy → String
  | .tag => o.tagKey
  | .route => o.routeKey

def firstDescription (o : Operation) : Option String := o.tags.head?.bind (·.description)

end Operation

namespace Group

/-- Adds an operation to the group of its name, or opens the group at the end. -/
def place (name : Name) (index : Nat) : List Group → List Group
  | [] => [⟨name, [index], none⟩]
  | g :: rest =>
    if g.name.pascal = name.pascal then { g with operations := g.operations ++ [index] } :: rest
    else g :: place name index rest

end Group

namespace Spec

def descriptionAt (s : Spec) (index : Nat) : Option String :=
  (s.operations[index]?).bind Operation.firstDescription

/-- The groups before they are described. -/
def draftGroups (s : Spec) (mode : GroupBy) : List Group :=
  s.operations.zipIdx.foldl (fun groups (o, i) => Group.place ⟨o.key mode⟩ i groups) []

/-- A group is described by the first tag of its first operation. -/
def describe (s : Spec) (g : Group) : Group :=
  { g with description := g.operations.head?.bind s.descriptionAt }

def groupOperations (s : Spec) (mode : GroupBy) : List Group := (s.draftGroups mode).map s.describe

def isDisputed (s : Spec) (g : Group) : Bool :=
  g.operations.tail.any fun i => s.descriptionAt i != g.description

/-- One warning for each group whose operations are described in different ways. -/
def groupLog (s : Spec) (mode : GroupBy) : List LogEntry :=
  ((s.groupOperations mode).filter s.isDisputed).map fun g => .differingDescriptions g.name.written

end Spec

end SpringScaffold
