import SpringScaffold.Command.Run

/-! The command line program. -/

namespace SpringScaffold

namespace OsError

/-- Codes may come with their sign turned, as words of 32 bits. -/
def ofCode (code : UInt32) (details : String) : OsError :=
  match min code.toNat (-code).toNat with
  | 2 => .notFound
  | 16 => .busy
  | 17 => .exists
  | 20 => .notDirectory
  | 21 => .isDirectory
  | 22 => .invalidArgument
  | 36 => .nameTooLong
  | 39 => .notEmpty
  | n => .other (numbered details n)

def ofError : IO.Error → OsError
  | .alreadyExists _ code details | .invalidArgument _ code details
  | .permissionDenied _ code details
  | .resourceExhausted _ code details | .inappropriateType _ code details
  | .noSuchThing _ code details | .noFileOrDirectory _ code details | .interrupted _ code details
  | .otherError code details | .resourceBusy code details | .resourceVanished code details
  | .unsupportedOperation code details | .hardwareFault code details
  | .unsatisfiedConstraints code details | .illegalOperation code details
  | .protocolError code details | .timeExpired code details => ofCode code details
  | .unexpectedEof => .other "unexpected end of file"
  | .userError message => .other message

end OsError

def guarded {α : Type} (step : IO α) : IO (Except OsError α) := do
  match ← step.toBaseIO with
  | .ok a => return .ok a
  | .error e => return .error (.ofError e)

def isThere (path : String) : IO Bool := return (← guarded (IO.FS.realPath path)).isOk

def makeDirectories : (longestFirst : List String) → IO (Except OsError Unit)
  | [] => return .ok ()
  | p :: shorter => do
    let make : IO (Except OsError Unit) := do
      match ← guarded (IO.FS.createDir p) with
      | .error .exists => if ← isThere (p ++ "/.") then return .ok () else return .error .exists
      | result => return result
    match ← make with
    | .error .notFound =>
      match ← makeDirectories shorter with
      | .ok () => make
      | failed => return failed
    | result => return result

instance : Host IO where
  exists? := isThere
  read path := do
    match ← guarded (IO.FS.readBinFile path) with
    | .ok bytes => return ((String.fromUTF8? bytes).map .ok).getD (.error .notText)
    | .error e => return .error e
  write path content := guarded (IO.FS.writeFile path content)
  createDirectories path := makeDirectories (Path.ancestors path)
  rename source target := guarded (IO.FS.rename source target)
  note := IO.eprintln

end SpringScaffold

def main (args : List String) : IO UInt32 := do
  let outcome : SpringScaffold.Outcome ← SpringScaffold.runCommand args
  IO.print outcome.output
  IO.eprint outcome.errorText
  return outcome.code.toUInt32
