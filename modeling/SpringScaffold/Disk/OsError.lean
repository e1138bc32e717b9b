/-! Why the operating system refuses to work on a file. -/

namespace SpringScaffold

inductive OsError where
  | notFound
  | busy
  | exists
  | notDirectory
  | isDirectory
  | invalidArgument
  | nameTooLong
  | notEmpty
  /-- The path holds a character that ends it. -/
  | nulInPath
  /-- The content is no text. -/
  | notText
  | other (message : String)
  deriving DecidableEq, Repr, Inhabited

namespace OsError

def numbered (text : String) (code : Nat) : String := text ++ " (os error " ++ toString code ++ ")"

def message : OsError → String
  | .notFound => numbered "No such file or directory" 2
  | .busy => numbered "Device or resource busy" 16
  | .exists => numbered "File exists" 17
  | .notDirectory => numbered "Not a directory" 20
  | .isDirectory => numbered "Is a directory" 21
  | .invalidArgument => numbered "Invalid argument" 22
  | .nameTooLong => numbered "File name too long" 36
  | .notEmpty => numbered "Directory not empty" 39
  | .nulInPath => "file name contained an unexpected NUL byte"
  | .notText => "stream did not contain valid UTF-8"
  | .other message => message

end OsError

end SpringScaffold
