import SpringScaffold.Disk.OsError
import SpringScaffold.Disk.Path

/-! File trees and the operations on them. The directory at the top of the tree is both the working
directory and the root, and what leads upwards from there stays there. -/

namespace SpringScaffold

inductive FileTree where
  | file (content : ByteArray)
  | directory (entries : List (String × FileTree))
  deriving Inhabited

namespace FileTree

def empty : FileTree := .directory []

def isDirectory : FileTree → Bool
  | .directory _ => true
  | .file _ => false

/-- What is at a place, given by the names that lead there from the top. -/
def get? : FileTree → List String → Option FileTree
  | t, [] => some t
  | .directory entries, name :: rest => (entries.lookup name).bind fun t => t.get? rest
  | .file _, _ :: _ => none

def putEntry (name : String) (t : FileTree) : List (String × FileTree) → List (String × FileTree)
  | [] => [(name, t)]
  | (n, u) :: rest => if n = name then (n, t) :: rest else (n, u) :: putEntry name t rest

/-- Puts a tree at a place whose directory exists, or clears the place. -/
def set (new : Option FileTree) : List String → FileTree → FileTree
  | [], t => new.getD t
  | [name], .directory entries =>
    .directory (match new with
      | some t => putEntry name t entries
      | none => entries.filter (·.1 != name))
  | name :: rest, .directory entries =>
    .directory (entries.map fun (n, t) => (n, if n = name then set new rest t else t))
  | _ :: _, .file content => .file content

/-- The end of a path: the directory in which it lies, which exists, and its name there. A path that
ends at a directory without naming it has no name. -/
structure Place where
  parent : List String
  name? : Option String
  /-- A slash at the end asks for a directory. -/
  slash : Bool
  deriving DecidableEq, Repr

def longestName : Nat := 255

def longestPath : Nat := 4095

/-- Walks down existing directories. -/
def enter (t : FileTree) (place : List String) : List String → Except OsError (List String)
  | [] => .ok place
  | part :: rest =>
    if part = "" || part = "." then enter t place rest
    else if part = ".." then enter t place.dropLast rest
    else if part.utf8ByteSize > longestName then .error .nameTooLong
    else
      match t.get? (place ++ [part]) with
      | some (.directory _) => enter t (place ++ [part]) rest
      | some (.file _) => .error .notDirectory
      | none => .error .notFound

/-- Finds the end of a path. What the path names there need not exist. -/
def locate (t : FileTree) (p : String) : Except OsError Place := do
  if p.toList.contains (Char.ofNat 0) then .error .nulInPath
  if p = "" then .error .notFound
  if p.utf8ByteSize > longestPath then .error .nameTooLong
  let segments := (Text.splitOn ['/'] p.toList).map String.ofList
  let named := (segments.reverse.dropWhile (· == "")).reverse
  match named.getLast? with
  | none => return ⟨[], none, false⟩
  | some last => do
    let parent ← t.enter [] named.dropLast
    if last = "." || last = ".." then
      let place ← t.enter parent [last]
      return ⟨place, none, false⟩
    if last.utf8ByteSize > longestName then .error .nameTooLong
    return ⟨parent, some last, named.length < segments.length⟩

def at? (t : FileTree) (place : Place) : Option FileTree :=
  t.get? (place.parent ++ place.name?.toList)

/-- What a path leads to. -/
def open? (t : FileTree) (p : String) : Except OsError FileTree := do
  let place ← t.locate p
  match t.at? place with
  | none => .error .notFound
  | some (.file content) => if place.slash then .error .notDirectory else return .file content
  | some d => return d

def exists? (t : FileTree) (p : String) : Bool := (t.open? p).isOk

def read (t : FileTree) (p : String) : Except OsError String := do
  match ← t.open? p with
  | .directory _ => .error .isDirectory
  | .file content =>
    match String.fromUTF8? content with
    | some s => return s
    | none => .error .notText

def write (t : FileTree) (p : String) (content : String) : Except OsError FileTree := do
  let place ← t.locate p
  match place.name? with
  | none => .error .isDirectory
  | some name =>
    if place.slash then .error .isDirectory
    match t.at? place with
    | some (.directory _) => .error .isDirectory
    | _ => return t.set (some (.file content.toUTF8)) (place.parent ++ [name])

/-- Makes one directory. -/
def makeDirectory (t : FileTree) (p : String) : Except OsError FileTree := do
  let place ← t.locate p
  match place.name?, t.at? place with
  | some name, none => return t.set (some empty) (place.parent ++ [name])
  | _, _ => .error .exists

/-- Makes a directory, which may be there already. -/
def ensureDirectory (t : FileTree) (p : String) : Except OsError FileTree :=
  match t.makeDirectory p with
  | .error .exists =>
    match t.open? p with
    | .ok (.directory _) => .ok t
    | _ => .error .exists
  | r => r

/-- Makes a directory and, where they are missing, those that lead to it. What was made before a
failure stays. -/
def ensureAll (t : FileTree) : (longestFirst : List String) → Except OsError Unit × FileTree
  | [] => (.ok (), t)
  | p :: shorter =>
    match t.ensureDirectory p with
    | .ok t => (.ok (), t)
    | .error .notFound =>
      match t.ensureAll shorter with
      | (.ok (), t) =>
        match t.ensureDirectory p with
        | .ok t => (.ok (), t)
        | .error e => (.error e, t)
      | failed => failed
    | .error e => (.error e, t)

def createDirectories (t : FileTree) (p : String) : Except OsError Unit × FileTree :=
  t.ensureAll (Path.ancestors p)

/-- Moves a file or a directory with all below it. A file replaces a file, a directory an empty
directory. -/
def rename (t : FileTree) (source target : String) : Except OsError FileTree := do
  let s ← t.locate source
  let d ← t.locate target
  match s.name?, d.name? with
  | some sourceName, some targetName =>
    let sourcePath := s.parent ++ [sourceName]
    let targetPath := d.parent ++ [targetName]
    match t.get? sourcePath with
    | none => .error .notFound
    | some moved =>
      if !moved.isDirectory && (s.slash || d.slash) then .error .notDirectory
      if sourcePath = targetPath then return t
      if sourcePath.isPrefixOf targetPath then .error .invalidArgument
      if targetPath.isPrefixOf sourcePath then .error .notEmpty
      match moved, t.get? targetPath with
      | .file _, some (.directory _) => .error .isDirectory
      | .directory _, some (.file _) => .error .notDirectory
      | .directory _, some (.directory (_ :: _)) => .error .notEmpty
      | _, _ => return (t.set none sourcePath).set (some moved) targetPath
  | _, _ => .error .busy

end FileTree

end SpringScaffold
