import Conformance.Files.Path
import Conformance.Table

/-!
# Files

A file system as a table of absolute locations. Every operation walks its path from the root or
from the current directory, so that it fails in the way, and with the wording, of the operating
system.

## Main definitions

- `FileTree` — the entries and the current directory
- `FileTree.read`, `FileTree.readText` — the content of a file
- `FileTree.write`, `FileTree.openToAppend`, `FileTree.append` — change or create a file
- `FileTree.makeAll` — creates a directory and those above it
- `FileTree.list` — the entries of a directory
-/

namespace Conformance

/-- Why an operation on files fails. -/
inductive FileError where
  | notFound
  | alreadyExists
  | notDirectory
  | isDirectory
  | nameTooLong
  | nulByte
  | notText
  | unreachable
  deriving DecidableEq, Repr, Inhabited

/-- The wording of a file error. -/
def FileError.message : FileError → String
  | notFound => "No such file or directory (os error 2)"
  | alreadyExists => "File exists (os error 17)"
  | notDirectory => "Not a directory (os error 20)"
  | isDirectory => "Is a directory (os error 21)"
  | nameTooLong => "File name too long (os error 36)"
  | nulByte => "file name contained an unexpected NUL byte"
  | notText => "stream did not contain valid UTF-8"
  | unreachable => "Network is unreachable (os error 101)"

/-- An entry of a directory. -/
inductive FileNode where
  | directory
  | file (content : List UInt8)
  deriving DecidableEq, Repr, Inhabited

/-- The names on the way from the root to an entry. -/
abbrev Location := List FileName

/-- A file system with a current directory. -/
structure FileTree where
  nodes : Table Location FileNode := Table.empty
  current : Location := []
  deriving DecidableEq, Inhabited

namespace FileTree

/-- The entry at a location. The root always exists. -/
def node? (t : FileTree) (loc : Location) : Option FileNode :=
  if loc = [] then some .directory else t.nodes.get? loc

/-- Walks from a directory through names: the location behind the last name, where all before it
are directories. -/
def walk (t : FileTree) (loc : Location) : List FileName → Except FileError Location
  | [] => .ok loc
  | name :: rest =>
    match t.node? loc with
    | none => .error .notFound
    | some (.file _) => .error .notDirectory
    | some .directory =>
      if 255 < name.length then .error .nameTooLong
      else if name = [0x2E] then walk t loc rest
      else if name = [0x2E, 0x2E] then walk t loc.dropLast rest
      else walk t (loc ++ [name]) rest

/-- The location that a path denotes. -/
def locate (t : FileTree) (path : RawPath) : Except FileError Location :=
  if path.contains 0 then .error .nulByte
  else if path.isEmpty then .error .notFound
  else if 4095 < path.length then .error .nameTooLong
  else t.walk (if Path.isAbsolute path then [] else t.current) (Path.parts path)

/-- The location and the entry that a path denotes. A path that ends in a slash denotes no
file. -/
def find (t : FileTree) (path : RawPath) : Except FileError (Location × FileNode) := do
  let loc ← t.locate path
  match t.node? loc with
  | none => throw .notFound
  | some .directory => return (loc, .directory)
  | some (.file content) =>
    if Path.wantsDirectory path then throw .notDirectory
    return (loc, .file content)

/-- The bytes of a file. -/
def read (t : FileTree) (path : RawPath) : Except FileError (List UInt8) := do
  match ← t.find path with
  | (_, .directory) => throw .isDirectory
  | (_, .file content) => return content

/-- The text of a file. -/
def readText (t : FileTree) (path : RawPath) : Except FileError String := do
  match Text.ofBytes? (← t.read path) with
  | some s => return s
  | none => throw .notText

/-- Whether a path denotes a directory. -/
def isDirectory (t : FileTree) (path : RawPath) : Bool :=
  match t.find path with
  | .ok (_, .directory) => true
  | _ => false

/-- Whether a path denotes a file. -/
def isFile (t : FileTree) (path : RawPath) : Bool :=
  match t.find path with
  | .ok (_, .file _) => true
  | _ => false

/-- The location of a file to be written, whose directory exists. -/
def target (t : FileTree) (path : RawPath) : Except FileError Location := do
  let loc ← t.locate path
  match t.node? loc with
  | some .directory => throw .isDirectory
  | some (.file _) => if Path.wantsDirectory path then throw .notDirectory else return loc
  | none =>
    match t.node? loc.dropLast with
    | some .directory => if Path.wantsDirectory path then throw .isDirectory else return loc
    | some (.file _) => throw .notDirectory
    | none => throw .notFound

/-- Stores an entry at a location. -/
def put (t : FileTree) (loc : Location) (node : FileNode) : FileTree :=
  { t with nodes := t.nodes.insert loc node }

/-- Writes a file, replacing its content. -/
def write (t : FileTree) (path : RawPath) (content : List UInt8) : Except FileError FileTree := do
  return t.put (← t.target path) (.file content)

/-- Creates a file unless it exists. -/
def openToAppend (t : FileTree) (path : RawPath) : Except FileError FileTree := do
  let loc ← t.target path
  match t.node? loc with
  | some _ => return t
  | none => return t.put loc (.file [])

/-- Adds bytes to the end of a file. -/
def append (t : FileTree) (path : RawPath) (bytes : List UInt8) : Except FileError FileTree := do
  let loc ← t.target path
  match t.node? loc with
  | some (.file content) => return t.put loc (.file (content ++ bytes))
  | _ => return t.put loc (.file bytes)

/-- Creates one directory. -/
def make (t : FileTree) (path : RawPath) : Except FileError FileTree := do
  let loc ← t.locate path
  match t.node? loc with
  | some _ => throw .alreadyExists
  | none =>
    match t.node? loc.dropLast with
    | some .directory => return t.put loc .directory
    | some (.file _) => throw .notDirectory
    | none => throw .notFound

/-- The path made of the given names. -/
def pathOf (absolute : Bool) (names : List FileName) : RawPath :=
  let joined := names.flatMap fun n => Path.slash :: n
  if absolute then joined else joined.drop 1

/-- The directories above the one with the given names, the innermost first. -/
def ancestors (absolute : Bool) (names : List FileName) : List RawPath :=
  match _h : (Path.withoutDots names).dropLast with
  | [] => []
  | name :: rest => pathOf absolute (Path.withoutDots (name :: rest)) :: ancestors absolute (name :: rest)
termination_by names.length
decreasing_by
  have shorter := congrArg List.length _h
  have := Path.length_withoutDots_le names
  simp at shorter ⊢
  omega

/-- Looks for the first of several directories, from the innermost on, that exists or that can be
created: those before it, the outermost first, and the files with it. -/
def reach (t : FileTree) : List RawPath → Except FileError (List RawPath × FileTree)
  | [] => .ok ([], t)
  | path :: above =>
    match t.make path with
    | .ok t => .ok ([], t)
    | .error .notFound => do
      let (missing, t) ← t.reach above
      return (missing ++ [path], t)
    | .error e => if e = .alreadyExists && t.isDirectory path then .ok ([], t) else .error e

/-- Creates directories one after another, up to the first that fails; those before it stay. -/
def makeEach (t : FileTree) : List RawPath → Except FileError Unit × FileTree
  | [] => (.ok (), t)
  | path :: rest =>
    match t.make path with
    | .ok t => t.makeEach rest
    | .error e =>
      if e = .alreadyExists && t.isDirectory path then t.makeEach rest else (.error e, t)

/-- Creates a directory and those above it, as far as they are missing. What has been created
before an error stays. -/
def makeAll (t : FileTree) (path : RawPath) : Except FileError Unit × FileTree :=
  let names := Path.parts path
  if path.contains 0 then (.error .nulByte, t)
  else if Path.withoutDots names = [] then (.ok (), t)
  else
    match t.reach (path :: ancestors (Path.isAbsolute path) names) with
    | .ok (missing, t) => t.makeEach missing
    | .error e => (.error e, t)

/-- The entries of a directory. -/
def list (t : FileTree) (path : RawPath) : Except FileError (List (FileName × FileNode)) := do
  match ← t.find path with
  | (_, .file _) => throw .notDirectory
  | (loc, .directory) =>
    return t.nodes.entries.filterMap fun e =>
      match e.1.getLast? with
      | some name => if e.1.dropLast = loc then some (name, e.2) else none
      | none => none

/-- The files below a location, with the rest of their names. -/
def below (t : FileTree) (loc : Location) : List (Location × List UInt8) :=
  t.nodes.entries.filterMap fun e =>
    match e.2 with
    | .file content =>
      if loc.length < e.1.length && e.1.take loc.length = loc then
        some (e.1.drop loc.length, content)
      else none
    | .directory => none

end FileTree

end Conformance
