import Conformance.Files.Tree
import Conformance.History.Codec
import Conformance.Worker

/-!
# Stored histories

Histories recorded by earlier versions of an SDK are kept in files, one per version. Every
history of a version that is not newer than the current one has to replay against the workflow
code of today.

## Main definitions

- `FixtureStore` — the directory and the SDK whose files count
- `FixtureStore.discover` — the files, in version order
- `FixtureStore.loadUpTo` — the histories of all versions up to the current one
- `FixtureStore.store` — writes the histories of a version
- `verifyCurrent`, `verifyPast` — replay on a worker
-/

namespace Conformance

/-- Where the histories of a feature are kept, and the SDK that recorded them. -/
structure FixtureStore where
  dir : String
  sdk : String
  deriving DecidableEq, Repr, Inhabited

/-- A file of histories and the version in its name. -/
structure FixtureFile where
  version : Version
  path : String
  deriving DecidableEq, Repr, Inhabited

/-- Histories by version, in ascending order of versions. -/
abbrev PastHistories := List (Version × List History)

namespace PastHistories

/-- Adds histories under a version, after those that are there. -/
def add (version : Version) (histories : List History) : PastHistories → PastHistories
  | [] => [(version, histories)]
  | (v, hs) :: rest =>
    match version.compare v with
    | .lt => (version, histories) :: (v, hs) :: rest
    | .eq => (v, hs ++ histories) :: rest
    | .gt => (v, hs) :: add version histories rest

end PastHistories

namespace FixtureStore

/-- The store of a feature below the root of all fixtures. -/
def forFeature (root featureDir sdk : String) : FixtureStore :=
  ⟨Path.push ((Path.segments featureDir).foldl Path.push root) "history", sdk⟩

/-- What the names of all files of this SDK start with. -/
def nameStart (s : FixtureStore) : String := "history." ++ s.sdk ++ "."

/-- The name of the file of a version. -/
def fileName (s : FixtureStore) (version : String) : String :=
  s.nameStart ++ version ++ ".json"

/-- The part of a file name that stands for the version. -/
def versionText? (s : FixtureStore) (name : String) : Option String :=
  let start := s.nameStart.toList
  let suffix := ".json".toList
  let cs := name.toList
  if start.isPrefixOf cs then
    let rest := cs.drop start.length
    if suffix.isSuffixOf rest then some (String.ofList (rest.take (rest.length - suffix.length)))
    else none
  else none

/-- The fixture that a name in the directory stands for, if it stands for one. Names of what is no
file, and names that are no texts, are passed over. -/
def fixtureOf? (s : FixtureStore) (files : FileTree) (name : FileName) :
    Except Error (Option FixtureFile) :=
  match Text.ofBytes? name with
  | none => .ok none
  | some name =>
    let path := Path.push s.dir name
    if files.isFile (Text.bytesOf path) then
      match s.versionText? name with
      | none => .ok none
      | some raw =>
        match Version.parse raw with
        | .ok version => .ok (some ⟨version, path⟩)
        | .error e => .error (.invalidFixture path ("has invalid version: " ++ e.message))
    else .ok none

/-- The fixtures among the names in the directory, in the order of the names. -/
def fixturesOf (s : FixtureStore) (files : FileTree) :
    List FileName → Except Error (List FixtureFile)
  | [] => .ok []
  | name :: rest => do
    let found ← s.fixtureOf? files name
    let others ← s.fixturesOf files rest
    return found.toList ++ others

/-- The fixtures of this SDK, in version order. A missing directory has none. -/
def discover (s : FixtureStore) (files : FileTree) : Except Error (List FixtureFile) :=
  match files.list (Text.bytesOf s.dir) with
  | .error .notFound => .ok []
  | .error e => .error (.io e.message)
  | .ok entries => do
    let found ← s.fixturesOf files (entries.map (·.1))
    return found.mergeSort fun a b => a.version.upTo b.version

/-- The histories in a file. -/
def read (files : FileTree) (path : String) : Except Error (List History) :=
  match files.readText (Text.bytesOf path) with
  | .error e => .error (.invalidFixture path e.message)
  | .ok text =>
    match (Json.ofText? text).bind Json.arr? with
    | none => .error (.invalidFixture path "has invalid JSON: expected an array of histories")
    | some values =>
      match values.mapM History.ofJson? with
      | none => .error (.invalidFixture path "has invalid history: unexpected form")
      | some histories => .ok histories

/-- Reads the files of versions up to the current one and joins those of equal versions. -/
def loadFiles (files : FileTree) (current : Version) (past : PastHistories) :
    List FixtureFile → Except Error PastHistories
  | [] => .ok past
  | f :: rest =>
    if f.version.upTo current then do
      let histories ← read files f.path
      loadFiles files current (PastHistories.add f.version histories past) rest
    else loadFiles files current past rest

/-- The histories of all versions up to the current one. -/
def loadUpTo (s : FixtureStore) (files : FileTree) (current : Version) :
    Except Error PastHistories := do
  loadFiles files current [] (← s.discover files)

/-- The text of a file of histories. -/
def fileText (histories : List History) : String :=
  (Json.arr (histories.map History.encode)).pretty

/-- Writes the histories of a version and tells the path of the file. -/
def store (s : FixtureStore) (files : FileTree) (version : String) (histories : List History) :
    Except Error String × FileTree :=
  match files.makeAll (Text.bytesOf s.dir) with
  | (.error e, files) => (.error (.io e.message), files)
  | (.ok (), files) =>
    let path := Path.push s.dir (s.fileName version)
    match files.write (Text.bytesOf path) (Text.bytesOf (fileText histories)) with
    | .error e => (.error (.io e.message), files)
    | .ok files => (.ok path, files)

end FixtureStore

/-- Replays the history of the current version. -/
def verifyCurrent (w : Worker) (h : History) : Except Error Unit :=
  match w.replay h with
  | .ok () => .ok ()
  | .error e => .error (.replay none e.message)

/-- Replays the histories of one version, up to the first that fails. -/
def verifyVersion (w : Worker) (version : Version) : List History → Except Error Unit
  | [] => .ok ()
  | h :: rest =>
    match w.replay h with
    | .ok () => verifyVersion w version rest
    | .error e => .error (.replay (some version) e.message)

/-- Replays past histories in version order, up to the first that fails. -/
def verifyPast (w : Worker) : PastHistories → Except Error Unit
  | [] => .ok ()
  | (version, histories) :: rest =>
    match verifyVersion w version histories with
    | .ok () => verifyPast w rest
    | .error e => .error e

end Conformance
