import Conformance.CommandLine.Run

/-!
# The executable

Runs the program on the files that its arguments name. The program works on a file tree; this
module fetches what the program may look at, and stores what it has changed. No listener and no
control endpoint is ever reached from here.
-/

namespace Conformance.Main

/-- The path that a location stands for, if all of its names are texts. -/
def pathOf (loc : Location) : Option String :=
  (loc.mapM Text.ofBytes?).map fun names => "/" ++ "/".intercalate names

/-- Fetches the entry at a location, with the directories above it. -/
def fetch (tree : FileTree) (loc : Location) : IO FileTree := do
  let root := (← IO.currentDir) / "/"
  let mut tree := tree
  for n in [1 : loc.length + 1] do
    let above := loc.take n
    if let some path := pathOf above then
      if ← (root / path).isDir then tree := tree.put above .directory
      else if ← (root / path).pathExists then
        tree := tree.put above (.file (← IO.FS.readBinFile path).toList)
  return tree

/-- Fetches the entries of a directory. -/
def fetchAll (tree : FileTree) (loc : Location) : IO FileTree := do
  let root := (← IO.currentDir) / "/"
  let mut tree ← fetch tree loc
  if let some path := pathOf loc then
    if ← (root / path).isDir then
      for entry in ← (root / path).readDir do
        tree ← fetch tree (loc ++ [Text.bytesOf entry.fileName])
  return tree

/-- The location of a path. -/
def locationOf (tree : FileTree) (path : RawPath) : Location :=
  if Path.isAbsolute path then Path.parts path else tree.current ++ Path.parts path

/-- The files that the settings name. -/
def namedFiles (a : CommandLine.RunArguments) : List RawPath :=
  let summary := match a.summaryUri.map SummaryTarget.parse with
    | some (.ok (.file path)) => [path]
    | _ => []
  [a.clientCertPath, a.clientKeyPath, a.logFile].filterMap (·.map Text.bytesOf) ++ summary

/-- Fetches everything that the program may look at. -/
def fetchFor (a : CommandLine.RunArguments) : IO FileTree := do
  let here ← IO.currentDir
  let mut tree : FileTree := { current := Path.parts (Text.bytesOf here.toString) }
  tree ← fetch tree tree.current
  for path in namedFiles a do
    tree ← fetch tree (locationOf tree path)
  for prepared in Features.all do
    let store := FixtureStore.forFeature a.fixturesDir prepared.dir ({} : Sdk).name
    tree ← fetchAll tree (locationOf tree (Text.bytesOf store.dir))
  return tree

/-- Stores the entries that are new or have changed. Directories come before what is in them. -/
def save (before after : FileTree) : IO Unit := do
  for (loc, node) in after.nodes.entries do
    if before.nodes.get? loc ≠ some node then
      if let some path := pathOf loc then
        match node with
        | .directory => IO.FS.createDirAll path
        | .file content => IO.FS.writeBinFile path ⟨content.toArray⟩

/-- Whether the report is coloured although it may not go to a terminal. -/
def forcesColour : IO Bool := do
  return match ← IO.getEnv "CLICOLOR_FORCE" with
    | some value => value ≠ "0"
    | none => false

/-- Runs the program with arguments, and tells its exit code. -/
def run (args : List String) : IO UInt32 := do
  let files ← match CommandLine.Command.parse args with
    | .run a => fetchFor a
    | _ => pure {}
  let runId := toString (← IO.monoMsNow)
  let (ended, w) := (CommandLine.execute ⟨← forcesColour⟩ runId args).run { files }
  save files w.files
  IO.print ended.output
  if let some e := ended.error then IO.eprintln ("Error: " ++ e.message)
  return UInt32.ofNat ended.exitCode

end Conformance.Main

/-- Runs the program. -/
def main (args : List String) : IO UInt32 := Conformance.Main.run args
