import Conformance.CommandLine.Arguments
import Conformance.Config
import Conformance.Features.Registry
import Conformance.Files.Tree

/-!
# Selecting features and reading settings

The arguments of `run` name features, each with an optional task queue, and the settings that all
of their runs share.

## Main definitions

- `Selection` — a feature and its task queue
- `select` — the features that the arguments name
- `loadTls`, `baseConfig` — the shared settings
-/

namespace Conformance.CommandLine

/-- A feature to run, and the task queue on which it runs. -/
structure Selection where
  prepared : PreparedFeature
  taskQueue : String

/-- The directory and the task queue in an argument. An empty task queue is none. -/
def splitFeature (arg : String) : String × Option String :=
  match splitOnce ':' arg with
  | some (dir, queue) => (dir, if queue.isEmpty then none else some queue)
  | none => (arg, none)

/-- The task queue of a feature for which none is given. -/
def defaultQueue (dir runId : String) : String :=
  "features-" ++ String.ofList (dir.toList.map fun c => if c = '/' then '-' else c) ++ "-" ++ runId

/-- Looks one feature up. -/
def selectOne (runId : String) (request : String × Option String) : Except Error Selection :=
  match Features.find? request.1 with
  | some prepared => .ok ⟨prepared, request.2.getD (defaultQueue request.1 runId)⟩
  | none => .error (.featureNotFound request.1)

/-- The features that the arguments name, all of them if there are no arguments. -/
def select (args : List String) (runId : String) : Except Error (List Selection) :=
  let requests :=
    if args.isEmpty then Features.all.map fun f => (f.dir, none) else args.map splitFeature
  requests.mapM (selectOne runId)

/-- Reads a file for the settings. -/
def readFor (files : FileTree) (path what : String) : Except Error (List UInt8) :=
  match files.read (Text.bytesOf path) with
  | .ok bytes => .ok bytes
  | .error e => .error (.config ("Failed to read " ++ what ++ " " ++ path ++ ": " ++ e.message))

/-- Reads the certificate and the key of the client. Both are given or none. -/
def loadTls (files : FileTree) : Option String → Option String → Except Error (Option TlsMaterial)
  | none, none => .ok none
  | some certificate, some key => do
    let certificate ← readFor files certificate "client certificate"
    let key ← readFor files key "client key"
    return some { certificate, key }
  | _, _ =>
    .error (.config "client cert path and key path must both be set or both be unset")

/-- Reads the control endpoint of the proxy. -/
def readControl : Option String → Except Error (Option Url)
  | none => .ok none
  | some uri =>
    match Url.parse uri with
    | .ok url => .ok (some url)
    | .error e =>
      .error (.config ("Invalid proxy control URI '" ++ uri ++ "': " ++ e.message))

/-- The settings that all runs share. -/
def baseConfig (files : FileTree) (a : RunArguments) : Except Error Config := do
  let tls ← loadTls files a.clientCertPath a.clientKeyPath
  let proxyControl ← readControl a.proxyControlUri
  return { server := a.server
           directServer := a.directServer
           ns := a.ns
           taskQueue := ""
           tls, proxyControl
           fixturesDir := a.fixturesDir
           generateHistory := a.generateHistory }

end Conformance.CommandLine
