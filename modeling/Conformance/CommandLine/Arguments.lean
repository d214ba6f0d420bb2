/-!
# Arguments

The commands of the program and their options.

## Main definitions

- `RunArguments` — what `run` can be told
- `Command` — what the program is asked to do
- `Command.parse` — reads the arguments
-/

namespace Conformance.CommandLine

/-- What `run` can be told. -/
structure RunArguments where
  features : List String := []
  server : String := "loopback"
  directServer : Option String := none
  ns : String := "default"
  clientCertPath : Option String := none
  clientKeyPath : Option String := none
  proxyControlUri : Option String := none
  summaryUri : Option String := none
  fixturesDir : String := "features"
  generateHistory : Bool := false
  logLevel : String := "info"
  logFile : Option String := none
  deriving DecidableEq, Repr, Inhabited

/-- What the program is asked to do. -/
inductive Command where
  | run (arguments : RunArguments)
  | list
  | version
  | help
  | unusable
  deriving DecidableEq, Repr, Inhabited

/-- An option that takes a value: whether the value may be empty, and where it goes. -/
structure ValueOption where
  name : String
  mayBeEmpty : Bool
  store : RunArguments → String → RunArguments

/-- The options of `run` that take a value. -/
def valueOptions : List ValueOption :=
  [⟨"server", true, fun a v => { a with server := v }⟩,
    ⟨"direct-server", true, fun a v => { a with directServer := some v }⟩,
    ⟨"namespace", true, fun a v => { a with ns := v }⟩,
    ⟨"client-cert-path", false, fun a v => { a with clientCertPath := some v }⟩,
    ⟨"client-key-path", false, fun a v => { a with clientKeyPath := some v }⟩,
    ⟨"proxy-control-uri", true, fun a v => { a with proxyControlUri := some v }⟩,
    ⟨"summary-uri", true, fun a v => { a with summaryUri := some v }⟩,
    ⟨"fixtures-dir", false, fun a v => { a with fixturesDir := v }⟩,
    ⟨"log-level", true, fun a v => { a with logLevel := v }⟩,
    ⟨"log-file", false, fun a v => { a with logFile := some v }⟩]

/-- What stands before and after the first occurrence of a character, if there is one. -/
def splitOnce (mark : Char) (s : String) : Option (String × String) :=
  match s.toList.span (· ≠ mark) with
  | (before, _ :: after) => some (String.ofList before, String.ofList after)
  | _ => none

/-- Whether an argument is an option rather than a value. A single dash is a value. -/
def looksLikeOption (s : String) : Bool := s.startsWith "-" && s ≠ "-"

/-- The first letter of a group of short options. -/
def shortOption? (s : String) : Option Char :=
  match s.toList with
  | '-' :: '-' :: _ => none
  | '-' :: c :: _ => some c
  | _ => none

/-- The name of a long option and the value attached to it. -/
def longOption? (s : String) : Option (String × Option String) :=
  if s.startsWith "--" then
    let body := String.ofList (s.toList.drop 2)
    match splitOnce '=' body with
    | some (name, value) => some (name, some value)
    | none => some (body, none)
  else none

/-- Stores the value of an option, which must not have been given before. -/
def storeOption (seen : List String) (a : RunArguments) (o : ValueOption) (value : String) :
    Option (RunArguments × List String) :=
  if seen.contains o.name || (value.isEmpty && !o.mayBeEmpty) then none
  else some (o.store a value, o.name :: seen)

/-- Reads the arguments of `run`. After two dashes everything is a feature. -/
def parseRun (seen : List String) (a : RunArguments) : List String → Command
  | [] => .run a
  | "--" :: rest => .run { a with features := a.features ++ rest }
  | "--help" :: _ => .help
  | arg :: rest =>
    match longOption? arg with
    | none =>
      if shortOption? arg = some 'h' then .help
      else if looksLikeOption arg then .unusable
      else parseRun seen { a with features := a.features ++ [arg] } rest
    | some ("generate-history", attached) =>
      if attached.isSome || seen.contains "generate-history" then .unusable
      else parseRun ("generate-history" :: seen) { a with generateHistory := true } rest
    | some (name, attached) =>
      match valueOptions.find? fun o => o.name = name with
      | none => .unusable
      | some o =>
        match attached, rest with
        | some value, rest =>
          match storeOption seen a o value with
          | some (a, seen) => parseRun seen a rest
          | none => .unusable
        | none, value :: rest =>
          if looksLikeOption value then .unusable
          else
            match storeOption seen a o value with
            | some (a, seen) => parseRun seen a rest
            | none => .unusable
        | none, [] => .unusable

/-- Reads the arguments of the program. -/
def Command.parse : List String → Command
  | "--version" :: _ => .version
  | "--help" :: _ => .help
  | ["help"] | ["help", "run"] | ["help", "list"] | ["help", "help"] => .help
  | ["list"] | ["list", "--"] => .list
  | "list" :: "--help" :: _ => .help
  | "list" :: arg :: _ => if shortOption? arg = some 'h' then .help else .unusable
  | "run" :: rest => parseRun [] {} rest
  | arg :: _ =>
    match shortOption? arg with
    | some 'V' => .version
    | some 'h' => .help
    | _ => .unusable
  | [] => .unusable

end Conformance.CommandLine
