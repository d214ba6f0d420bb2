import Conformance.Summary.Entry
import Conformance.Summary.Target
import Conformance.World

/-!
# Writing summaries

A sink takes one entry after another. A file is appended to; a listener receives a stream.

## Main definitions

- `SummaryTarget.connect`, `SummaryTarget.write`, `SummaryTarget.close` — the life of a sink
-/

namespace Conformance.SummaryTarget

/-- Opens a sink. A missing file is created. -/
def connect (t : SummaryTarget) (w : World) : Except Error Unit × World :=
  match t with
  | tcp address =>
    match w.network.connect address with
    | .ok () => (.ok (), w)
    | .error e => (.error (.io e.message), w)
  | file path =>
    match w.files.openToAppend path with
    | .ok files => (.ok (), { w with files })
    | .error e => (.error (.io e.message), w)

/-- Writes an entry. -/
def write (t : SummaryTarget) (entry : SummaryEntry) (w : World) : Except Error Unit × World :=
  let bytes := Text.bytesOf entry.line
  match t with
  | tcp _ =>
    match w.network.send bytes with
    | (.ok (), network) => (.ok (), { w with network })
    | (.error e, network) => (.error (.io e.message), { w with network })
  | file path =>
    match w.files.append path bytes with
    | .ok files => (.ok (), { w with files })
    | .error e => (.error (.io e.message), w)

/-- Ends a sink. -/
def close (t : SummaryTarget) (w : World) : Except Error Unit :=
  match t with
  | tcp _ =>
    match w.network.close with
    | .ok () => .ok ()
    | .error e => .error (.io e.message)
  | file _ => .ok ()

/-- Writes entries one after another, up to the first that fails. -/
def writeAll (t : SummaryTarget) : List SummaryEntry → World → Except Error Unit × World
  | [], w => (.ok (), w)
  | e :: rest, w =>
    match t.write e w with
    | (.ok (), w) => writeAll t rest w
    | (.error e, w) => (.error e, w)

end Conformance.SummaryTarget
