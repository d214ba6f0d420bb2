import Conformance.Proofs.Files.Writing
import Conformance.Proofs.Json.Records
import Conformance.Proofs.Text.Bytes
import Conformance.Summary.Sink

/-!
# The lines of a summary

A sink that writes to a file adds one line for each entry to what the file held. No line ends within
an entry, whatever its texts are, so the lines can be told apart, and each of them is read back as its
entry.

## Main definitions

- `Summary.linesOf`, `Summary.Ended` — the lines of a content, and whether all of them have an end
- `SummaryEntry.ofLine?` — reads the entry of a line
- `SummaryTarget.TakesLines` — a sink can be opened for a file

## Main statements

- `SummaryEntry.ofLine?_bytes` — an entry that is written is read back
- `SummaryTarget.writeAll_of_holds` — entries come after what is there
- `SummaryTarget.stream_of_file` — what a file holds after a sink has been closed
-/

namespace Conformance

/-! ## Lines -/

namespace Summary

/-- The end of a line. -/
def lineEnd : UInt8 := 0x0A

/-- The lines of a content. Bytes after the last line end are a line of their own. -/
def linesOf : List UInt8 → List (List UInt8)
  | [] => []
  | b :: rest =>
    if b = lineEnd then [] :: linesOf rest
    else
      match linesOf rest with
      | [] => [[b]]
      | line :: others => (b :: line) :: others

/-- Every line of the content has an end. -/
def Ended (content : List UInt8) : Prop := content = [] ∨ content.getLast? = some lineEnd

theorem ended_concat (content : List UInt8) : Ended (content ++ [lineEnd]) :=
  .inr List.getLast?_concat

theorem Ended.tail {b : UInt8} {rest : List UInt8} (h : Ended (b :: rest)) : Ended rest := by
  cases rest with
  | nil => exact .inl rfl
  | cons c rest => exact .inr (h.resolve_left (List.cons_ne_nil _ _))

theorem linesOf_ne_nil {content : List UInt8} (h : content ≠ []) : linesOf content ≠ [] := by
  cases content with
  | nil => exact absurd rfl h
  | cons b rest =>
    rw [linesOf]
    split
    · exact List.cons_ne_nil _ _
    · split <;> exact List.cons_ne_nil _ _

/-- Lines that come after lines that have ended. -/
theorem linesOf_append {before : List UInt8} (h : Ended before) (after : List UInt8) :
    linesOf (before ++ after) = linesOf before ++ linesOf after := by
  induction before with
  | nil => rfl
  | cons b rest ih =>
    rw [List.cons_append, linesOf, linesOf, ih h.tail]
    split
    · rfl
    · rename_i hb
      have hrest : rest ≠ [] := by
        rintro rfl
        exact hb (Option.some.inj (h.resolve_left (List.cons_ne_nil _ _)))
      obtain ⟨line, others, hlines⟩ := List.exists_cons_of_ne_nil (linesOf_ne_nil hrest)
      rw [hlines]
      rfl

/-- A line and its end. -/
theorem linesOf_line {line : List UInt8} (h : lineEnd ∉ line) : linesOf (line ++ [lineEnd]) = [line] := by
  induction line with
  | nil => rfl
  | cons b rest ih =>
    have hb : b ≠ lineEnd := fun hb => h (hb ▸ List.mem_cons_self)
    rw [List.cons_append, linesOf, if_neg hb, ih fun hmem => h (List.mem_cons_of_mem _ hmem)]

theorem linesOf_flatMap {lines : List (List UInt8)} (h : ∀ line ∈ lines, lineEnd ∉ line) :
    linesOf (lines.flatMap (· ++ [lineEnd])) = lines := by
  induction lines with
  | nil => rfl
  | cons line lines ih =>
    rw [List.flatMap_cons, linesOf_append (ended_concat line), linesOf_line (h line List.mem_cons_self),
      ih fun l hl => h l (List.mem_cons_of_mem _ hl), List.singleton_append]

theorem ended_flatMap (lines : List (List UInt8)) {content : List UInt8} (h : Ended content) :
    Ended (content ++ lines.flatMap (· ++ [lineEnd])) := by
  induction lines generalizing content with
  | nil => rwa [List.flatMap_nil, List.append_nil]
  | cons line lines ih =>
    rw [List.flatMap_cons, ← List.append_assoc, ← List.append_assoc]
    exact ih (ended_concat _)

end Summary

/-! ## Entries -/

namespace SummaryEntry

/-- Reads the entry of a line. -/
def ofLine? (line : List UInt8) : Option SummaryEntry :=
  ((Text.ofBytes? line).bind Draft.ofText?).bind decode?

/-- The line of an entry without its end. -/
def bytes (e : SummaryEntry) : List UInt8 := Text.bytesOf e.encode.compact

theorem encode_eq_ofTexts (e : SummaryEntry) : e.encode =
    Json.ofTexts [("name", e.name), ("outcome", e.outcome.text), ("message", e.message)] := rfl

theorem bytesOf_line (e : SummaryEntry) : Text.bytesOf e.line = e.bytes ++ [Summary.lineEnd] := by
  have hend : Text.bytesOf "\n" = [Summary.lineEnd] := by decide +kernel
  rw [line, Text.bytesOf_append, hend]
  rfl

/-- No line ends within an entry. -/
theorem lineEnd_not_mem_bytes (e : SummaryEntry) : Summary.lineEnd ∉ e.bytes := by
  intro h
  rw [bytes, encode_eq_ofTexts] at h
  exact Json.newline_not_mem_compact _ (Text.mem_of_mem_bytesOf (by decide) h)

/-- The fields of an entry are read, each by its name. -/
theorem decode?_texts (e : SummaryEntry) :
    decode? (.obj [("name", .str e.name), ("outcome", .str e.outcome.text), ("message", .str e.message)]) =
      some e := by
  have hfields : Draft.fields? ["name", "outcome", "message"]
      (.obj [("name", .str e.name), ("outcome", .str e.outcome.text), ("message", .str e.message)]) =
      some [some (.str e.name), some (.str e.outcome.text), some (.str e.message)] := rfl
  have hkind : (Draft.variant? (.str e.outcome.text)).bind OutcomeKind.ofText? = some e.outcome :=
    OutcomeKind.ofText?_text e.outcome
  unfold decode?
  rw [hfields]
  show ((Draft.variant? (.str e.outcome.text)).bind OutcomeKind.ofText?).bind
    (fun outcome => some { name := e.name, outcome, message := e.message }) = some e
  rw [hkind]
  rfl

/-- An entry that is written is read back. -/
theorem ofLine?_bytes (e : SummaryEntry) : ofLine? e.bytes = some e := by
  rw [ofLine?, bytes, Text.ofBytes?_eq_some_iff.mpr rfl, Option.bind_some, encode_eq_ofTexts,
    Draft.ofText?_compact, Option.bind_some]
  exact decode?_texts e

end SummaryEntry

namespace SummaryTarget

/-! ## Sinks -/

variable {path : RawPath} {loc : Location} {content : List UInt8} {w : World}

/-- An entry comes after what is there. -/
theorem write_of_holds (h : w.files.Holds path loc content) (e : SummaryEntry) :
    ∃ w', (file path).write e w = (.ok (), w') ∧
      w'.files.Holds path loc (content ++ (e.bytes ++ [Summary.lineEnd])) := by
  obtain ⟨files, happend, hfiles⟩ := h.append (e.bytes ++ [Summary.lineEnd])
  refine ⟨{ w with files }, ?_, hfiles⟩
  unfold write
  dsimp only
  rw [SummaryEntry.bytesOf_line, happend]

/-- So do several. -/
theorem writeAll_of_holds (h : w.files.Holds path loc content) (entries : List SummaryEntry) :
    ∃ w', (file path).writeAll entries w = (.ok (), w') ∧
      w'.files.Holds path loc
        (content ++ (entries.map (·.bytes)).flatMap (· ++ [Summary.lineEnd])) := by
  induction entries generalizing w content with
  | nil => exact ⟨w, rfl, by rwa [List.map_nil, List.flatMap_nil, List.append_nil]⟩
  | cons e rest ih =>
    obtain ⟨next, hwrite, hnext⟩ := write_of_holds h e
    obtain ⟨w', hrest, hw'⟩ := ih hnext
    refine ⟨w', ?_, ?_⟩
    · rw [writeAll, hwrite]
      exact hrest
    · rwa [List.map_cons, List.flatMap_cons, ← List.append_assoc]

/-- A sink can be opened for the path: it may denote a file, which holds the content, or which is not
there and so holds nothing. Every line of the content has an end. -/
structure TakesLines (files : FileTree) (path : RawPath) (loc : Location) (content : List UInt8) :
    Prop where
  target : files.target path = .ok loc
  held : (files.content? loc).getD [] = content
  ended : Summary.Ended content

/-- A sink is opened, an entry is written for every feature, and the sink is closed. Then the file holds
what it held before and one line for each entry, in order. No line ends within another, and from each of
the new ones the name, the kind of the outcome and the message are read back. A sink can be opened for
the file again. -/
theorem stream_of_file (h : TakesLines w.files path loc content) (items : List (String × Outcome)) :
    ∃ opened written lines,
      (file path).connect w = (.ok (), opened) ∧
      (file path).writeAll (items.map fun i => .ofOutcome i.1 i.2) opened = (.ok (), written) ∧
      (file path).close written = .ok () ∧
      written.files.read path = .ok (content ++ lines.flatMap (· ++ [Summary.lineEnd])) ∧
      (∀ line ∈ lines, Summary.lineEnd ∉ line) ∧
      lines.map SummaryEntry.ofLine? = items.map (fun i => some
        { name := i.1, outcome := OutcomeKind.ofOutcome i.2, message := i.2.message }) ∧
      Summary.linesOf (content ++ lines.flatMap (· ++ [Summary.lineEnd])) =
        Summary.linesOf content ++ lines ∧
      TakesLines written.files path loc (content ++ lines.flatMap (· ++ [Summary.lineEnd])) := by
  obtain ⟨files, hopen, hfiles⟩ := FileTree.openToAppend_of_target h.target
  rw [h.held] at hfiles
  let opened : World := { w with files }
  have hopened : (file path).connect w = (.ok (), opened) := by
    unfold connect
    dsimp only
    rw [hopen]
  let entries := items.map fun i => SummaryEntry.ofOutcome i.1 i.2
  have hbefore : opened.files.Holds path loc content := hfiles
  obtain ⟨written, hwritten, hholds⟩ := writeAll_of_holds hbefore entries
  have hlines : ∀ line ∈ entries.map (·.bytes), Summary.lineEnd ∉ line := by
    intro line hline
    obtain ⟨e, -, rfl⟩ := List.mem_map.mp hline
    exact e.lineEnd_not_mem_bytes
  refine ⟨opened, written, entries.map (·.bytes), hopened, hwritten, rfl, hholds.read, hlines, ?_, ?_,
    hholds.target, ?_, Summary.ended_flatMap _ h.ended⟩
  · rw [List.map_map, List.map_map]
    exact List.map_congr_left fun i _ => SummaryEntry.ofLine?_bytes _
  · rw [Summary.linesOf_append h.ended, Summary.linesOf_flatMap hlines]
  · rw [FileTree.content?, hholds.node]
    rfl

/-- A file with one line, and two features whose texts hold line ends and quotes. -/
theorem stream_of_earlier_file :
    let path : RawPath := [0x2F, 0x73]
    let w : World := { files := ({} : FileTree).put [[0x73]] (.file [0x41, 0x0A]) }
    let items := [("a\nb", Outcome.failed "not \"x\"\n"), ("c", Outcome.passed)]
    TakesLines w.files path [[0x73]] [0x41, 0x0A] ∧
      ∃ opened written content first second,
        (file path).connect w = (.ok (), opened) ∧
        (file path).writeAll (items.map fun i => .ofOutcome i.1 i.2) opened = (.ok (), written) ∧
        written.files.read path = .ok content ∧ Summary.linesOf content = [[0x41], first, second] ∧
        SummaryEntry.ofLine? first = some ⟨"a\nb", .failed, "not \"x\"\n"⟩ ∧
        SummaryEntry.ofLine? second = some ⟨"c", .passed, ""⟩ := by
  intro path w items
  have htakes : TakesLines w.files path [[0x73]] [0x41, 0x0A] := ⟨rfl, rfl, .inr rfl⟩
  obtain ⟨opened, written, lines, hopened, hwritten, -, hread, -, hentries, hlines, -⟩ :=
    stream_of_file htakes items
  obtain ⟨first, rest, rfl, hfirst, hrest⟩ := List.map_eq_cons_iff.mp hentries
  obtain ⟨second, others, rfl, hsecond, hothers⟩ := List.map_eq_cons_iff.mp hrest
  obtain rfl : others = [] := List.map_eq_nil_iff.mp hothers
  exact ⟨htakes, opened, written, _, first, second, hopened, hwritten, hread, hlines, hfirst, hsecond⟩

end SummaryTarget

end Conformance
