import Conformance.CommandLine.Run
import Conformance.Proofs.CommandLine.Streams

/-!
# The verdict

The selected features are run one after another. The verdict counts the failed ones, and a stream that
takes no entry changes none of them. What does change the verdict is a sink that cannot be closed: its
error comes first.

## Main definitions

- `CommandLine.Course` — features that are run one after another, each with an attempt to report it
- `CommandLine.failures`, `CommandLine.verdict` — the number of failed features, and what follows from it
- `Network.Stream.taking` — an attempt to write to a stream

## Main statements

- `CommandLine.course_runAll` — what is run and reported, and the verdict
- `CommandLine.verdict_of_streams` — the verdict without a sink, with a file, and with a stream; with a
  stream the outcomes are those without a sink, whatever it does
-/

namespace Conformance

/-- A stream after an attempt to write to it. The bytes arrive unless the write fails. -/
def Network.Stream.taking (x : Stream) (bytes : List UInt8) : Stream :=
  { x with
      writes := x.writes + 1
      received := if (x.writeFault (x.writes + 1)).isSome then x.received else x.received ++ bytes }

/-- Writing an entry to a listener is an attempt to write its line, and nothing else. -/
theorem SummaryTarget.write_withStream (address : String) (entry : SummaryEntry) (w : World)
    (x : Network.Stream) :
    ((tcp address).write entry (w.withStream x)).2 = w.withStream (x.taking (Text.bytesOf entry.line)) := by
  unfold write Network.send Network.Stream.taking
  dsimp only [World.withStream, Network.withStream]
  cases x.writeFault (x.writes + 1) <;> rfl

namespace CommandLine

/-! ## Features one after another -/

/-- Attempts to report an outcome, if there is a sink. Whether that fails is of no consequence. -/
def attempt (sink : Option SummaryTarget) (result : String × Outcome) (w : World) : World :=
  match sink with
  | none => w
  | some target => (target.write (SummaryEntry.ofOutcome result.1 result.2) w).2

/-- Features are run one after another, each one once in the world that was left to it, and each outcome
is reported once, under the directory of its feature. -/
inductive Course (base : Config) (sink : Option SummaryTarget) :
    World → List Selection → List (String × Outcome) → World → Prop
  | done (w : World) : Course base sink w [] [] w
  | next {w ran w' : World} {s : Selection} {rest : List Selection} {outcome : Outcome}
      {outcomes : List (String × Outcome)}
      (hran : (runFeature (base.forTaskQueue s.taskQueue) s.prepared).run w = (outcome, ran))
      (hrest : Course base sink (attempt sink (s.prepared.dir, outcome) ran) rest outcomes w') :
      Course base sink w (s :: rest) ((s.prepared.dir, outcome) :: outcomes) w'

/-- The number of failed features. -/
def failures (outcomes : List (String × Outcome)) : Nat := outcomes.countP fun o => o.2.isFailed

/-- The verdict on outcomes: an error that counts the failed features, if there are any. -/
def verdict (outcomes : List (String × Outcome)) : Except Error Unit :=
  if failures outcomes = 0 then .ok () else .error (.featuresFailed (failures outcomes))

variable {base : Config} {sink : Option SummaryTarget} {w w' : World} {selections : List Selection}
  {outcomes : List (String × Outcome)}

theorem Progress.failed_eq_failures (p : Progress) : p.failed = failures p.outcomes :=
  List.countP_eq_length_filter.symm

/-- One outcome for each selected feature, in their order. -/
theorem Course.dirs (h : Course base sink w selections outcomes w') :
    outcomes.map (·.1) = selections.map (·.prepared.dir) := by
  induction h with
  | done => rfl
  | next _ _ ih => simp [ih]

/-- There is one way in which features can go. -/
theorem Course.unique {outcomes' : List (String × Outcome)} {w'' : World}
    (h : Course base sink w selections outcomes w') (h' : Course base sink w selections outcomes' w'') :
    outcomes' = outcomes ∧ w'' = w' := by
  induction h generalizing outcomes' w'' with
  | done w =>
    cases h'
    exact ⟨rfl, rfl⟩
  | next hran _ ih =>
    cases h' with
    | next hran' hrest' =>
      rw [hran] at hran'
      cases hran'
      obtain ⟨rfl, rfl⟩ := ih hrest'
      exact ⟨rfl, rfl⟩

/-- Running the features goes along a course, and adds its outcomes to what has happened so far. -/
theorem course_runSelections (style : Style) (base : Config) (sink : Option SummaryTarget)
    (selections : List Selection) (p : Progress) (w : World) :
    ∃ outcomes, Course base sink w selections outcomes
        ((runSelections style base sink p selections).run w).2 ∧
      ((runSelections style base sink p selections).run w).1.outcomes = p.outcomes ++ outcomes := by
  induction selections generalizing p w with
  | nil => exact ⟨[], .done w, (List.append_nil _).symm⟩
  | cons s rest ih =>
    cases hran : (runFeature (base.forTaskQueue s.taskQueue) s.prepared).run w with
    | mk outcome ran =>
      let next : Progress :=
        { output := p.output ++ style.outcomeLine s.prepared.dir outcome
          outcomes := p.outcomes ++ [(s.prepared.dir, outcome)] }
      have hrun : (runSelections style base sink p (s :: rest)).run w
          = (runSelections style base sink next rest).run
              (attempt sink (s.prepared.dir, outcome) ran) := by
        cases sink <;> simp [runSelections, attempt, hran, next]
      obtain ⟨outcomes, hcourse, houtcomes⟩ := ih next (attempt sink (s.prepared.dir, outcome) ran)
      refine ⟨(s.prepared.dir, outcome) :: outcomes, ?_, ?_⟩
      · rw [hrun]
        exact .next hran hcourse
      · simp [hrun, houtcomes, next]

/-- What closing a sink tells. -/
def closed (sink : Option SummaryTarget) (w : World) : Except Error Unit :=
  match sink with
  | none => .ok ()
  | some target => target.close w

theorem run_closeSink (sink : Option SummaryTarget) (w : World) :
    (closeSink sink).run w = (closed sink w, w) := by
  cases sink <;> rfl

/-- The verdict on features that have been run, once the sink has been closed. -/
theorem course_runAll (style : Style) (base : Config) (sink : Option SummaryTarget)
    (selections : List Selection) (w : World) :
    ∃ outcomes, Course base sink w selections outcomes ((runAll style base sink selections).run w).2 ∧
      ((runAll style base sink selections).run w).1.2 =
        match closed sink ((runAll style base sink selections).run w).2 with
        | .error e => .error e
        | .ok () => verdict outcomes := by
  obtain ⟨outcomes, hcourse, houtcomes⟩ := course_runSelections style base sink selections {} w
  generalize hran : (runSelections style base sink {} selections).run w = ran at hcourse houtcomes
  have hfailed : ran.1.failed = failures outcomes := by
    rw [Progress.failed_eq_failures, houtcomes]
    rfl
  obtain ⟨hworld, hresult⟩ : ((runAll style base sink selections).run w).2 = ran.2 ∧
      ((runAll style base sink selections).run w).1.2 =
        match closed sink ran.2 with
        | .error e => .error e
        | .ok () => if ran.1.failed = 0 then .ok () else .error (.featuresFailed ran.1.failed) := by
    unfold runAll
    rw [Program.run_bind', hran, Program.run_bind', run_closeSink]
    cases closed sink ran.2 <;> exact ⟨rfl, rfl⟩
  rw [hworld, hresult, hfailed]
  exact ⟨outcomes, hcourse, rfl⟩

/-- Only a stream can fail to be closed. -/
theorem closed_of_not_stream {sink : Option SummaryTarget} (h : ∀ address, sink ≠ some (.tcp address))
    (w : World) : closed sink w = .ok () := by
  match sink with
  | none => rfl
  | some (.file path) => rfl
  | some (.tcp address) => exact absurd rfl (h address)

/-- A file that takes no entry stays as it is, and so does everything else. -/
theorem attempt_of_refused {path : List UInt8} {result : String × Outcome} {w : World} {e : Error}
    (h : ((SummaryTarget.file path).write (SummaryEntry.ofOutcome result.1 result.2) w).1 = .error e) :
    attempt (some (.file path)) result w = w := by
  unfold attempt SummaryTarget.write at *
  dsimp only at h ⊢
  split at h
  · cases h
  · rfl

/-! ## Streams -/

/-- A stream after an attempt to report each outcome. -/
def reported (x : Network.Stream) (outcomes : List (String × Outcome)) : Network.Stream :=
  outcomes.foldl (fun x o => x.taking (Text.bytesOf (SummaryEntry.ofOutcome o.1 o.2).line)) x

theorem closeFault_reported (x : Network.Stream) (outcomes : List (String × Outcome)) :
    (reported x outcomes).closeFault = x.closeFault := by
  unfold reported
  induction outcomes generalizing x with
  | nil => rfl
  | cons o outcomes ih => exact ih _

theorem writes_reported (x : Network.Stream) (outcomes : List (String × Outcome)) :
    (reported x outcomes).writes = x.writes + outcomes.length := by
  unfold reported
  induction outcomes generalizing x with
  | nil => rfl
  | cons o outcomes ih =>
    rw [List.foldl_cons, ih]
    simp [Network.Stream.taking]
    omega

/-- Without a sink, and with a listener whatever its stream does, the features go the same way. -/
theorem Course.withStream (h : Course base none w selections outcomes w') (address : String)
    (x : Network.Stream) :
    Course base (some (.tcp address)) (w.withStream x) selections outcomes
      (w'.withStream (reported x outcomes)) := by
  generalize hnone : (none : Option SummaryTarget) = sink at h
  induction h generalizing x with
  | done w => exact .done _
  | @next w ran w' s rest outcome outcomes hran _ ih =>
    subst hnone
    have hran' : (runFeature (base.forTaskQueue s.taskQueue) s.prepared).run (w.withStream x)
        = (outcome, ran.withStream x) := by
      rw [blind_runFeature _ _ x w, hran]
    have hattempt : attempt (some (.tcp address)) (s.prepared.dir, outcome) (ran.withStream x)
        = ran.withStream (x.taking (Text.bytesOf (SummaryEntry.ofOutcome s.prepared.dir outcome).line)) :=
      SummaryTarget.write_withStream address _ ran x
    refine .next hran' ?_
    rw [hattempt]
    exact ih _

/-- Whether a stream can be closed does not depend on what has been reported. -/
theorem closed_reported (address : String) (w : World) (x : Network.Stream)
    (outcomes : List (String × Outcome)) :
    closed (some (.tcp address)) (w.withStream (reported x outcomes)) =
      match x.closeFault with
      | some e => .error (.io e.message)
      | none => .ok () := by
  rw [← closeFault_reported x outcomes]
  unfold closed SummaryTarget.close Network.close
  dsimp only [World.withStream, Network.withStream]
  cases (reported x outcomes).closeFault <;> rfl

/-- The verdict. The selected features are run one after another, each of them once, and each outcome
is reported once. Without a sink, and with a file, the verdict counts the failed features and nothing
else, and an entry that the file does not take changes nothing. With a listener the outcomes are those
without a sink, whatever its stream does: each outcome is sent to it once, and may get lost. If the
stream can be closed, the verdict again counts the failed features and nothing else. If it cannot be
closed, its error takes the place of the verdict. -/
theorem verdict_of_streams (style : Style) (base : Config) (selections : List Selection) (w : World) :
    (∀ sink, (∀ address, sink ≠ some (.tcp address)) →
      let ended := (runAll style base sink selections).run w
      ∃ outcomes, Course base sink w selections outcomes ended.2 ∧
        outcomes.map (·.1) = selections.map (·.prepared.dir) ∧ ended.1.2 = verdict outcomes) ∧
    (∀ path result ran e,
      ((SummaryTarget.file path).write (SummaryEntry.ofOutcome result.1 result.2) ran).1 = .error e →
        attempt (some (.file path)) result ran = ran) ∧
    ∃ outcomes w', Course base none w selections outcomes w' ∧
      outcomes.map (·.1) = selections.map (·.prepared.dir) ∧
      ∀ address x,
        let ended := (runAll style base (some (.tcp address)) selections).run (w.withStream x)
        ended.2 = w'.withStream (reported x outcomes) ∧
          (reported x outcomes).writes = x.writes + selections.length ∧
          ended.1.2 =
            match x.closeFault with
            | some e => .error (.io e.message)
            | none => verdict outcomes := by
  refine ⟨fun sink hsink => ?_, fun path result ran e => attempt_of_refused, ?_⟩
  · obtain ⟨outcomes, hcourse, hverdict⟩ := course_runAll style base sink selections w
    rw [closed_of_not_stream hsink] at hverdict
    exact ⟨outcomes, hcourse, hcourse.dirs, hverdict⟩
  obtain ⟨outcomes, hcourse, -⟩ := course_runAll style base none selections w
  have hdirs := hcourse.dirs
  refine ⟨outcomes, _, hcourse, hdirs, fun address x => ?_⟩
  obtain ⟨outcomes', hcourse', hverdict⟩ :=
    course_runAll style base (some (.tcp address)) selections (w.withStream x)
  obtain ⟨rfl, hworld⟩ := (hcourse.withStream address x).unique hcourse'
  refine ⟨hworld, ?_, ?_⟩
  · have hlength := congrArg List.length hdirs
    simp only [List.length_map] at hlength
    rw [writes_reported, hlength]
  · rw [hworld, closed_reported] at hverdict
    rw [hverdict]
    cases x.closeFault <;> rfl

/-- No feature has failed, and the verdict is an error. -/
theorem verdict_of_unclosed_stream :
    let skipped : PreparedFeature := ⟨"a/b", fun _ => { workflows := [], skipReason := some "no" }⟩
    let base : Config := { server := "loopback", ns := "default", taskQueue := "" }
    let w : World := { network := { closeFault := some .unreachable } }
    let ran := (runFeature (base.forTaskQueue "q") skipped).run w
    let ended := (runAll {} base (some (.tcp "localhost:80")) [⟨skipped, "q"⟩]).run w
    ran.1 = .skipped "no" ∧ ended.2.network.writes = 1 ∧
      ended.1.2 = .error (.io "Network is unreachable (os error 101)") := by
  intro skipped base w ran ended
  subst ended ran w base skipped
  refine ⟨?_, ?_, ?_⟩ <;> rfl

end CommandLine

end Conformance
