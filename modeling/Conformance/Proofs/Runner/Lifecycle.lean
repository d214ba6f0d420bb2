import Conformance.Proofs.Runner.Frame

/-!
# The stages of a run

A run of a feature goes through phases, each of which depends on the ones before it, and then
releases what it has opened, one thing after another. The outcome is that of the first stage that
fails.

## Main definitions

- `Stage` — the phases and the releases
- `Passes` — one stage of a run, from a place to the next one
- `Journal` — stages one after another
- `Verdict` — what the stages of a run say about its outcome
- `runFeatureReporting` — a run in which releases may report what they like

## Main statements

- `Runner.journal_of_run` — the phases of a script come in order, up to the first that fails
- `Runner.journal_of_close` — every release is attempted
- `stages_decide_outcome` — every run goes through its stages, and they decide its outcome

## Design notes

The server reports the failure of a release by its address, so that two releases at one address
fail together. Other servers may report any failure of any release. What holds for all of them is
shown of runs whose releases report something else than their result.
-/

namespace Conformance

/-! ## Stages -/

/-- The phases of a run, and the releases after them. -/
inductive Stage where
  | construct
  | execute
  | checkResult
  | checkHistory
  | releaseWorker
  | releaseDirect
  | releaseProxied
  deriving DecidableEq, Repr

/-- A stage that a run has gone through, and how it ended. -/
structure Passage where
  stage : Stage
  result : Except Error Unit

/-- Where a run is between two of its stages. -/
inductive Place where
  | outside
  | opened (r : Runner)
  | started (r : Runner) (run : Run)
  | checked (r : Runner) (run : Run)
  | leaving (r : Runner)
  | workerReleased (r : Runner)
  | directReleased (r : Runner)
  | left

/-- What a release reports, given its result. A release that reports an error has taken effect all
the same. -/
abbrev Reporting := Stage → Except Error Unit → Except Error Unit

/-- Releases report their results. -/
def Reporting.plain : Reporting := fun _ result => result

section

variable (report : Reporting) (config : Config) (prepared : PreparedFeature)

/-- `Passes report config prepared p w x p' w'` says that a run that is at the place `p` in the world
`w` goes through the stage `x`, and is then at the place `p'` in the world `w'`. -/
inductive Passes : Place → World → Passage → Place → World → Prop
  | refused {w w' : World} {e : Error}
      (h : (Runner.launch config prepared).run w = (.error e, w')) :
      Passes .outside w ⟨.construct, .error e⟩ .left w'
  | constructed {w w' : World} {r : Runner}
      (h : (Runner.launch config prepared).run w = (.ok r, w')) :
      Passes .outside w ⟨.construct, .ok ()⟩ (.opened r) w'
  | executed {w w' : World} {r r' : Runner} {run : Run}
      (h : (Runner.exec r.feature.execute r).run w = ((.ok (some run), r'), w')) :
      Passes (.opened r) w ⟨.execute, .ok ()⟩ (.started r' run) w'
  | selfChecked {w w' : World} {r r' : Runner}
      (h : (Runner.exec r.feature.execute r).run w = ((.ok none, r'), w')) :
      Passes (.opened r) w ⟨.execute, .ok ()⟩ (.leaving r') w'
  | executeFailed {w w' : World} {r r' : Runner} {e : Error}
      (h : (Runner.exec r.feature.execute r).run w = ((.error e, r'), w')) :
      Passes (.opened r) w ⟨.execute, .error e⟩ (.leaving r') w'
  | resultAccepted {w w' : World} {r r' : Runner} {run : Run}
      (h : (Runner.exec (r.feature.checkResult run) r).run w = ((.ok (), r'), w')) :
      Passes (.started r run) w ⟨.checkResult, .ok ()⟩ (.checked r' run) w'
  | resultRefused {w w' : World} {r r' : Runner} {run : Run} {e : Error}
      (h : (Runner.exec (r.feature.checkResult run) r).run w = ((.error e, r'), w')) :
      Passes (.started r run) w ⟨.checkResult, .error e⟩ (.leaving r') w'
  | historyChecked {w w' : World} {r r' : Runner} {run : Run} {result : Except Error Unit}
      (h : (Runner.exec (r.feature.checkHistory run) r).run w = ((result, r'), w')) :
      Passes (.checked r run) w ⟨.checkHistory, result⟩ (.leaving r') w'
  | workerReleased {w w' : World} {r : Runner} {result : Except Error Unit}
      (h : r.manager.shutdown.run w = (result, w')) :
      Passes (.leaving r) w ⟨.releaseWorker, report .releaseWorker result⟩ (.workerReleased r) w'
  | directReleased {w w' : World} {r : Runner} {result : Except Error Unit}
      (h : World.closeService r.directService w = (result, w')) :
      Passes (.workerReleased r) w ⟨.releaseDirect, report .releaseDirect result⟩
        (.directReleased r) w'
  | proxiedReleased {w w' : World} {r : Runner} {result : Except Error Unit}
      (h : World.closeService r.service w = (result, w')) :
      Passes (.directReleased r) w ⟨.releaseProxied, report .releaseProxied result⟩ .left w'

/-- Stages that a run goes through one after another. -/
inductive Journal : Place → World → List Passage → Place → World → Prop
  | nil (p : Place) (w : World) : Journal p w [] p w
  | cons {p p' p'' : Place} {w w' w'' : World} {x : Passage} {journal : List Passage}
      (h : Passes report config prepared p w x p' w') (hrest : Journal p' w' journal p'' w'') :
      Journal p w (x :: journal) p'' w''

end

section

variable {report : Reporting} {config : Config} {prepared : PreparedFeature}

theorem Journal.trans {p p' p'' : Place} {w w' w'' : World} {journal journal' : List Passage}
    (h : Journal report config prepared p w journal p' w')
    (h' : Journal report config prepared p' w' journal' p'' w'') :
    Journal report config prepared p w (journal ++ journal') p'' w'' := by
  induction h with
  | nil _ _ => exact h'
  | cons hpasses _ ih => exact .cons hpasses (ih h')

theorem Journal.single {p p' : Place} {w w' : World} {x : Passage}
    (h : Passes report config prepared p w x p' w') :
    Journal report config prepared p w [x] p' w' :=
  .cons h (.nil _ _)

end

/-- The phases are the first ones of those in the list, in the same order, and all but the last one
have succeeded. -/
structure Phased (order : List Stage) (phases : List Passage) : Prop where
  stages : phases.map (·.stage) <+: order
  succeeded : ∀ x ∈ phases.dropLast, x.result = .ok ()

theorem Phased.cons {order : List Stage} {phases : List Passage} (h : Phased order phases)
    (stage : Stage) : Phased (stage :: order) (⟨stage, .ok ()⟩ :: phases) where
  stages := by
    rw [List.map_cons]
    exact List.cons_prefix_cons.mpr ⟨rfl, h.stages⟩
  succeeded := by
    intro x hx
    cases phases with
    | nil => cases hx
    | cons y phases =>
      rw [List.dropLast_cons_cons] at hx
      rcases List.mem_cons.mp hx with rfl | hx
      · rfl
      · exact h.succeeded x hx

theorem phased_single (stage : Stage) (order : List Stage) (result : Except Error Unit) :
    Phased (stage :: order) [⟨stage, result⟩] where
  stages := List.cons_prefix_cons.mpr ⟨rfl, List.nil_prefix⟩
  succeeded := fun _ hx => nomatch hx

/-! ## The first error -/

/-- The first error of all the stages of a journal. -/
def firstFailure (journal : List Passage) : Except Error Unit :=
  Runner.firstError (journal.map (·.result))

theorem firstFailure_append (journal journal' : List Passage) :
    firstFailure (journal ++ journal') = closing (firstFailure journal) (firstFailure journal') := by
  unfold firstFailure
  induction journal with
  | nil => rfl
  | cons x journal ih =>
    obtain ⟨stage, result⟩ := x
    cases result with
    | ok _ => exact ih
    | error e => rfl

theorem firstFailure_eq_ok_iff (journal : List Passage) :
    firstFailure journal = .ok () ↔ ∀ x ∈ journal, x.result = .ok () := by
  unfold firstFailure
  induction journal with
  | nil => exact iff_of_true rfl nofun
  | cons x journal ih =>
    obtain ⟨stage, result⟩ := x
    rw [List.forall_mem_cons]
    cases result with
    | ok _ => exact ih.trans (and_iff_right rfl).symm
    | error e => exact iff_of_false nofun fun h => nomatch h.1

/-- What comes after an error does not matter. -/
theorem firstFailure_of_first {journal before after : List Passage} {stage : Stage} {e : Error}
    (h : journal = before ++ ⟨stage, .error e⟩ :: after) (hbefore : ∀ x ∈ before, x.result = .ok ()) :
    firstFailure journal = .error e := by
  rw [h, firstFailure_append, (firstFailure_eq_ok_iff before).mpr hbefore]
  rfl

theorem Error.isSkip_iff (e : Error) :
    e.isSkip = true ↔ (∃ reason, e = .skipped reason) ∨ e = .proxyUnavailable := by
  cases e <;> simp [Error.isSkip]

/-- What the stages of a run say about its outcome: it has passed if none of them failed, and
otherwise the first error tells whether it is skipped or has failed, and why. -/
structure Verdict (journal : List Passage) (outcome : Outcome) : Prop where
  passed : outcome = .passed ↔ ∀ x ∈ journal, x.result = .ok ()
  skipped : ∀ before stage e after, journal = before ++ ⟨stage, .error e⟩ :: after →
    (∀ x ∈ before, x.result = .ok ()) → (∃ reason, e = .skipped reason) ∨ e = .proxyUnavailable →
      outcome = .skipped e.message
  failed : ∀ before stage e after, journal = before ++ ⟨stage, .error e⟩ :: after →
    (∀ x ∈ before, x.result = .ok ()) →
      ¬ ((∃ reason, e = .skipped reason) ∨ e = .proxyUnavailable) → outcome = .failed e.message

theorem verdict_firstFailure (journal : List Passage) :
    Verdict journal (Outcome.ofResult (firstFailure journal)) where
  passed := by
    rw [← firstFailure_eq_ok_iff]
    cases firstFailure journal with
    | ok _ => exact ⟨fun _ => rfl, fun _ => rfl⟩
    | error e =>
      refine ⟨fun h => ?_, fun h => nomatch h⟩
      rw [Outcome.ofResult] at h
      split at h <;> cases h
  skipped := by
    intro before stage e after hjournal hbefore hskip
    rw [firstFailure_of_first hjournal hbefore]
    exact if_pos (e.isSkip_iff.mpr hskip)
  failed := by
    intro before stage e after hjournal hbefore hskip
    rw [firstFailure_of_first hjournal hbefore]
    exact if_neg fun h => hskip (e.isSkip_iff.mp h)

/-! ## Scripts one after another -/

namespace Runner

variable {α β : Type}

/-- A script goes on with the runner that the one before it has left, unless that one failed. -/
theorem run_exec_bind (script : Script α) (next : α → Script β) (r : Runner) (w : World) :
    (exec (script >>= next) r).run w =
      match (exec script r).run w with
      | ((.ok a, r'), w') => (exec (next a) r').run w'
      | ((.error e, r'), w') => ((.error e, r'), w') := by
  show (exec (Script.bind script next) r).run w = _
  induction script generalizing r w with
  | done result => cases result <;> rfl
  | call op step ih =>
    simp only [Script.bind, exec, Program.run_bind]
    exact ih _ _ _

/-- Only the worker of a runner changes. -/
theorem feature_perform (r : Runner) (op : RunnerOp) (w : World) :
    ((r.perform op).run w).1.2.feature = r.feature := by
  by_cases hop : op = .restartWorker
  · subst hop
    show ((r.restartWorker).run w).1.2.feature = _
    rw [restartWorker, Program.run_bind']
    rfl
  · rw [(r.stays_perform hop w).1]

theorem feature_exec (script : Script α) (r : Runner) (w : World) :
    ((exec script r).run w).1.2.feature = r.feature := by
  induction script generalizing r w with
  | done _ => rfl
  | call op next ih =>
    rw [exec, Program.run_bind, ih]
    exact r.feature_perform op w

/-! ## Phases and releases -/

variable {report : Reporting} {config : Config} {prepared : PreparedFeature}

/-- The script of a runner goes through its phases in order, up to the first that fails. -/
theorem journal_of_run (r : Runner) (w : World) :
    ∃ phases, Journal report config prepared (.opened r) w phases
        (.leaving (r.run.run w).1.2) (r.run.run w).2 ∧
      Phased [.execute, .checkResult, .checkHistory] phases ∧
      firstFailure phases = (r.run.run w).1.1 := by
  -- every phase asks the feature that the runner was opened with, whatever the ones before have changed
  have hrun : r.run.run w = _ := run_exec_bind r.feature.execute _ r w
  have hfeature := feature_exec r.feature.execute r w
  cases hexecute : (exec r.feature.execute r).run w with
  | mk ended w₁ =>
  obtain ⟨result, r₁⟩ := ended
  rw [hexecute] at hrun hfeature
  cases result with
  | error e =>
    rw [hrun]
    exact ⟨_, .single (.executeFailed hexecute), phased_single .execute _ _, rfl⟩
  | ok started =>
    cases started with
    | none =>
      rw [hrun]
      exact ⟨_, .single (.selfChecked hexecute), phased_single .execute _ _, rfl⟩
    | some run =>
      dsimp only at hrun hfeature
      rw [run_exec_bind, ← hfeature] at hrun
      have hfeature₁ := feature_exec (r₁.feature.checkResult run) r₁ w₁
      cases hresult : (exec (r₁.feature.checkResult run) r₁).run w₁ with
      | mk ended w₂ =>
      obtain ⟨result, r₂⟩ := ended
      rw [hresult] at hrun hfeature₁
      cases result with
      | error e =>
        rw [hrun]
        refine ⟨_, .cons (.executed hexecute) (.single (.resultRefused hresult)), ?_, rfl⟩
        exact (phased_single .checkResult _ _).cons .execute
      | ok _ =>
        dsimp only at hrun hfeature₁
        rw [← hfeature₁] at hrun
        cases hhistory : (exec (r₂.feature.checkHistory run) r₂).run w₂ with
        | mk ended w₃ =>
        obtain ⟨result, r₃⟩ := ended
        rw [hhistory] at hrun
        rw [hrun]
        refine ⟨_, .cons (.executed hexecute) (.cons (.resultAccepted hresult)
          (.single (.historyChecked hhistory))), ?_, ?_⟩
        · exact ((phased_single .checkHistory _ _).cons .checkResult).cons .execute
        · cases result <;> rfl

/-- Closing a runner, where releases may report something else than their result. -/
def closeReporting (report : Reporting) (r : Runner) : Program (Except Error Unit) := do
  let worker ← r.manager.shutdown
  let direct ← Program.lift (World.closeService r.directService)
  let proxied ← Program.lift (World.closeService r.service)
  return firstError [report .releaseWorker worker, report .releaseDirect direct,
    report .releaseProxied proxied]

/-- Every release is attempted, in order, and the first error is reported. -/
theorem journal_of_close (r : Runner) (w : World) :
    ∃ releases, Journal report config prepared (.leaving r) w releases .left
        ((r.closeReporting report).run w).2 ∧
      releases.map (·.stage) = [.releaseWorker, .releaseDirect, .releaseProxied] ∧
      firstFailure releases = ((r.closeReporting report).run w).1 := by
  rw [closeReporting, Program.run_bind']
  cases hworker : r.manager.shutdown.run w with
  | mk worker w₁ =>
  cases hdirect : World.closeService r.directService w₁ with
  | mk direct w₂ =>
  cases hproxied : World.closeService r.service w₂ with
  | mk proxied w₃ =>
  refine ⟨[⟨.releaseWorker, report .releaseWorker worker⟩,
    ⟨.releaseDirect, report .releaseDirect direct⟩,
    ⟨.releaseProxied, report .releaseProxied proxied⟩], ?_, rfl, ?_⟩
  · rw [Program.run_bind', Program.run_lift, hdirect]
    dsimp only
    rw [Program.run_bind', Program.run_lift, hproxied]
    exact .cons (.workerReleased hworker)
      (.cons (.directReleased hdirect) (.single (.proxiedReleased hproxied)))
  · rw [Program.run_bind', Program.run_lift, hdirect]
    dsimp only
    rw [Program.run_bind', Program.run_lift, hproxied]
    rfl

end Runner

/-! ## Whole runs -/

/-- The result of a run in which releases may report something else than their result. -/
def runResultReporting (report : Reporting) (config : Config) (prepared : PreparedFeature) :
    Program (Except Error Unit) := do
  match ← Runner.launch config prepared with
  | .error e => return .error e
  | .ok runner =>
    let (ran, runner) ← runner.run
    let closed ← runner.closeReporting report
    return closing ran closed

/-- A run of a feature in which releases may report something else than their result. -/
def runFeatureReporting (report : Reporting) (config : Config) (prepared : PreparedFeature) :
    Program Outcome := do
  return Outcome.ofResult (← runResultReporting report config prepared)

theorem runFeatureReporting_plain (config : Config) (prepared : PreparedFeature) :
    runFeatureReporting .plain config prepared = runFeature config prepared :=
  rfl

section

variable (report : Reporting) {config : Config} {prepared : PreparedFeature} {w w' : World}

theorem run_runResultReporting_of_refused {e : Error}
    (h : (Runner.launch config prepared).run w = (.error e, w')) :
    (runResultReporting report config prepared).run w = (.error e, w') := by
  rw [runResultReporting, Program.run_bind', h]
  rfl

theorem run_runResultReporting_of_constructed {r : Runner}
    (h : (Runner.launch config prepared).run w = (.ok r, w')) :
    (runResultReporting report config prepared).run w =
      (closing (r.run.run w').1.1 (((r.run.run w').1.2.closeReporting report).run (r.run.run w').2).1,
        (((r.run.run w').1.2.closeReporting report).run (r.run.run w').2).2) := by
  rw [runResultReporting, Program.run_bind', h]
  dsimp only
  rw [Program.run_bind', Program.run_bind', Program.run_pure]

theorem run_runFeatureReporting {result : Except Error Unit}
    (h : (runResultReporting report config prepared).run w = (result, w')) :
    (runFeatureReporting report config prepared).run w = (Outcome.ofResult result, w') := by
  rw [runFeatureReporting, Program.run_bind', h, Program.run_pure]

end

/-- A run goes through its stages one after another: the phases in order, each of them only after
the ones before it have succeeded, and then, if it was constructed, every release. The stages
decide its outcome, whatever the releases report. -/
theorem stages_decide_outcome (report : Reporting) (config : Config) (prepared : PreparedFeature)
    (w : World) :
    runFeatureReporting .plain config prepared = runFeature config prepared ∧
    ∃ phases releases outcome w',
      (runFeatureReporting report config prepared).run w = (outcome, w') ∧
      Journal report config prepared .outside w (phases ++ releases) .left w' ∧
      Phased [.construct, .execute, .checkResult, .checkHistory] phases ∧
      (⟨.construct, .ok ()⟩ ∈ phases →
        releases.map (·.stage) = [.releaseWorker, .releaseDirect, .releaseProxied]) ∧
      (⟨.construct, .ok ()⟩ ∉ phases → releases = []) ∧
      Verdict (phases ++ releases) outcome := by
  refine ⟨runFeatureReporting_plain config prepared, ?_⟩
  cases hlaunch : (Runner.launch config prepared).run w with
  | mk launched w₁ =>
  cases launched with
  | error e =>
    have hrun := run_runFeatureReporting report (run_runResultReporting_of_refused report hlaunch)
    refine ⟨[⟨.construct, .error e⟩], [], _, w₁, hrun, .single (.refused hlaunch),
      phased_single .construct _ _, fun hmem => ?_, fun _ => rfl,
      verdict_firstFailure [⟨.construct, .error e⟩]⟩
    cases List.mem_singleton.mp hmem
  | ok r =>
    have hrun := run_runFeatureReporting report
      (run_runResultReporting_of_constructed report hlaunch)
    obtain ⟨phases, hphases, horder, hran⟩ := r.journal_of_run w₁
    obtain ⟨releases, hreleases, hall, hclosed⟩ :=
      (r.run.run w₁).1.2.journal_of_close (r.run.run w₁).2
    refine ⟨⟨.construct, .ok ()⟩ :: phases, releases, _, _, hrun,
      .cons (.constructed hlaunch) (hphases.trans hreleases), horder.cons .construct,
      fun _ => hall, fun hmem => absurd (List.mem_cons_self ..) hmem, ?_⟩
    rw [← hran, ← hclosed, ← firstFailure_append]
    exact verdict_firstFailure (⟨.construct, .ok ()⟩ :: (phases ++ releases))

end Conformance
