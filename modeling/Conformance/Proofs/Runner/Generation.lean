import Conformance.Proofs.Alone.Opening
import Conformance.Proofs.Alone.Scripts
import Conformance.Proofs.Files.Segments
import Conformance.Proofs.History.Storing
import Conformance.Proofs.Runner.Triples
import Conformance.Proofs.Runner.Untouched

/-!
# When a run writes a fixture

A fixture is trusted as a record of how a feature behaves. A run writes one only if it is told to,
and only once its own history has been accepted; until then no file changes, and afterwards no other
file does.

## Main definitions

- `Feature.StoresByDefault` — a feature that leaves its fixtures to the default check
- `Feature.acceptance` — the phases of a run up to the replay of its own history
- `acceptedHistory` — the history that a run accepts, if it gets that far

## Main statements

- `Feature.script_eq` — the phases of a feature are its acceptance and what comes then
- `fixture_of_accepted_history` — what a run does to the files
-/

namespace Conformance

/-- The feature leaves its fixtures to the default check of histories. -/
structure Feature.StoresByDefault (f : Feature) : Prop where
  execute : f.execute.Storeless
  checkResult : ∀ run, (f.checkResult run).Storeless
  checkHistory : f.checkHistory = Script.checkHistories

/-- Default features do. -/
theorem DefaultFeature.storesByDefault (d : DefaultFeature) (scope : Nat) :
    (d.instanceAt scope).StoresByDefault where
  execute := Script.storeless_executeSingleParameterlessWorkflow.bind fun _ => .done _
  checkResult run := Script.storeless_checkResult (d.expectedResult scope) run
  checkHistory := rfl

/-- Executes the feature, checks the result, fetches the history of the run and replays it. The value
is the history that has been accepted, if the feature has returned a run. -/
def Feature.acceptance (f : Feature) : Script (Option History) := do
  match ← f.execute with
  | none => return none
  | some run =>
    f.checkResult run
    let current ← Script.perform (.history run.execution)
    Script.perform (.consultWorker fun w => verifyCurrent w current)
    return some current

/-- Replays the stored histories. -/
def Script.checkPast : Script Unit := do
  let past ← perform .loadPast
  perform (.consultWorker fun w => verifyPast w past)

/-- What is left to do once a history has been accepted. -/
def Script.afterAcceptance : Option History → Script Unit
  | none => return ()
  | some current => do
    if (← perform .view).config.generateHistory then
      let _ ← perform (.storeHistories [current])
    checkPast

namespace Script

variable {α β γ : Type}

theorem bind_assoc (script : Script α) (f : α → Script β) (g : β → Script γ) :
    script >>= f >>= g = script >>= fun a => f a >>= g := by
  show Script.bind (Script.bind script f) g = Script.bind script fun a => Script.bind (f a) g
  induction script with
  | done result => cases result <;> rfl
  | call op next ih => exact congrArg (Script.call op) (funext ih)

theorem storeless_checkPast : checkPast.Storeless :=
  Storeless.bind (.perform .loadPast nofun) fun _ => .perform (.consultWorker _) nofun

end Script

/-- The phases of a feature are its acceptance, and then what is left to do. -/
theorem Feature.script_eq {f : Feature} (h : f.checkHistory = Script.checkHistories) :
    f.script = f.acceptance >>= Script.afterAcceptance := by
  unfold script acceptance
  rw [h, Script.bind_assoc]
  refine congrArg (f.execute >>= ·) (funext fun run => ?_)
  cases run with
  | none => rfl
  | some run => simp only [Script.bind_assoc]; rfl

theorem Feature.StoresByDefault.storeless_acceptance {f : Feature} (h : f.StoresByDefault) :
    f.acceptance.Storeless := by
  refine h.execute.bind fun run => ?_
  cases run with
  | none => exact .done _
  | some run =>
    refine (h.checkResult run).bind fun _ => ?_
    refine Script.Storeless.bind (.perform (.history _) nofun) fun current => ?_
    exact Script.Storeless.bind (.perform (.consultWorker _) nofun) fun _ => .done _

namespace Runner

open Program World

/-! ## Which runner a run has -/

/-- The runner has been opened for a feature with certain settings. -/
structure OpenedFor (config : Config) (prepared : PreparedFeature) (r : Runner) : Prop where
  config : r.config = config
  dir : r.dir = prepared.dir
  feature : ∃ scope, r.feature = prepared.instanceAt scope

variable {config : Config} {prepared : PreparedFeature} {r : Runner}

theorem OpenedFor.perform (h : r.OpenedFor config prepared) (op : RunnerOp) (w : World) :
    ((r.perform op).run w).1.2.OpenedFor config prepared := by
  by_cases hop : op = .restartWorker
  · subst hop
    show ((r.restartWorker).run w).1.2.OpenedFor config prepared
    rw [restartWorker, Program.run_bind']
    exact ⟨h.config, h.dir, h.feature⟩
  · rw [(r.stays_perform hop w).1]
    exact h

theorem OpenedFor.exec {α : Type} (h : r.OpenedFor config prepared) (script : Script α)
    (w : World) : ((exec script r).run w).1.2.OpenedFor config prepared := by
  induction script generalizing r w with
  | done _ => exact h
  | call op next ih =>
    rw [Runner.exec, Program.run_bind]
    exact ih _ (h.perform op w) _

/-- The program touches no file, and a runner that it opens is the one that was asked for. -/
def Opens (config : Config) (prepared : PreparedFeature) (p : Program (Except Error Runner)) :
    Prop :=
  ∀ shelf, Ensures (fun w => w.shelf = shelf) p
    (OnResult (fun r w => w.shelf = shelf ∧ r.OpenedFor config prepared) fun w => w.shelf = shelf)

theorem opens_error (e : Error) : Opens config prepared (pure (.error e)) :=
  fun _ => ensures_pure _ fun _ h => h

/-- What does not touch the files may come first. -/
theorem opens_bind {α : Type} {p : Program α} {f : α → Program (Except Error Runner)}
    (h : p.Untouching) (hf : ∀ a, Opens config prepared (f a)) : Opens config prepared (p >>= f) :=
  fun shelf => Ensures.bind (fun w hw => (h w).trans hw) fun a => hf a shelf

theorem opens_assemble (scope : Nat) (service directService : ConnectionId) :
    Opens config prepared
      (assemble config prepared (prepared.instanceAt scope) service directService) := by
  refine opens_bind (untouching_lift (shelf_newClient _ _)) fun client => ?_
  cases client with
  | error e => exact opens_error e
  | ok client =>
    refine opens_bind (untouching_lift (shelf_newClient _ _)) fun directClient => ?_
    cases directClient with
    | error e => exact opens_error e
    | ok directClient =>
      let runner : Runner :=
        { config, feature := prepared.instanceAt scope, service, directService, client, directClient
          dir := prepared.dir
          methods := prepared.methods
          proxy := ⟨config.proxyControl⟩ }
      have hrunner : runner.OpenedFor config prepared := ⟨rfl, rfl, scope, rfl⟩
      have huntouching : runner.restartWorker.Untouching :=
        @untouching_perform runner .restartWorker nofun
      intro shelf
      have hrestarted : Ensures (fun w => w.shelf = shelf) runner.restartWorker
          (fun restarted w => w.shelf = shelf ∧ restarted.2.OpenedFor config prepared) :=
        fun w hw => ⟨(huntouching w).trans hw, hrunner.perform .restartWorker w⟩
      refine hrestarted.bind fun restarted => ?_
      obtain ⟨result, r⟩ := restarted
      cases result with
      | error e => exact ensures_pure _ fun w h => h.1
      | ok _ => exact ensures_pure _ fun w h => h

theorem opens_openConnections (scope : Nat) :
    Opens config prepared (openConnections config prepared (prepared.instanceAt scope)) := by
  refine opens_bind (untouching_connectTo _) fun service => ?_
  cases service with
  | error e => exact opens_error e
  | ok service =>
    refine opens_bind (untouching_connectTo _) fun directService => ?_
    cases directService with
    | error e => exact opens_bind (untouching_releaseAll _) fun _ => opens_error e
    | ok directService =>
      intro shelf
      refine Ensures.bind (opens_assemble scope service directService shelf) fun result => ?_
      cases result with
      | error e => exact opens_bind (untouching_releaseAll _) (fun _ => opens_error e) shelf
      | ok r => exact ensures_pure _ fun w h => h

theorem opens_launch (config : Config) (prepared : PreparedFeature) :
    Opens config prepared (launch config prepared) := by
  unfold launch
  cases config.validate with
  | error e => exact opens_error e
  | ok _ =>
    have hinstance (shelf : World.Shelf) : Ensures (fun w => w.shelf = shelf) (newInstance prepared)
        (fun f w => w.shelf = shelf ∧ ∃ scope, f = prepared.instanceAt scope) :=
      fun w hw => ⟨hw, w.instances + 1, rfl⟩
    refine fun shelf => (hinstance shelf).bind fun feature => ?_
    rintro w ⟨hw, scope, rfl⟩
    revert w
    show Ensures (fun w => w.shelf = shelf) _ _
    cases (prepared.instanceAt scope).skipReason with
    | some reason => exact opens_error _ shelf
    | none => exact opens_openConnections scope shelf

/-! ## After a history has been accepted -/

theorem shelf_checkPast (r : Runner) (w : World) :
    ((exec Script.checkPast r).run w).2.shelf = w.shelf :=
  untouching_exec Script.storeless_checkPast r w

/-- Where nothing is to be stored, no file is touched. -/
theorem shelf_afterAcceptance (hgenerate : r.config.generateHistory = false)
    (accepted : Option History) (w : World) :
    ((exec (Script.afterAcceptance accepted) r).run w).2.shelf = w.shelf := by
  cases accepted with
  | none => rfl
  | some current =>
    unfold Script.afterAcceptance
    rw [run_exec_perform_of_ok (run_view r w)]
    show ((exec (if r.config.generateHistory = true then _ else _) r).run w).2.shelf = _
    rw [hgenerate, if_neg Bool.false_ne_true]
    exact shelf_checkPast r w

/-- Otherwise the accepted history is stored, and whatever comes of the stored ones then, no other
file is touched. -/
theorem files_afterAcceptance (hgenerate : r.config.generateHistory = true) (current : History)
    (w : World) :
    ((exec (Script.afterAcceptance (some current)) r).run w).2.files =
      ((r.fixtures w).store w.files w.sdk.version.text [current]).2 := by
  have hstore : (r.perform (.storeHistories [current])).run w =
      (((r.storeHistories [current] w).1, r), (r.storeHistories [current] w).2) := rfl
  unfold Script.afterAcceptance
  rw [run_exec_perform_of_ok (run_view r w)]
  show ((exec (if r.config.generateHistory = true then _ else _) r).run w).2.files = _
  rw [if_pos hgenerate]
  show ((exec (Script.perform (.storeHistories [current]) >>= _) r).run w).2.files = _
  cases hresult : (r.storeHistories [current] w).1 with
  | error e =>
    rw [hresult] at hstore
    rw [run_exec_perform_of_error hstore]
    rfl
  | ok path =>
    rw [hresult] at hstore
    rw [run_exec_perform_of_ok hstore]
    exact (World.shelf_eq_iff.mp (shelf_checkPast r _)).1

/-- The live history that a runner accepts, if it gets that far: its feature has returned a run, the
result has been accepted, and the history replays. -/
def accepted (r : Runner) (w : World) : Option History :=
  match (exec r.feature.acceptance r).run w with
  | ((.ok history, _), _) => history
  | ((.error _, _), _) => none

/-- What a runner does to the files. -/
theorem files_run (hr : r.OpenedFor config prepared) (hstores : r.feature.StoresByDefault)
    (w : World) :
    (r.run.run w).2.files =
      if config.generateHistory = true then
        match r.accepted w with
        | some current => ((FixtureStore.forFeature config.fixturesDir prepared.dir w.sdk.name).store
            w.files w.sdk.version.text [current]).2
        | none => w.files
      else w.files := by
  have hshelf : ((exec r.feature.acceptance r).run w).2.shelf = w.shelf :=
    untouching_exec hstores.storeless_acceptance r w
  have hr' := hr.exec r.feature.acceptance w
  -- up to the acceptance nothing is written; what is left to do then decides
  unfold run accepted
  rw [r.feature.script_eq hstores.checkHistory, run_exec_bind]
  generalize (exec r.feature.acceptance r).run w = acceptance at hshelf hr' ⊢
  obtain ⟨⟨result, r'⟩, w'⟩ := acceptance
  dsimp only at hshelf hr' ⊢
  obtain ⟨hfiles, hname, hversion⟩ := World.shelf_eq_iff.mp hshelf
  cases result with
  | error e => simpa using hfiles
  | ok history =>
    by_cases hgenerate : config.generateHistory = true
    · rw [if_pos hgenerate]
      cases history with
      | none => exact hfiles
      | some current =>
        dsimp only
        rw [files_afterAcceptance (hr'.config ▸ hgenerate), fixtures, hr'.config, hr'.dir, hname,
          hversion, hfiles]
    · rw [if_neg hgenerate]
      have hoff : r'.config.generateHistory = false := by
        rw [hr'.config]
        exact Bool.eq_false_iff.mpr hgenerate
      exact (World.shelf_eq_iff.mp (shelf_afterAcceptance hoff history w')).1.trans hfiles

end Runner

/-! ## Whole runs -/

/-- The live history that a run accepts, if it gets that far. -/
def acceptedHistory (config : Config) (prepared : PreparedFeature) (w : World) : Option History :=
  match (Runner.launch config prepared).run w with
  | (.ok r, w') => r.accepted w'
  | (.error _, _) => none

theorem files_runFeature (config : Config) {prepared : PreparedFeature}
    (hstores : ∀ scope, (prepared.instanceAt scope).StoresByDefault) (w : World) :
    ((runFeature config prepared).run w).2.files =
      if config.generateHistory = true then
        match acceptedHistory config prepared w with
        | some current => ((FixtureStore.forFeature config.fixturesDir prepared.dir w.sdk.name).store
            w.files w.sdk.version.text [current]).2
        | none => w.files
      else w.files := by
  have hlaunched := Runner.opens_launch config prepared w.shelf w rfl
  have hrun : ((runFeature config prepared).run w).2 = ((runResult config prepared).run w).2 := by
    rw [runFeature, Program.run_bind']
    rfl
  rw [hrun, runResult, Program.run_bind']
  unfold acceptedHistory
  generalize (Runner.launch config prepared).run w = launched at hlaunched ⊢
  obtain ⟨result, w'⟩ := launched
  cases result with
  | error e => simpa using (World.shelf_eq_iff.mp hlaunched).1
  | ok r =>
    obtain ⟨hshelf, hr⟩ := hlaunched
    obtain ⟨hsame, hname, hversion⟩ := World.shelf_eq_iff.mp hshelf
    obtain ⟨scope, hfeature⟩ := hr.feature
    have hfiles := Runner.files_run hr (hfeature ▸ hstores scope) w'
    have hclosed := Runner.untouching_close (r.run.run w').1.2 (r.run.run w').2
    have hafter : ((r.run >>= fun ran => ran.2.close >>= fun closed =>
        (pure (closing ran.1 closed) : Program _)).run w').2.files = (r.run.run w').2.files := by
      rw [Program.run_bind', Program.run_bind']
      exact (World.shelf_eq_iff.mp hclosed).1
    rw [hname, hversion, hsame] at hfiles
    exact hafter.trans hfiles

/-- A run of a feature that leaves its fixtures to the default check changes no file, unless it is told
to generate a history and its own one has been accepted. Then, if it can be written, the fixture of
the current version holds this history, and no other file has been created, changed or removed,
whatever comes of the stored histories. -/
theorem fixture_of_accepted_history (config : Config) {prepared : PreparedFeature}
    (hstores : ∀ scope, (prepared.instanceAt scope).StoresByDefault) (w : World) :
    let store := FixtureStore.forFeature config.fixturesDir prepared.dir w.sdk.name
    let version := w.sdk.version.text
    let files := ((runFeature config prepared).run w).2.files
    (¬(config.generateHistory = true ∧ (acceptedHistory config prepared w).isSome) →
      files = w.files) ∧
    ∀ current, config.generateHistory = true →
      acceptedHistory config prepared w = some current →
      ∀ path, (store.store w.files version [current]).1 = .ok path →
        path = store.pathOf version ∧ store.Written version [current] w.files files := by
  intro store version files
  have hfiles := files_runFeature config hstores w
  constructor
  · intro hnot
    by_cases hgenerate : config.generateHistory = true
    · rw [if_pos hgenerate] at hfiles
      cases haccepted : acceptedHistory config prepared w with
      | none =>
        rw [haccepted] at hfiles
        exact hfiles
      | some current =>
        rw [haccepted] at hnot
        exact absurd ⟨hgenerate, rfl⟩ hnot
    · rw [if_neg hgenerate] at hfiles
      exact hfiles
  · intro current hgenerate haccepted path hpath
    rw [if_pos hgenerate, haccepted] at hfiles
    have hstored : store.store w.files version [current] = (.ok path, files) :=
      Prod.ext hpath hfiles.symm
    exact ⟨(FixtureStore.store_eq_ok hstored).1, FixtureStore.written_of_store hstored⟩

/-- A workflow has only been started when its history is fetched. It replays, and is stored in the
directory that is there for it. -/
theorem fixture_of_started_workflow :
    let recording : PreparedFeature := ⟨"hi", fun _ =>
      { workflows := [⟨⟨"Report", .any, 0⟩, fun _ _ => .done (.ok .null)⟩]
        checkResult := fun _ => return () }⟩
    let config : Config :=
      { server := "host", ns := "default", taskQueue := "queue", generateHistory := true }
    let dir : Location := ["features", "hi", "history"].map Text.bytesOf
    let nodes := ((Table.empty.insert (dir.take 1) .directory).insert (dir.take 2)
      FileNode.directory).insert dir .directory
    let w : World := { files := { nodes } }
    let store : FixtureStore := ⟨"features/hi/history", "rust"⟩
    ∃ current, acceptedHistory config recording w = some current ∧
      store.Written "0.1.0" [current] w.files ((runFeature config recording).run w).2.files := by
  intro recording config dir nodes w store
  have hstores : ∀ scope, (recording.instanceAt scope).StoresByDefault := fun _ =>
    { execute := Script.storeless_executeSingleParameterlessWorkflow.bind fun _ => .done _
      checkResult := fun _ => .done _
      checkHistory := rfl }
  have haccepted : (acceptedHistory config recording w).isSome = true := by decide +kernel
  obtain ⟨current, hcurrent⟩ := Option.isSome_iff_exists.mp haccepted
  have hstore : FixtureStore.forFeature config.fixturesDir recording.dir w.sdk.name = store := by
    have hsegments : Path.segments "hi" = ["hi"] := by
      rw [Path.segments_eq]
      decide +kernel
    have hpush : Path.push (Path.push "features" "hi") "history" = "features/hi/history" := by
      decide +kernel
    show FixtureStore.mk (Path.push ((Path.segments "hi").foldl Path.push "features") "history") _ = _
    rw [hsegments]
    exact congrArg (FixtureStore.mk · "rust") hpush
  have hversion : w.sdk.version.text = "0.1.0" := by decide +kernel
  have hpath : store.pathOf "0.1.0" = "features/hi/history/history.rust.0.1.0.json" := by
    decide +kernel
  have hdir : w.files.find (Text.bytesOf store.dir) = .ok (dir, .directory) := by decide +kernel
  have htarget : w.files.target (Text.bytesOf (store.pathOf "0.1.0")) =
      .ok (dir ++ [Text.bytesOf "history.rust.0.1.0.json"]) := by
    rw [hpath]
    decide +kernel
  have hstored := FixtureStore.store_of_target (FileTree.makeAll_of_directory hdir) htarget [current]
  refine ⟨current, hcurrent, ?_⟩
  have hrun := (fixture_of_accepted_history config hstores w).2 current rfl hcurrent
    (store.pathOf "0.1.0")
  rw [hstore, hversion, hstored] at hrun
  exact (hrun rfl).2

end Conformance
