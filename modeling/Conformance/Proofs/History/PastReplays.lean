import Conformance.Proofs.History.Discovery

/-!
# Which fixtures decide a check of past histories

The histories in all fixtures of versions up to the current one are loaded, joined by their versions,
and replayed in the order of the versions. Each history of each such file is replayed, whatever other
files have an equal version, and nothing else is read.

## Main definitions

- `PastHistories.Has` — the histories of a version
- `FixtureStore.check` — loads past histories and replays them
- `FixtureStore.Counts` — the fixtures of versions up to the current one
- `FixtureStore.Checked` — how a check ends
- `FixtureStore.Alike` — two trees of files with the same fixtures up to the current version

## Main statements

- `FixtureStore.loadFiles_cases` — no history is lost when files are joined
- `verifyPast_cases` — the first failure is one of the least version
- `FixtureStore.checked_check` — every check ends in one of the ways
- `FixtureStore.fixtures_decide_check` — what a check depends on
-/

namespace Conformance

/-! ## Histories by versions -/

namespace PastHistories

variable {past : PastHistories}

/-- A history is there under a version. -/
def Has (past : PastHistories) (v : Version) (h : History) : Prop :=
  ∃ histories, (v, histories) ∈ past ∧ h ∈ histories

/-- Every version occurs at most once, and newer ones come later. -/
def Ascending (past : PastHistories) : Prop := past.Pairwise fun a b => a.1.rank < b.1.rank

theorem has_cons {e : Version × List History} {v : Version} {h : History} :
    Has (e :: past) v h ↔ v = e.1 ∧ h ∈ e.2 ∨ past.Has v h := by
  constructor
  · rintro ⟨histories, hmem, hh⟩
    rcases List.mem_cons.mp hmem with rfl | hmem
    · exact .inl ⟨rfl, hh⟩
    · exact .inr ⟨histories, hmem, hh⟩
  · rintro (⟨rfl, hh⟩ | ⟨histories, hmem, hh⟩)
    · exact ⟨e.2, List.mem_cons_self .., hh⟩
    · exact ⟨histories, List.mem_cons_of_mem _ hmem, hh⟩

/-- Nothing is lost and nothing else comes in. -/
theorem has_add {v v' : Version} {histories : List History} {h : History} :
    Has (add v histories past) v' h ↔ past.Has v' h ∨ v' = v ∧ h ∈ histories := by
  induction past with
  | nil =>
    rw [add, has_cons]
    exact or_comm
  | cons e past ih =>
    obtain ⟨v₁, there⟩ := e
    rw [add]
    cases hcompare : v.compare v₁ with
    | lt =>
      rw [has_cons]
      exact or_comm
    | eq =>
      rw [Version.compare_eq, Nat.compare_eq_eq, Version.rank_inj] at hcompare
      subst hcompare
      rw [has_cons, has_cons, List.mem_append, and_or_left, or_right_comm]
    | gt => rw [has_cons, has_cons, ih, or_assoc]

theorem version_add {v : Version} {histories : List History} {e : Version × List History}
    (h : e ∈ add v histories past) : e.1 = v ∨ ∃ e' ∈ past, e'.1 = e.1 := by
  induction past with
  | nil => exact .inl (congrArg (·.1) (List.mem_singleton.mp h))
  | cons e₁ past ih =>
    obtain ⟨v₁, there⟩ := e₁
    rw [add] at h
    split at h
    · rcases List.mem_cons.mp h with rfl | h
      · exact .inl rfl
      · exact .inr ⟨e, h, rfl⟩
    · rcases List.mem_cons.mp h with rfl | h
      · exact .inr ⟨_, List.mem_cons_self .., rfl⟩
      · exact .inr ⟨e, List.mem_cons_of_mem _ h, rfl⟩
    · rcases List.mem_cons.mp h with rfl | h
      · exact .inr ⟨_, List.mem_cons_self .., rfl⟩
      · rcases ih h with hv | ⟨e', he', hv⟩
        · exact .inl hv
        · exact .inr ⟨e', List.mem_cons_of_mem _ he', hv⟩

theorem Ascending.add (hpast : past.Ascending) (v : Version) (histories : List History) :
    Ascending (add v histories past) := by
  induction past with
  | nil => exact List.pairwise_singleton _ _
  | cons e past ih =>
    obtain ⟨v₁, there⟩ := e
    have hhead := (List.pairwise_cons.mp hpast).1
    have htail := (List.pairwise_cons.mp hpast).2
    rw [PastHistories.add]
    cases hcompare : v.compare v₁ with
    | lt =>
      rw [Version.compare_eq, Nat.compare_eq_lt] at hcompare
      refine List.pairwise_cons.mpr ⟨fun e he => ?_, hpast⟩
      rcases List.mem_cons.mp he with rfl | he
      · exact hcompare
      · exact Nat.lt_trans hcompare (hhead e he)
    | eq => exact List.pairwise_cons.mpr ⟨hhead, htail⟩
    | gt =>
      rw [Version.compare_eq, Nat.compare_eq_gt] at hcompare
      refine List.pairwise_cons.mpr ⟨fun e he => ?_, ih htail⟩
      rcases version_add he with hv | ⟨e', he', hv⟩
      · rw [hv]
        exact hcompare
      · rw [← hv]
        exact hhead e' he'

end PastHistories

/-! ## Replays -/

/-- The histories of a version all replay, or one of them does not. -/
theorem verifyVersion_cases (w : Worker) (v : Version) (histories : List History) :
    verifyVersion w v histories = .ok () ∧ (∀ h ∈ histories, w.replay h = .ok ()) ∨
      (∃ reason, verifyVersion w v histories = .error (.replay (some v) reason)) ∧
        ∃ h ∈ histories, w.replay h ≠ .ok () := by
  induction histories with
  | nil => exact .inl ⟨rfl, nofun⟩
  | cons h histories ih =>
    rw [verifyVersion]
    cases hreplay : w.replay h with
    | error e =>
      refine .inr ⟨⟨_, rfl⟩, h, List.mem_cons_self .., ?_⟩
      rw [hreplay]
      nofun
    | ok _ =>
      rcases ih with ⟨hok, hall⟩ | ⟨herror, h', hmem, hfails⟩
      · exact .inl ⟨hok, List.forall_mem_cons.mpr ⟨hreplay, hall⟩⟩
      · exact .inr ⟨herror, h', List.mem_cons_of_mem _ hmem, hfails⟩

/-- All past histories replay, or the error names the least version of one that does not. -/
theorem verifyPast_cases (w : Worker) {past : PastHistories} (hpast : past.Ascending) :
    verifyPast w past = .ok () ∧ (∀ v h, past.Has v h → w.replay h = .ok ()) ∨
      ∃ v reason, verifyPast w past = .error (.replay (some v) reason) ∧
        (∃ h, past.Has v h ∧ w.replay h ≠ .ok ()) ∧
        ∀ v' h, past.Has v' h → w.replay h ≠ .ok () → v.rank ≤ v'.rank := by
  induction past with
  | nil => exact .inl ⟨rfl, fun v h ⟨_, hmem, _⟩ => nomatch hmem⟩
  | cons e past ih =>
    obtain ⟨v, histories⟩ := e
    have hhead := (List.pairwise_cons.mp hpast).1
    rw [verifyPast]
    -- versions ascend, so that the first one with a failing history is the least
    rcases verifyVersion_cases w v histories with ⟨hok, hall⟩ | ⟨⟨reason, herror⟩, h, hmem, hfails⟩
    · rw [hok]
      rcases ih (List.pairwise_cons.mp hpast).2 with
        ⟨hrest, hreplays⟩ | ⟨v₁, reason, hrest, ⟨h, hhas, hfails⟩, hleast⟩
      · refine .inl ⟨hrest, fun v' h hhas => ?_⟩
        rcases PastHistories.has_cons.mp hhas with ⟨-, hh⟩ | hhas
        · exact hall h hh
        · exact hreplays v' h hhas
      · refine .inr ⟨v₁, reason, hrest, ⟨h, PastHistories.has_cons.mpr (.inr hhas), hfails⟩, ?_⟩
        intro v' h' hhas' hfails'
        rcases PastHistories.has_cons.mp hhas' with ⟨-, hh⟩ | hhas'
        · exact absurd (hall h' hh) hfails'
        · exact hleast v' h' hhas' hfails'
    · rw [herror]
      refine .inr ⟨v, reason, rfl, ⟨h, ⟨histories, List.mem_cons_self .., hmem⟩, hfails⟩, ?_⟩
      rintro v' h' ⟨histories', hmem', -⟩ -
      rcases List.mem_cons.mp hmem' with heq | hmem'
      · cases heq
        exact Nat.le_refl v.rank
      · exact Nat.le_of_lt (hhead _ hmem')

namespace FixtureStore

variable {s : FixtureStore} {files : FileTree} {current : Version} {w : Worker}

/-! ## Loading -/

/-- A history is in one of the files of a version up to the current one. -/
def InFiles (files : FileTree) (current : Version) (found : List FixtureFile) (v : Version)
    (h : History) : Prop :=
  ∃ f ∈ found, f.version = v ∧ v.upTo current = true ∧
    ∃ histories, read files f.path = .ok histories ∧ h ∈ histories

theorem inFiles_cons {f : FixtureFile} {found : List FixtureFile} {v : Version} {h : History} :
    InFiles files current (f :: found) v h ↔
      (f.version = v ∧ v.upTo current = true ∧
        ∃ histories, read files f.path = .ok histories ∧ h ∈ histories) ∨
      InFiles files current found v h := by
  unfold InFiles
  simp only [List.mem_cons, or_and_right, exists_or, exists_eq_left]

theorem read_error {path : String} {e : Error} (h : read files path = .error e) :
    ∃ reason, e = .invalidFixture path reason := by
  unfold read at h
  split at h
  · cases h
    exact ⟨_, rfl⟩
  · split at h
    · cases h
      exact ⟨_, rfl⟩
    · split at h
      · cases h
        exact ⟨_, rfl⟩
      · cases h

/-- The histories of all files of versions up to the current one are joined to those that are
there, unless one of these files cannot be read. -/
theorem loadFiles_cases (files : FileTree) (current : Version) (past : PastHistories)
    (found : List FixtureFile) :
    (∃ joined, loadFiles files current past found = .ok joined ∧
        (past.Ascending → joined.Ascending) ∧
        (∀ f ∈ found, f.version.upTo current = true → ∃ histories, read files f.path = .ok histories) ∧
        ∀ v h, joined.Has v h ↔ past.Has v h ∨ InFiles files current found v h) ∨
      (∃ path reason, loadFiles files current past found = .error (.invalidFixture path reason)) ∧
        ∃ f ∈ found, f.version.upTo current = true ∧
          ∀ histories, read files f.path ≠ .ok histories := by
  induction found generalizing past with
  | nil =>
    refine .inl ⟨past, rfl, id, nofun, fun v h => ?_⟩
    exact (or_iff_left fun ⟨_, hmem, _⟩ => nomatch hmem).symm
  | cons f found ih =>
    rw [loadFiles]
    by_cases hup : f.version.upTo current = true
    · rw [if_pos hup]
      cases hread : read files f.path with
      | error e =>
        obtain ⟨reason, rfl⟩ := read_error hread
        refine .inr ⟨⟨_, _, rfl⟩, f, List.mem_cons_self .., hup, ?_⟩
        rw [hread]
        nofun
      | ok histories =>
        rcases ih (PastHistories.add f.version histories past) with
          ⟨joined, hjoined, hascending, hreads, hhas⟩ | ⟨herror, g, hg, hbad⟩
        · refine .inl ⟨joined, hjoined, fun h => hascending (h.add _ _), ?_, fun v h => ?_⟩
          · exact List.forall_mem_cons.mpr ⟨fun _ => ⟨histories, hread⟩, hreads⟩
          · rw [hhas, PastHistories.has_add, inFiles_cons, or_assoc]
            refine or_congr_right (or_congr_left ⟨?_, ?_⟩)
            · rintro ⟨rfl, hh⟩
              exact ⟨rfl, hup, histories, hread, hh⟩
            · rintro ⟨rfl, -, histories', hread', hh⟩
              cases hread.symm.trans hread'
              exact ⟨rfl, hh⟩
        · exact .inr ⟨herror, g, List.mem_cons_of_mem _ hg, hbad⟩
    · rw [if_neg hup]
      rcases ih past with ⟨joined, hjoined, hascending, hreads, hhas⟩ | ⟨herror, g, hg, hbad⟩
      · refine .inl ⟨joined, hjoined, hascending, ?_, fun v h => ?_⟩
        · exact List.forall_mem_cons.mpr ⟨fun h => absurd h hup, hreads⟩
        · rw [hhas, inFiles_cons]
          refine or_congr_right (or_iff_right ?_).symm
          rintro ⟨rfl, h, -⟩
          exact hup h
      · exact .inr ⟨herror, g, List.mem_cons_of_mem _ hg, hbad⟩

/-! ## Checks -/

/-- Loads the histories of all versions up to the current one and replays them. -/
def check (s : FixtureStore) (files : FileTree) (current : Version) (w : Worker) :
    Except Error Unit := do
  verifyPast w (← s.loadUpTo files current)

/-- The directory holds the file of a version that is not newer than the current one. -/
def Counts (s : FixtureStore) (files : FileTree) (current : Version) (raw : String) (v : Version) :
    Prop :=
  s.Holds files raw ∧ Version.parse raw = .ok v ∧ v.upTo current = true

/-- Every file that counts holds a list of histories. -/
def Decodes (s : FixtureStore) (files : FileTree) (current : Version) : Prop :=
  ∀ raw v, s.Counts files current raw v →
    ∃ histories, read files (s.pathOf raw) = .ok histories

/-- A history in a file of the version that counts does not replay. -/
def Fails (s : FixtureStore) (files : FileTree) (current : Version) (w : Worker) (v : Version) :
    Prop :=
  ∃ raw histories, s.Counts files current raw v ∧
    read files (s.pathOf raw) = .ok histories ∧ ∃ h ∈ histories, w.replay h ≠ .ok ()

/-- The directory can be searched, and what counts in it can be read. -/
structure Readable (s : FixtureStore) (files : FileTree) (current : Version) : Prop where
  enumerable : s.Enumerable files
  named : s.Named files
  decodes : s.Decodes files current

/-- How a check ends: all histories replay, or one of the least version does not, or it does not
come to replays. -/
inductive Checked (s : FixtureStore) (files : FileTree) (current : Version) (w : Worker) :
    Except Error Unit → Prop
  | accepted (hreadable : s.Readable files current) (hreplays : ∀ v, ¬ s.Fails files current w v) :
      Checked s files current w (.ok ())
  | refused {v : Version} {reason : String} (hreadable : s.Readable files current)
      (hfails : s.Fails files current w v)
      (hleast : ∀ v', s.Fails files current w v' → v.rank ≤ v'.rank) :
      Checked s files current w (.error (.replay (some v) reason))
  | unread {e : Error} (hunread : ¬ s.Readable files current)
      (he : ∀ version reason, e ≠ .replay version reason) : Checked s files current w (.error e)

/-- What is in the files that have been found is what counts. -/
theorem Collects.inFiles_iff {found : List FixtureFile} (h : s.Collects (s.Holds files) found)
    {v : Version} {history : History} :
    InFiles files current found v history ↔
      ∃ raw histories, s.Counts files current raw v ∧
        read files (s.pathOf raw) = .ok histories ∧ history ∈ histories := by
  constructor
  · rintro ⟨f, hf, rfl, hup, histories, hread, hmem⟩
    obtain ⟨raw, hraw, hparse, hpath⟩ := h.sound f hf
    rw [hpath] at hread
    exact ⟨raw, histories, ⟨hraw, hparse, hup⟩, hread, hmem⟩
  · rintro ⟨raw, histories, ⟨hraw, hparse, hup⟩, hread, hmem⟩
    obtain ⟨v', hv', hf⟩ := h.complete raw hraw
    cases hparse.symm.trans hv'
    exact ⟨_, hf, rfl, hup, histories, hread, hmem⟩

theorem checked_check (s : FixtureStore) (files : FileTree) (current : Version) (w : Worker) :
    s.Checked files current w (s.check files current w) := by
  unfold check loadUpTo
  rcases s.discover_cases files with
    ⟨found, hfound, henumerable, hcollects⟩ | ⟨⟨e, he, hkind⟩, hunread⟩
  · have hnamed : s.Named files := fun raw hraw =>
      (hcollects.complete raw hraw).imp fun _ hv => hv.1
    rw [hfound]
    rcases loadFiles_cases files current [] found with
      ⟨joined, hjoined, hascending, hreads, hhas⟩ | ⟨⟨path, reason, herror⟩, f, hf, hup, hbad⟩
    · have hdecodes : s.Decodes files current := by
        rintro raw v ⟨hraw, hparse, hup⟩
        obtain ⟨v', hv', hf⟩ := hcollects.complete raw hraw
        cases hparse.symm.trans hv'
        exact hreads ⟨v, s.pathOf raw⟩ hf hup
      have hreadable : s.Readable files current := ⟨henumerable, hnamed, hdecodes⟩
      have hiff : ∀ v h, joined.Has v h ↔ ∃ raw histories, s.Counts files current raw v ∧
          read files (s.pathOf raw) = .ok histories ∧ h ∈ histories := by
        intro v h
        rw [hhas, hcollects.inFiles_iff]
        exact or_iff_right fun ⟨_, hmem, _⟩ => nomatch hmem
      show s.Checked files current w ((loadFiles files current [] found).bind (verifyPast w))
      rw [hjoined]
      show s.Checked files current w (verifyPast w joined)
      rcases verifyPast_cases w (hascending List.Pairwise.nil) with
        ⟨hok, hreplays⟩ | ⟨v, reason, herror, ⟨h, hhash, hfails⟩, hleast⟩
      · rw [hok]
        refine .accepted hreadable fun v ⟨raw, histories, hcounts, hread, h, hmem, hfails⟩ => ?_
        exact hfails (hreplays v h ((hiff v h).mpr ⟨raw, histories, hcounts, hread, hmem⟩))
      · rw [herror]
        refine .refused hreadable ?_ fun v' ⟨raw, histories, hcounts, hread, h', hmem, hfails'⟩ => ?_
        · obtain ⟨raw, histories, hcounts, hread, hmem⟩ := (hiff v h).mp hhash
          exact ⟨raw, histories, hcounts, hread, h, hmem, hfails⟩
        · exact hleast v' h' ((hiff v' h').mpr ⟨raw, histories, hcounts, hread, hmem⟩) hfails'
    · show s.Checked files current w ((loadFiles files current [] found).bind (verifyPast w))
      rw [herror]
      refine .unread (fun hreadable => ?_) nofun
      obtain ⟨raw, hraw, hparse, hpath⟩ := hcollects.sound f hf
      obtain ⟨histories, hread⟩ := hreadable.decodes raw f.version ⟨hraw, hparse, hup⟩
      exact hbad histories (hpath ▸ hread)
  · rw [he]
    exact .unread (fun h => hunread ⟨h.enumerable, h.named⟩) hkind

/-- A check succeeds exactly if everything that counts can be read and replays. -/
theorem check_eq_ok_iff (s : FixtureStore) (files : FileTree) (current : Version) (w : Worker) :
    s.check files current w = .ok () ↔
      s.Readable files current ∧ ∀ v, ¬ s.Fails files current w v := by
  have hchecked := s.checked_check files current w
  constructor
  · intro h
    rw [h] at hchecked
    cases hchecked with
    | accepted hreadable hreplays => exact ⟨hreadable, hreplays⟩
  · rintro ⟨hreadable, hreplays⟩
    generalize s.check files current w = result at hchecked
    cases hchecked with
    | accepted _ _ => rfl
    | refused _ hfails _ => exact absurd hfails (hreplays _)
    | unread hunread _ => exact absurd hreadable hunread

/-- What counts is read, and every history in it is replayed. -/
theorem check_eq_ok_iff_replays (s : FixtureStore) (files : FileTree) (current : Version)
    (w : Worker) :
    s.check files current w = .ok () ↔
      s.Enumerable files ∧ (∀ raw, s.Holds files raw → ∃ v, Version.parse raw = .ok v) ∧
        ∀ raw v, s.Counts files current raw v →
          ∃ histories, read files (s.pathOf raw) = .ok histories ∧
            ∀ h ∈ histories, w.replay h = .ok () := by
  rw [check_eq_ok_iff]
  constructor
  · rintro ⟨hreadable, hreplays⟩
    refine ⟨hreadable.enumerable, hreadable.named, fun raw v hcounts => ?_⟩
    obtain ⟨histories, hread⟩ := hreadable.decodes raw v hcounts
    refine ⟨histories, hread, fun h hmem => Classical.byContradiction fun hfails => ?_⟩
    exact hreplays v ⟨raw, histories, hcounts, hread, h, hmem, hfails⟩
  · rintro ⟨henumerable, hnamed, hall⟩
    refine ⟨⟨henumerable, hnamed, fun raw v hcounts => ?_⟩, ?_⟩
    · exact (hall raw v hcounts).imp fun _ hread => hread.1
    · rintro v ⟨raw, histories, hcounts, hread, h, hmem, hfails⟩
      obtain ⟨histories', hread', hreplays⟩ := hall raw v hcounts
      cases hread.symm.trans hread'
      exact hfails (hreplays h hmem)

/-- The version that a check names is the least one with a failing history. -/
theorem check_eq_replay_iff (s : FixtureStore) (files : FileTree) (current : Version) (w : Worker)
    (v : Version) :
    (∃ reason, s.check files current w = .error (.replay (some v) reason)) ↔
      s.Readable files current ∧ s.Fails files current w v ∧
        ∀ v', s.Fails files current w v' → v.rank ≤ v'.rank := by
  have hchecked := s.checked_check files current w
  constructor
  · rintro ⟨reason, h⟩
    rw [h] at hchecked
    cases hchecked with
    | refused hreadable hfails hleast => exact ⟨hreadable, hfails, hleast⟩
    | unread _ he => exact absurd rfl (he (some v) reason)
  · rintro ⟨hreadable, hfails, hleast⟩
    generalize s.check files current w = result at hchecked
    cases hchecked with
    | accepted _ hreplays => exact absurd hfails (hreplays v)
    | unread hunread _ => exact absurd hreadable hunread
    | @refused v₁ reason _ hfails₁ hleast₁ =>
      have hrank : v₁.rank = v.rank := Nat.le_antisymm (hleast₁ v hfails) (hleast v₁ hfails₁)
      rw [Version.rank_inj.mp hrank]
      exact ⟨reason, rfl⟩

/-! ## What a check does not depend on -/

/-- The same fixtures are in two trees of files, and those of versions up to the current one have
the same content. The order of the entries, files of newer versions and whatever is no fixture of
this SDK may differ. -/
structure Alike (s : FixtureStore) (current : Version) (files files' : FileTree) : Prop where
  enumerable : s.Enumerable files ↔ s.Enumerable files'
  holds : ∀ raw, (∀ v, Version.parse raw = .ok v → v.upTo current = true) →
    (s.Holds files raw ↔ s.Holds files' raw)
  content : ∀ raw v, s.Counts files current raw v →
    files.read (Text.bytesOf (s.pathOf raw)) = files'.read (Text.bytesOf (s.pathOf raw))

section

variable {files' : FileTree} (h : s.Alike current files files')

include h

theorem Alike.counts_iff {raw : String} {v : Version} :
    s.Counts files current raw v ↔ s.Counts files' current raw v := by
  refine and_congr_left fun hv => h.holds raw fun v' hv' => ?_
  rw [Except.ok.inj (hv'.symm.trans hv.1)]
  exact hv.2

theorem Alike.read_eq {raw : String} {v : Version} (hcounts : s.Counts files current raw v) :
    read files (s.pathOf raw) = read files' (s.pathOf raw) := by
  unfold read FileTree.readText
  rw [h.content raw v hcounts]

theorem Alike.symm : s.Alike current files' files where
  enumerable := h.enumerable.symm
  holds raw hraw := (h.holds raw hraw).symm
  content raw v hcounts := (h.content raw v (h.counts_iff.mpr hcounts)).symm

theorem Alike.readable (hreadable : s.Readable files current) : s.Readable files' current where
  enumerable := h.enumerable.mp hreadable.enumerable
  named := by
    intro raw hraw
    -- a text of a version that cannot be read stands for no newer version either
    by_cases hparse : ∃ v, Version.parse raw = .ok v
    · exact hparse
    · have hno : ∀ v, Version.parse raw = .ok v → v.upTo current = true :=
        fun v hv => absurd ⟨v, hv⟩ hparse
      exact hreadable.named raw ((h.holds raw hno).mpr hraw)
  decodes := by
    intro raw v hcounts
    have hcounts' := h.counts_iff.mpr hcounts
    rw [← h.read_eq hcounts']
    exact hreadable.decodes raw v hcounts'

theorem Alike.fails {v : Version} (hfails : s.Fails files current w v) :
    s.Fails files' current w v := by
  obtain ⟨raw, histories, hcounts, hread, hfails⟩ := hfails
  rw [h.read_eq hcounts] at hread
  exact ⟨raw, histories, h.counts_iff.mp hcounts, hread, hfails⟩

theorem Alike.readable_iff : s.Readable files current ↔ s.Readable files' current :=
  ⟨h.readable, h.symm.readable⟩

theorem Alike.fails_iff {v : Version} :
    s.Fails files current w v ↔ s.Fails files' current w v :=
  ⟨h.fails, h.symm.fails⟩

theorem Alike.check_iff :
    (s.check files current w = .ok () ↔ s.check files' current w = .ok ()) ∧
      ∀ v, (∃ reason, s.check files current w = .error (.replay (some v) reason)) ↔
        ∃ reason, s.check files' current w = .error (.replay (some v) reason) := by
  simp only [check_eq_ok_iff, check_eq_replay_iff, h.readable_iff, h.fails_iff]
  exact ⟨trivial, fun _ => trivial⟩

end

/-- A check succeeds exactly if the directory is missing or can be listed, the version of each file
of this SDK can be read, and each file of a version up to the current one holds histories that all
replay. If one of them does not replay, the error names the least version of such a history. Neither
depends on anything else. -/
theorem fixtures_decide_check (s : FixtureStore) (files : FileTree) (current : Version)
    (w : Worker) :
    (s.check files current w = .ok () ↔
      s.Enumerable files ∧ (∀ raw, s.Holds files raw → ∃ v, Version.parse raw = .ok v) ∧
        ∀ raw v, s.Counts files current raw v →
          ∃ histories, read files (s.pathOf raw) = .ok histories ∧
            ∀ h ∈ histories, w.replay h = .ok ()) ∧
    (s.Readable files current → (∃ v, s.Fails files current w v) →
      ∃ v reason, s.check files current w = .error (.replay (some v) reason) ∧
        s.Fails files current w v ∧ ∀ v', s.Fails files current w v' → v.upTo v' = true) ∧
    ∀ files', s.Alike current files files' →
      (s.check files current w = .ok () ↔ s.check files' current w = .ok ()) ∧
      ∀ v, (∃ reason, s.check files current w = .error (.replay (some v) reason)) ↔
        ∃ reason, s.check files' current w = .error (.replay (some v) reason) := by
  refine ⟨s.check_eq_ok_iff_replays files current w, ?_, fun files' h => h.check_iff⟩
  rintro hreadable ⟨v, hfails⟩
  have hchecked := s.checked_check files current w
  generalize s.check files current w = result at hchecked
  cases hchecked with
  | accepted _ hreplays => exact absurd hfails (hreplays v)
  | unread hunread _ => exact absurd hreadable hunread
  | @refused v₁ reason _ hfails₁ hleast =>
    exact ⟨v₁, reason, rfl, hfails₁, fun v' hfails' => Version.upTo_iff.mpr (hleast v' hfails')⟩

end FixtureStore

end Conformance
