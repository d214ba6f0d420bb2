import Conformance.Proofs.Proxy.Running

/-!
# Brackets keep their order

Whatever goes on beside a bracket, its first command is sent once and answered before anything else is
done, its second command is sent once and not too early, and the bracket returns the value of its work
after both have ended.

## Main statements

- `brackets_keep_their_order` — so it is for the brackets of programs and of scripts, and there are such
  chronicles for all scripts

## Design notes

The actions of a bracket are listed with the moments at which they are made, so that `Bracketed` says
both what has been done and that nothing else has.
-/

namespace Conformance

open Program

/-- A bracket of a program, or of a script, has always got as far as it may, whatever goes on beside it.
A script with a bracket ends, and it does so along such a chronicle. -/
theorem brackets_keep_their_order (sleep : Duration) (first second : ProxyCommand) :
    (∀ (κ : Chronicle) (p : ProxyController) {α : Type} (work : Program (Except Error α))
        (n m : Nat) (acts : List (Nat × Nat)) (q : Program (Except Error α)),
      κ.Goes ((proxy p).bracket sleep first second work) n acts q m →
        κ.Bracketed p sleep first second .error work n m acts q) ∧
    (∀ (κ : Chronicle) (r : Runner) {α : Type} (work : Script α) (n m : Nat)
        (acts : List (Nat × Nat)) (q : Program (Except Error α × Runner)),
      κ.Goes (r.exec (Script.bracket sleep first second work)) n acts q m →
        κ.Bracketed r.proxy sleep first second (fun e => (.error e, r)) (r.exec work) n m acts q) ∧
    ∀ (r : Runner) {α : Type} (work : Script α) (w : World), w.server.Timed → w.Ticketed →
      ∃ (κ : Chronicle) (acts : List (Nat × Nat)) (m : Nat), κ.world 0 = w ∧
        κ.Goes (r.exec (Script.bracket sleep first second work)) 0 acts
          (.done ((r.exec (Script.bracket sleep first second work)).run w).1) m ∧
        κ.world m = ((r.exec (Script.bracket sleep first second work)).run w).2 := by
  refine ⟨fun κ p α work n m acts q h => ?_, fun κ r α work n m acts q h => ?_,
    fun r α work w htimed hticketed => ?_⟩
  · rw [bracket_eq] at h
    exact Chronicle.bracketed_of_goes h
  · have h : κ.Goes (Runner.exec (Script.bracket sleep first second work) r) n acts q m := h
    rw [Runner.exec_bracket_eq] at h
    exact Chronicle.bracketed_of_goes h
  · exact (Runner.told_exec _ r).exists_chronicle htimed hticketed

/-! ## Work that fails while the second command is put off -/

/-- An endpoint below which commands can be asked for. -/
def openProxy : ProxyController :=
  ⟨some { scheme := "http", authority := none, path := .segments [""], query := none, fragment := none }⟩

/-- A world in which the stand-in endpoint answers every command. -/
def answeringWorld : World := { network := .withStandIn }

theorem ticketed_answeringWorld : answeringWorld.Ticketed where
  given _ hd := absurd hd List.not_mem_nil
  distinct := List.nodup_nil

theorem sendCommand_openProxy (c : ProxyCommand) :
    (answeringWorld.sendCommand openProxy c).1 = .ok () := by
  rcases answeringWorld.sendCommand_cases openProxy c with ⟨hok, -⟩ | ⟨e, -, hrefuses⟩
  · exact hok
  · exfalso
    cases hrefuses with
    | unavailable h => cases h
    | unusable base h hpush =>
      cases h
      cases (Url.pushSegment?_eq_none_iff _ _).mp hpush "."
    | unanswered _ _ hpost => cases hpost
    | status _ _ _ hpost hstatus =>
      cases hpost
      exact absurd hstatus (by decide)

/-- Connections hang. -/
def frozenWorld : World := (answeringWorld.sendCommand openProxy .freeze).2

/-- Connections will hang for five milliseconds more. -/
def thawingWorld : World := (frozenWorld.sendLater openProxy (.ofMillis 5) .thaw).2

theorem delayed_thawingWorld : thawingWorld.delayed = [⟨0, 5, openProxy, .thaw⟩] := by
  obtain ⟨hdelayed, htickets⟩ := answeringWorld.sendCommand_delayed openProxy .freeze
  have hclock := answeringWorld.clock_sendCommand openProxy .freeze
  show frozenWorld.delayed ++ [⟨frozenWorld.tickets, frozenWorld.clock + 5, openProxy, .thaw⟩] = _
  unfold frozenWorld
  rw [hdelayed, htickets, hclock]
  rfl

/-- Connections hang for five milliseconds, after which nothing happens any more. -/
def frozenChronicle : Chronicle where
  world
    | 0 => answeringWorld
    | 1 => frozenWorld
    | 2 => thawingWorld
    | 3 => thawingWorld.advanceTo 5
    | _ => (thawingWorld.advanceTo 5).sendDelayed 0
  start := ticketed_answeringWorld
  turn
    | 0 =>
      have hdelayed := answeringWorld.sendCommand_delayed openProxy .freeze
      .other hdelayed.1 hdelayed.2 (answeringWorld.clock_sendCommand openProxy .freeze)
    | 1 => .delay ..
    | 2 => .time 5
    | 3 => .sent ⟨0, 5, openProxy, .thaw⟩
        ⟨0, congrArg (fun ds : List DelayedCommand => ds[0]?) delayed_thawingWorld,
          Nat.le_max_right .., rfl⟩
    | _ + 4 => .refl _

/-- A bracket goes along it, whatever its work has ended with before. -/
theorem goes_frozenChronicle {β : Type} (refused : Error → β) (b : β) :
    frozenChronicle.Goes (bracketing openProxy (.ofMillis 5) .freeze .thaw refused (.done b)) 0
      [(0, 1), (1, 2)] (.done b) 4 := by
  have hnone : (frozenChronicle.world 4).delayed = [] := by
    show (World.sendDelayed _ 0).delayed = []
    unfold World.sendDelayed World.advanceTo
    rw [delayed_thawingWorld]
    rfl
  have hgone : (frozenChronicle.world 4).isSent frozenWorld.tickets = true := by
    rw [World.isSent, hnone]
    rfl
  have hthen : frozenChronicle.Goes (meanwhile openProxy (.ofMillis 5) .thaw (.done b)) 1 [(1, 2)]
      (.done b) 4 := by
    refine .act (Nat.le_succ 1) rfl (Chronicle.Goes.idle_until ?_ (Nat.le_add_right 2 2))
    exact .ready hgone (.here _ 4)
  refine .act (Nat.zero_le 1) rfl ?_
  show frozenChronicle.Goes
    (Program.bind (.done (answeringWorld.sendCommand openProxy .freeze).1) _) 1 _ _ _
  rw [sendCommand_openProxy]
  exact hthen

/-- A runner that can send commands. -/
def frozenRunner : Runner where
  config := { server := "server", ns := "default", taskQueue := "queue" }
  dir := "frozen"
  methods := []
  feature := { workflows := [] }
  service := 0
  directService := 1
  client := ⟨0, "default"⟩
  directClient := ⟨1, "default"⟩
  proxy := openProxy

/-- Work fails at once. The bracket ends with its error, after the second command has been sent. -/
theorem bracket_of_failing_work :
    let failed : Except Error Unit := .error (.assertion "lost")
    frozenChronicle.Bracketed openProxy (.ofMillis 5) .freeze .thaw .error (.done failed) 0 4
        [(0, 1), (1, 2)] (.done failed) ∧
      frozenChronicle.Bracketed openProxy (.ofMillis 5) .freeze .thaw
        (fun e => (.error e, frozenRunner)) (.done (failed, frozenRunner)) 0 4
        [(0, 1), (1, 2)] (.done (failed, frozenRunner)) ∧
      ∃ (κ : Chronicle) (acts : List (Nat × Nat)) (m : Nat), κ.world 0 = answeringWorld ∧
        κ.Goes (frozenRunner.exec (Script.bracket (.ofMillis 5) .freeze .thaw (.done failed))) 0 acts
          (.done ((frozenRunner.exec
            (Script.bracket (.ofMillis 5) .freeze .thaw (.done failed))).run answeringWorld).1) m := by
  intro failed
  obtain ⟨hprogram, hscript, hrun⟩ := brackets_keep_their_order (.ofMillis 5) .freeze .thaw
  refine ⟨hprogram _ _ _ _ _ _ _ ?_, hscript _ frozenRunner (.done failed) _ _ _ _ ?_, ?_⟩
  · rw [bracket_eq]
    exact goes_frozenChronicle _ _
  · show frozenChronicle.Goes (Runner.exec _ frozenRunner) _ _ _ _
    rw [Runner.exec_bracket_eq]
    exact goes_frozenChronicle _ _
  · have htimed : answeringWorld.server.Timed := fun t ht => absurd ht List.not_mem_nil
    obtain ⟨κ, acts, m, hstart, hgoes, -⟩ :=
      hrun frozenRunner (.done failed) answeringWorld htimed ticketed_answeringWorld
    exact ⟨κ, acts, m, hstart, hgoes⟩

end Conformance
