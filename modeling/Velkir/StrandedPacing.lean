import Velkir.StrandedTracker

/-!
# Runs of the tracker

A wiped address stays as recorded until it is wiped again, and the event stands for those stuck at
the last fold.
-/

namespace Velkir.StrandedTracker

open Surgery

/-- The clock does not go back. -/
def Clocked (acts : List Act) : Prop := (acts.flatMap Act.times).Pairwise (· ≤ ·)

/-- What happened, newest first. -/
def lines (acts : List Act) : List (Act × Tracker) := Machine.lines step acts {}

/-- The fold at that time wiped the address, so many in a row. -/
def Wipes (addr : String) (time noProgress : Nat) : Act × Tracker → Prop
  | (.pass attempt, tracker) =>
      addr ∈ attempt.wiped tracker ∧ attempt.foldAt = time ∧
        ∃ rec, (step (.pass attempt) tracker).strandedNoProgress.lookup addr = some rec ∧
          rec.noProgress = noProgress
  | (.status _, _) => False

/-- If the pass comes to a verdict, it lists the address as skipped. -/
def Skips (addr : String) : Act × Tracker → Prop
  | (.pass attempt, tracker) =>
      attempt.folds tracker = true ∨ attempt.clears tracker = true →
        addr ∈ attempt.skipped tracker
  | (.status _, _) => True

/-- The fold at that time finds these stuck. -/
def FoldsTo (time : Nat) (stuck : Set String) : Act × Tracker → Prop
  | (.pass attempt, tracker) =>
      attempt.folds tracker = true ∧ attempt.foldAt = time ∧
        stuckSet (step (.pass attempt) tracker).strandedNoProgress = stuck
  | (.status _, _) => False

/-- No other fold, and nothing that clears what it found. -/
def Keeps (time : Nat) : Act × Tracker → Prop
  | (.pass attempt, tracker) =>
      attempt.folds tracker = false ∧ attempt.clears tracker = false
  | (.status now, _) => now ≤ time + strandedLinkupStuckFreshnessWindow

section Pace

variable {past : List Act} {pass : Pass} {tracker : Tracker} {addr : String}

theorem run_concat (past : List Act) (act : Act) : run (past ++ [act]) = step act (run past) :=
  Machine.run_concat past act ({} : Tracker)

theorem lines_concat (past : List Act) (act : Act) :
    lines (past ++ [act]) = (act, run past) :: lines past :=
  Machine.lines_concat past act ({} : Tracker)

private theorem detect_strandedNoProgress {wiped skipped authFailed : List String} {now : Nat} :
    (tracker.detectStrandedPeerLinkupStuck wiped skipped authFailed now).2.strandedNoProgress =
      nextRecords wiped skipped authFailed now tracker.strandedNoProgress := by
  unfold Tracker.detectStrandedPeerLinkupStuck
  dsimp only
  split_ifs
  · rfl
  · rfl

private theorem detect_strandedRecoveryLastFired {wiped skipped authFailed : List String}
    {now : Nat} : (tracker.detectStrandedPeerLinkupStuck wiped skipped authFailed
        now).2.strandedRecoveryLastFired =
      tracker.strandedRecoveryLastFired := by
  unfold Tracker.detectStrandedPeerLinkupStuck
  dsimp only
  split_ifs
  · rfl
  · rfl

theorem status_strandedNoProgress (now : Nat) (tracker : Tracker) :
    (step (.status now) tracker).strandedNoProgress = tracker.strandedNoProgress ∧
      (step (.status now) tracker).strandedRecoveryLastFired =
        tracker.strandedRecoveryLastFired := by
  unfold step Act.call Tracker.strandedLinkupStuckActiveOrExpire
  dsimp only
  split_ifs
  · exact ⟨rfl, rfl⟩
  · exact ⟨rfl, rfl⟩
  · exact ⟨rfl, rfl⟩

theorem step_folds_strandedNoProgress (folds : pass.folds tracker = true) :
    (step (.pass pass) tracker).strandedNoProgress = pass.next tracker := by
  rcases step_pass_cases pass tracker with ⟨-, no, -⟩ | ⟨-, no, -⟩ | ⟨-, -, after⟩
  · simp [folds] at no
  · simp [folds] at no
  · rw [after, detect_strandedNoProgress, stamped_strandedNoProgress]
    rfl

private theorem step_quiet_strandedNoProgress (quiet : pass.folds tracker = false)
    (kept : pass.clears tracker = false) :
    (step (.pass pass) tracker).strandedNoProgress = tracker.strandedNoProgress := by
  rcases step_pass_cases pass tracker with ⟨-, -, after | after⟩ | ⟨no, -, -⟩ | ⟨-, no, -⟩
  · rw [after]
  · rw [after, stamped_strandedNoProgress]
  · simp [kept] at no
  · simp [quiet] at no

/-- A wiped address keeps its record as long as it is skipped. -/
theorem record_since_wipe (acts : List Act) {time noProgress : Nat}
    (since : History.Since (Skips addr) (Wipes addr time noProgress) (lines acts)) :
    (run acts).strandedNoProgress.lookup addr = some ⟨noProgress, time⟩ := by
  revert since
  refine Machine.run_history (fun past (tracker : Tracker) =>
    History.Since (Skips addr) (Wipes addr time noProgress) (lines past) →
      tracker.strandedNoProgress.lookup addr = some ⟨noProgress, time⟩) nofun ?_ acts
  intro past act before since
  rw [lines_concat, History.since_cons] at since
  cases act with
  | status now =>
      rcases since with wipes | ⟨-, since⟩
      · exact wipes.elim
      · rw [(status_strandedNoProgress now _).1]
        exact before since
  | pass attempt =>
      rcases since with ⟨wiped, rfl, rec, found, rfl⟩ | ⟨skips, since⟩
      · obtain ⟨⟨-, due⟩, -, folds, -⟩ := mem_wiped wiped
        have next := found
        rw [step_folds_strandedNoProgress folds] at next
        rcases nextRecords_some next with ⟨-, stamp⟩ | ⟨paced, -⟩
        · rw [← stamp]
          exact found
        · exact absurd (mem_skipped paced).1 due
      · have record := before since
        cases folds : attempt.folds (run past) with
        | true =>
            refine (congrArg (AList.lookup addr) (step_folds_strandedNoProgress folds)).trans ?_
            exact nextRecords_skipped (skips (.inl folds)) record
        | false =>
            cases clears : attempt.clears (run past) with
            | true =>
                have kept := (mem_skipped (skips (.inr clears))).2
                simp [clears] at kept
            | false =>
                exact (congrArg (AList.lookup addr)
                  (step_quiet_strandedNoProgress folds clears)).trans record

/-- The tracker agrees with its past. -/
structure Sound (past : List Act) (tracker : Tracker) : Prop where
  fired : ∀ last, tracker.strandedRecoveryLastFired = some last → last ∈ past.flatMap Act.times
  /-- Every wipe was followed by the stamp of its probe. -/
  behind : ∀ addr rec, tracker.strandedNoProgress.lookup addr = some rec →
    ∃ last, tracker.strandedRecoveryLastFired = some last ∧ rec.lastWiped ≤ last
  joinable : ∀ addr rec, tracker.strandedNoProgress.lookup addr = some rec →
    CommaJoin.Piece addr

theorem Sound.mono (sound : Sound past tracker) (act : Act) {after : Tracker}
    (records : after.strandedNoProgress = tracker.strandedNoProgress)
    (fired : after.strandedRecoveryLastFired = tracker.strandedRecoveryLastFired) :
    Sound (past ++ [act]) after := by
  refine ⟨fun last found => ?_, ?_, ?_⟩
  · rw [fired] at found
    rw [List.flatMap_append]
    exact List.mem_append_left _ (sound.fired last found)
  · rw [records, fired]
    exact sound.behind
  · rw [records]
    exact sound.joinable

private theorem Sound.stamped (sound : Sound past tracker)
    (later : ∀ time ∈ past.flatMap Act.times, time ≤ pass.foldAt) :
    Sound (past ++ [.pass pass]) (pass.stamped tracker) := by
  cases probed : (pass.out tracker).probed with
  | false =>
      refine sound.mono _ stamped_strandedNoProgress ?_
      simp [Pass.stamped, probed]
  | true =>
      have stamp : (pass.stamped tracker).strandedRecoveryLastFired = some pass.foldAt := by
        simp [Pass.stamped, probed]
      refine ⟨fun last found => ?_, fun addr rec found => ?_, fun addr rec found => ?_⟩
      · rw [stamp, Option.some_inj] at found
        simp [← found, Act.times]
      · rw [stamped_strandedNoProgress] at found
        obtain ⟨last, fired, older⟩ := sound.behind addr rec found
        exact ⟨pass.foldAt, stamp, older.trans (later last (sound.fired last fired))⟩
      · rw [stamped_strandedNoProgress] at found
        exact sound.joinable addr rec found

private theorem Sound.folds (sound : Sound (past ++ [.pass pass]) (pass.stamped tracker))
    {after : Tracker} (records : after.strandedNoProgress = pass.next tracker)
    (fired : after.strandedRecoveryLastFired =
      (pass.stamped tracker).strandedRecoveryLastFired) :
    Sound (past ++ [.pass pass]) after := by
  refine ⟨?_, fun addr rec found => ?_, fun addr rec found => ?_⟩
  · rw [fired]
    exact sound.fired
  · rw [records] at found
    rcases nextRecords_some found with ⟨wiped, stamp⟩ | ⟨-, old⟩
    · refine ⟨pass.foldAt, ?_, stamp.le⟩
      simp [fired, Pass.stamped, (mem_wiped wiped).2.1]
    · rw [fired]
      refine sound.behind addr rec ?_
      rw [stamped_strandedNoProgress]
      exact old
  · rw [records] at found
    rcases nextRecords_some found with ⟨wiped, -⟩ | ⟨-, old⟩
    · obtain ⟨-, -, -, endpoint, listed, rfl⟩ := mem_wiped wiped
      exact pass.joinable endpoint listed
    · refine sound.joinable addr rec ?_
      rw [stamped_strandedNoProgress]
      exact old

theorem Clocked.of_concat {act : Act} (clock : Clocked (past ++ [act])) :
    Clocked past ∧ act.times.Pairwise (· ≤ ·) ∧
      ∀ time ∈ past.flatMap Act.times, ∀ now ∈ act.times, time ≤ now := by
  unfold Clocked at clock
  rw [List.flatMap_append, List.pairwise_append] at clock
  rw [List.flatMap_singleton] at clock
  exact clock

private theorem sound_nil : Sound [] {} := by
  refine ⟨fun last found => ?_, fun addr rec found => ?_, fun addr rec found => ?_⟩
  · cases found
  · simp at found
  · simp at found

theorem sound_run (acts : List Act) (clock : Clocked acts) : Sound acts (run acts) := by
  revert clock
  refine Machine.run_history (fun past tracker => Clocked past → Sound past tracker)
    (fun _ => sound_nil) ?_ acts
  intro past act before clock
  obtain ⟨sorted, -, later⟩ := clock.of_concat
  have sound := before sorted
  cases act with
  | status now =>
      exact sound.mono _ (status_strandedNoProgress now _).1 (status_strandedNoProgress now _).2
  | pass attempt =>
      have stamped := sound.stamped fun time mem =>
        later time mem attempt.foldAt (by simp [Act.times])
      rcases step_pass_cases attempt (run past) with
        ⟨-, -, after | after⟩ | ⟨-, -, after⟩ | ⟨-, folds, after⟩
      · exact after ▸ sound.mono _ rfl rfl
      · exact after ▸ stamped
      · rw [show Machine.run step past {} = run past from rfl, after]
        refine ⟨stamped.fired, fun addr rec found => ?_, fun addr rec found => ?_⟩
        · simp [Tracker.clearStrandedLinkupStuck] at found
        · simp [Tracker.clearStrandedLinkupStuck] at found
      · refine stamped.folds (step_folds_strandedNoProgress folds) ?_
        rw [show Machine.run step past {} = run past from rfl, after,
          detect_strandedRecoveryLastFired]

private theorem rewipe_after (clock : Clocked (past ++ [.pass pass])) {time noProgress : Nat}
    (since : History.Since (Skips addr) (Wipes addr time noProgress) (lines past))
    (again : addr ∈ pass.wiped (run past)) :
    time + strandedRecoveryCooldown * 2 ^ strandedAddrBackoffLevel noProgress ≤
      pass.skipAt := by
  have record := record_since_wipe past since
  obtain ⟨⟨awake, due⟩, -⟩ := mem_wiped again
  by_cases stuck : strandedSurgeryStuckThreshold ≤ noProgress
  · -- The record would have put the address into the skip set.
    by_contra early
    exact due (mem_strandedSkipSet.mpr ⟨_, record, paced_iff.mpr ⟨stuck, not_le.mp early⟩⟩)
  · -- The wipe stamped the probe, which holds back every pass for the base cooldown.
    have base : strandedAddrBackoffLevel noProgress = 0 := if_pos (not_le.mp stuck)
    obtain ⟨last, fired, older⟩ := (sound_run past clock.of_concat.1).behind addr _ record
    have order : pass.gateAt ≤ pass.skipAt :=
      List.rel_of_pairwise_cons clock.of_concat.2.1 (by simp)
    have cooled : ¬pass.gateAt - last < strandedRecoveryCooldown := by
      simpa [Pass.coolingDown, Tracker.strandedProbeCoolingDown, fired] using awake
    have positive : 0 < strandedRecoveryCooldown := by decide
    rw [base, pow_zero, mul_one]
    dsimp only at older
    omega

end Pace

section Event

variable {past : List Act} {pass : Pass} {tracker : Tracker} {time : Nat} {stuck : Set String}

private theorem detect_fireEvent {wiped skipped authFailed : List String} {now : Nat} :
    let next := nextRecords wiped skipped authFailed now tracker.strandedNoProgress
    (tracker.detectStrandedPeerLinkupStuck wiped skipped authFailed now).1.fireEvent = true ↔
      stuckAddrs next ≠ [] ∧
        tracker.strandedLinkupStuckEdge ≠ ",".intercalate (stuckAddrs next) := by
  intro next
  unfold Tracker.detectStrandedPeerLinkupStuck
  dsimp only
  split_ifs with none
  · simp [next, none]
  · simp [next, none]

private theorem fires_iff :
    pass.Fires tracker ↔ pass.folds tracker = true ∧ stuckAddrs (pass.next tracker) ≠ [] ∧
      tracker.strandedLinkupStuckEdge ≠ ",".intercalate (stuckAddrs (pass.next tracker)) := by
  have fires := @detect_fireEvent (pass.stamped tracker) (pass.wiped tracker)
    (pass.skipped tracker) (sentinelNamesToAddrs pass.authFailures pass.target.endpoints)
    pass.foldAt
  dsimp only at fires
  rw [stamped_strandedNoProgress, stamped_strandedLinkupStuckEdge] at fires
  unfold Pass.next
  rw [← fires]
  unfold Pass.Fires Pass.detectAndRecover Pass.folds
  by_cases cooling : pass.coolingDown tracker = true
  · simp [cooling]
  · unfold applyStrandedRecoveryOutcome Pass.wiped Pass.skipped
    by_cases healthy : (pass.out tracker).healthy = true
    · simp [cooling, healthy]
    · by_cases deferred : gateDeferred (pass.out tracker) = true
      · simp [cooling, healthy, deferred]
      · simp [cooling, healthy, deferred, Pass.stamped]

/-- The last fold found these stuck, and nothing cleared this since. -/
def Standing (past : List Act) (time : Nat) (stuck : Set String) : Prop :=
  History.Since (Keeps time) (FoldsTo time stuck) (lines past)

theorem standing_concat (act : Act) :
    Standing (past ++ [act]) time stuck ↔
      FoldsTo time stuck (act, run past) ∨
        Keeps time (act, run past) ∧ Standing past time stuck := by
  unfold Standing
  rw [lines_concat, History.since_cons]

/-- The flag and the edge stand for the last fold. -/
structure Latched (past : List Act) (tracker : Tracker) : Prop where
  flagged : tracker.strandedLinkupStuck = true →
    (stuckSet tracker.strandedNoProgress).Nonempty ∧
      tracker.strandedLinkupStuckEdge = ",".intercalate (stuckAddrs tracker.strandedNoProgress) ∧
      ∀ time stuck, Standing past time stuck ↔
        time = tracker.strandedLinkupStuckAt ∧ stuck = stuckSet tracker.strandedNoProgress
  unflagged : tracker.strandedLinkupStuck = false →
    tracker.strandedLinkupStuckEdge = "" ∧
      ∀ time stuck, stuck.Nonempty → ¬Standing past time stuck

private theorem Latched.mono (latched : Latched past tracker) {act : Act} {after : Tracker}
    (keeps : ∀ time, Keeps time (act, run past))
    (quiet : ∀ time stuck, ¬FoldsTo time stuck (act, run past))
    (records : after.strandedNoProgress = tracker.strandedNoProgress)
    (flag : after.strandedLinkupStuck = tracker.strandedLinkupStuck)
    (moment : after.strandedLinkupStuckAt = tracker.strandedLinkupStuckAt)
    (edge : after.strandedLinkupStuckEdge = tracker.strandedLinkupStuckEdge) :
    Latched (past ++ [act]) after := by
  have same (time : Nat) (stuck : Set String) :
      Standing (past ++ [act]) time stuck ↔ Standing past time stuck := by
    rw [standing_concat]
    simp [keeps, quiet]
  constructor
  · rw [records, flag, moment, edge]
    simpa only [same] using latched.flagged
  · rw [flag, edge]
    simpa only [same] using latched.unflagged

private theorem standing_folds (folds : pass.folds (run past) = true) :
    Standing (past ++ [.pass pass]) time stuck ↔
      time = pass.foldAt ∧ stuck = stuckSet (pass.next (run past)) := by
  rw [standing_concat]
  constructor
  · rintro (⟨-, rfl, rfl⟩ | ⟨⟨quiet, -⟩, -⟩)
    · rw [step_folds_strandedNoProgress folds]
      exact ⟨rfl, rfl⟩
    · simp [folds] at quiet
  · rintro ⟨rfl, rfl⟩
    exact .inl ⟨folds, rfl, congrArg stuckSet (step_folds_strandedNoProgress folds)⟩

private theorem Latched.detect {after : Tracker} (folds : pass.folds (run past) = true)
    (result : after = ((pass.stamped (run past)).detectStrandedPeerLinkupStuck
      (pass.wiped (run past)) (pass.skipped (run past))
      (sentinelNamesToAddrs pass.authFailures pass.target.endpoints) pass.foldAt).2) :
    Latched (past ++ [.pass pass]) after := by
  have standing (time : Nat) (stuck : Set String) :=
    @standing_folds past pass time stuck folds
  unfold Tracker.detectStrandedPeerLinkupStuck at result
  dsimp only at result
  rw [stamped_strandedNoProgress] at result
  change after =
    (if stuckAddrs (pass.next (run past)) = [] then _ else _ : Verdict × Tracker).2 at result
  split_ifs at result with none
  · subst result
    refine ⟨nofun, fun _ => ⟨rfl, fun time stuck some stands => ?_⟩⟩
    rw [((standing time stuck).mp stands).2] at some
    exact stuckAddrs_ne_nil.mpr some none
  · subst result
    exact ⟨fun _ => ⟨stuckAddrs_ne_nil.mp none, rfl, standing⟩, nofun⟩

private theorem Latched.status (latched : Latched past (run past)) (now : Nat) :
    Latched (past ++ [.status now]) (step (.status now) (run past)) := by
  have standing (time : Nat) (stuck : Set String) :
      Standing (past ++ [.status now]) time stuck ↔
        now ≤ time + strandedLinkupStuckFreshnessWindow ∧ Standing past time stuck := by
    rw [standing_concat]
    exact or_iff_right id
  unfold step Act.call Tracker.strandedLinkupStuckActiveOrExpire
  dsimp only
  split_ifs with fresh flag
  · obtain ⟨some, edge, stands⟩ := latched.flagged fresh.1
    refine ⟨fun _ => ⟨some, edge, fun time stuck => ?_⟩, fun no => ?_⟩
    · rw [standing, stands, and_iff_right_iff_imp]
      rintro ⟨rfl, -⟩
      omega
    · simp [fresh.1] at no
  · refine ⟨nofun, fun _ => ⟨rfl, fun time stuck some stands => ?_⟩⟩
    obtain ⟨young, stood⟩ := (standing time stuck).mp stands
    obtain ⟨rfl, -⟩ := ((latched.flagged flag).2.2 time stuck).mp stood
    exact fresh ⟨flag, by omega⟩
  · obtain ⟨edge, stands⟩ := latched.unflagged (by simpa using flag)
    refine ⟨fun no => absurd no flag, fun _ => ⟨edge, fun time stuck some stood => ?_⟩⟩
    exact stands time stuck some ((standing time stuck).mp stood).2

private theorem latched_run (acts : List Act) : Latched acts (run acts) := by
  have start : Latched [] {} :=
    ⟨nofun, fun _ => ⟨rfl, fun _ _ _ => History.not_since_nil⟩⟩
  refine Machine.run_history Latched start ?_ acts
  intro past act latched
  change Latched past (run past) at latched
  change Latched (past ++ [act]) (step act (run past))
  cases act with
  | status now => exact latched.status now
  | pass attempt =>
      rcases step_pass_cases attempt (run past) with
        ⟨kept, quiet, after⟩ | ⟨clears, quiet, after⟩ | ⟨-, folds, after⟩
      · have unfolded (time : Nat) (stuck : Set String) :
            ¬FoldsTo time stuck (.pass attempt, run past) := by
          simp [FoldsTo, quiet]
        rcases after with after | after
        · rw [after]
          exact latched.mono (fun _ => ⟨quiet, kept⟩) unfolded rfl rfl rfl rfl
        · rw [after]
          exact latched.mono (fun _ => ⟨quiet, kept⟩) unfolded stamped_strandedNoProgress
            stamped_strandedLinkupStuck stamped_strandedLinkupStuckAt
            stamped_strandedLinkupStuckEdge
      · rw [after]
        refine ⟨nofun, fun _ => ⟨rfl, fun time stuck _ stands => ?_⟩⟩
        rcases (standing_concat _).mp stands with ⟨folds, -⟩ | ⟨⟨-, kept⟩, -⟩
        · simp [quiet] at folds
        · simp [clears] at kept
      · exact .detect folds after

/-- The event fires if the last fold did not find these stuck. -/
theorem fires_iff_standing (clock : Clocked (past ++ [.pass pass])) :
    pass.Fires (run past) ↔ pass.folds (run past) = true ∧
      (stuckSet (pass.next (run past))).Nonempty ∧
      ¬∃ time, Standing past time (stuckSet (pass.next (run past))) := by
  rw [fires_iff, stuckAddrs_ne_nil]
  refine and_congr_right fun folds => and_congr_right fun some => ?_
  have pieces {acts : List Act} (clock : Clocked acts) :
      ∀ addr ∈ stuckAddrs (run acts).strandedNoProgress, CommaJoin.Piece addr := by
    intro addr mem
    obtain ⟨rec, found, -⟩ := mem_stuckAddrs.mp mem
    exact (sound_run acts clock).joinable addr rec found
  have new := pieces clock
  rw [run_concat, step_folds_strandedNoProgress folds] at new
  cases flag : (run past).strandedLinkupStuck with
  | false =>
      obtain ⟨edge, stands⟩ := (latched_run past).unflagged flag
      rw [edge]
      refine iff_of_true (CommaJoin.intercalate_ne_empty new (stuckAddrs_ne_nil.mpr some)).symm ?_
      rintro ⟨time, stood⟩
      exact stands time _ some stood
  | true =>
      obtain ⟨-, edge, stands⟩ := (latched_run past).flagged flag
      rw [edge, ne_eq, CommaJoin.intercalate_inj (pieces clock.of_concat.1) new, stuckAddrs_inj]
      simp only [stands, exists_eq_left]
      rw [eq_comm]

end Event

/-- Wipes keep the doubled cooldown, and the event fires when other addresses are stuck. -/
theorem surgery_paced {past : List Act} {pass : Pass} (clock : Clocked (past ++ [.pass pass])) :
    (∀ addr time noProgress,
      History.Since (Skips addr) (Wipes addr time noProgress) (lines past) →
        addr ∈ pass.wiped (run past) →
        time + strandedRecoveryCooldown * 2 ^ strandedAddrBackoffLevel noProgress ≤
          pass.skipAt) ∧
    (∀ addr, addr ∈ pass.skip (run past) ∨ addr ∈ pass.skipped (run past) →
      ∃ rec, (run past).strandedNoProgress.lookup addr = some rec ∧
        strandedSurgeryStuckThreshold ≤ rec.noProgress ∧
        pass.skipAt < rec.lastWiped +
          strandedRecoveryCooldown * 2 ^ strandedAddrBackoffLevel rec.noProgress) ∧
    let stuck := stuckSet (run (past ++ [.pass pass])).strandedNoProgress
    (pass.Fires (run past) ↔ pass.folds (run past) = true ∧ stuck.Nonempty ∧
      ¬∃ time, History.Since (Keeps time) (FoldsTo time stuck) (lines past)) := by
  refine ⟨fun addr time noProgress since again => rewipe_after clock since again,
    fun addr paced => ?_, ?_⟩
  · have skip : addr ∈ pass.skip (run past) := paced.elim id fun mem => (mem_skipped mem).1
    obtain ⟨rec, found, paced⟩ := mem_strandedSkipSet.mp skip
    exact ⟨rec, found, paced_iff.mp paced⟩
  · intro stuck
    rw [fires_iff_standing clock]
    refine and_congr_right fun folds => ?_
    have same : stuck = stuckSet (pass.next (run past)) := by
      rw [← step_folds_strandedNoProgress folds, ← run_concat]
    rw [same]
    rfl

/-- The sentinel knows no peers, and the others know theirs. -/
def wedged : Surgery.Replies where
  peers endpoint := if endpoint.name = "s0" then .peers [] else .peers ["10.0.1.1", "10.0.1.2"]
  probe _ := none
  replicas _ := none
  ping _ := true
  survivorFlags _ := none
  targetFlags _ := none
  cohort _ := none
  removes _ := true
  monitors _ := true

def passAt (now : Nat) : Pass where
  target :=
    { masterIP := "10.0.0.1"
      endpoints := [⟨"s0", "10.0.1.0:26379"⟩, ⟨"s1", "10.0.1.1:26379"⟩, ⟨"s2", "10.0.1.2:26379"⟩] }
  distinct := by decide
  joinable := by decide
  deferred := false
  bypassQuorumDeferral := false
  replies := wedged
  ghostSeen := []
  authFailures := []
  gateAt := now
  skipAt := now
  surgeryAt := now
  foldAt := now

/-- The third wipe in a row puts the next one off by a minute. -/
theorem surgery_paced_minute :
    let wipes := [Act.pass (passAt 0), .pass (passAt (30 * second)), .pass (passAt (60 * second))]
    let past := wipes ++ [.pass (passAt (90 * second))]
    "10.0.1.0:26379" ∈ (passAt (120 * second)).wiped (run past) ∧
      60 * second + strandedRecoveryCooldown * 2 ^ strandedAddrBackoffLevel 3 ≤
        (passAt (120 * second)).skipAt := by
  intro wipes past
  have clock : Clocked (past ++ [.pass (passAt (120 * second))]) := by
    unfold Clocked
    decide
  have third : "10.0.1.0:26379" ∈ (passAt (60 * second)).wiped
      (run [.pass (passAt 0), .pass (passAt (30 * second))]) := by decide
  have record : (run wipes).strandedNoProgress.lookup "10.0.1.0:26379" =
      some ⟨3, 60 * second⟩ := by decide
  have skipped : "10.0.1.0:26379" ∈ (passAt (90 * second)).skipped (run wipes) := by decide
  have again : "10.0.1.0:26379" ∈ (passAt (120 * second)).wiped (run past) := by decide
  exact ⟨again, (surgery_paced clock).1 _ _ _
    (.later (fun _ => skipped) (.start ⟨third, rfl, _, record, rfl⟩)) again⟩

end Velkir.StrandedTracker
