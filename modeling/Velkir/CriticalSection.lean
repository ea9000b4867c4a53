import Velkir.LatchRules
import Velkir.RolloutSafety

/-!
# The critical section of a failover after a restart

A restarted process has lost the latch. Before Phase 7 rebuilds it, every question about a failover
is answered with no.
-/

namespace Velkir

open Crash Proc History

/-- The process lost its memory and has not maintained the marker since. -/
def Unmaintained : List Entry → Prop :=
  Since (fun line => line ≠ .maintained) (fun line => line = .memoryLost)

/-- The process lost its memory after the last dispatch was recorded. -/
def Restarted : List Entry → Prop :=
  Since (fun line => line ≠ .persisted) (fun line => line = .memoryLost)

/-- A dispatch was recorded, and no observation has ended this latch since. -/
def Unsuperseded (latch : Latch) : List Entry → Prop :=
  Since (fun line => line.supersedes latch = false) (fun line => line = .persisted)

instance : DecidablePred Restarted :=
  inferInstanceAs (DecidablePred (Since _ _))

instance (latch : Latch) : DecidablePred (Unsuperseded latch) :=
  inferInstanceAs (DecidablePred (Since _ _))

/-- Under a stored marker, yes is answered exactly after a maintenance. -/
def AnswersMaintained (line : Entry) (before : List Entry) : Prop :=
  ∀ site answer marker time latch, line = .consulted site answer (some marker) time →
    marker.latch = some latch → time < latch.deadline → Unsuperseded latch before →
      Restarted before → (answer = true ↔ ¬Unmaintained before)

/-- The memory agrees with the stored marker as far as that was maintained. -/
structure CriticalSection (w : World) : Prop where
  lost : Unmaintained w.journal →
    w.mem.failoverLatch = none ∧ w.mem.lastState ≠ some .failoverInFlight
  rebuilt : Restarted w.journal → ¬Unmaintained w.journal → ∀ marker latch,
    w.cr.status.failoverDispatch = some marker → marker.latch = some latch →
      w.now < latch.deadline → Unsuperseded latch w.journal → w.mem.failoverLatch = some latch
  answered : Always AnswersMaintained w.journal

/-- The lines that the critical section does not hang on. -/
def uncriticalKinds : List Kind := Kind.but [.memoryLost, .consulted, .maintained, .persisted]

theorem unmaintained_append {lines before : List Entry}
    (kinds : ∀ line ∈ lines, line.kind ∈ .persisted :: .consulted :: uncriticalKinds) :
    Unmaintained (lines ++ before) ↔ Unmaintained before := by
  constructor
  · refine Since.of_append ?_
    rintro line mem rfl
    exact absurd (kinds _ mem) (by decide)
  · refine Since.append ?_
    rintro line mem rfl
    exact absurd (kinds _ mem) (by decide)

theorem CriticalSection.of_frame {before after : World} (critical : CriticalSection before)
    (frame : Frame quietParts (.consulted :: uncriticalKinds) before after)
    (answered : Always AnswersMaintained after.journal) : CriticalSection after := by
  obtain ⟨lines, journal, kinds⟩ := frame.journal
  have latch_eq : after.mem.failoverLatch = before.mem.failoverLatch :=
    frame.kept .latch (by decide)
  have state_eq : after.mem.lastState = before.mem.lastState := frame.kept .lastState (by decide)
  have marker_eq : after.cr.status.failoverDispatch = before.cr.status.failoverDispatch :=
    (frame.kept .dispatch (by decide)).1
  have unmaintained : Unmaintained after.journal ↔ Unmaintained before.journal := by
    rw [journal]
    exact unmaintained_append fun line mem => List.mem_cons_of_mem _ (kinds line mem)
  refine ⟨?_, ?_, answered⟩
  · rw [unmaintained, latch_eq, state_eq]
    exact critical.lost
  · intro restarted maintained marker latch stored stands intime unsuperseded
    rw [journal] at restarted unsuperseded
    rw [latch_eq]
    refine critical.rebuilt (restarted.of_append ?_) (unmaintained.not.mp maintained) marker latch
      (marker_eq ▸ stored) stands (Nat.lt_of_le_of_lt frame.clock intime)
      (unsuperseded.of_append ?_) <;>
    · rintro line mem rfl
      exact absurd (kinds _ mem) (by decide)

theorem answersMaintained_of_kind {line : Entry} (kind : line.kind ≠ .consulted)
    (before : List Entry) : AnswersMaintained line before := by
  rintro site answer marker time latch rfl
  exact absurd rfl kind

theorem criticalSection_tolerates :
    Tolerates quietParts uncriticalKinds (Keeps CriticalSection) := by
  intro before after frame critical
  refine critical.of_frame frame.mono ?_
  obtain ⟨lines, journal, kinds⟩ := frame.journal
  rw [journal]
  exact critical.answered.append fun line mem => answersMaintained_of_kind fun kind =>
    absurd (kinds line mem) (by rw [kind]; decide)

theorem criticalSection_drop : DropsLatch CriticalSection := by
  rintro w addr epoch seen ended ⟨lost, rebuilt, answered⟩
  refine ⟨fun unmaintained => ⟨rfl, (lost unmaintained).2⟩, ?_, answered⟩
  intro restarted maintained marker latch stored stands intime unsuperseded
  have held := rebuilt restarted maintained marker latch stored stands intime unsuperseded
  have unmoved := seen.unsuperseded unsuperseded (fun _ => id) (by rintro line rfl; decide)
  have active : w.latchActive addr epoch = true := by
    rw [World.latchActive, held]
    exact Latch.active_iff.mpr ⟨Nat.le_of_lt intime, unmoved⟩
  simp [active] at ended

private theorem isFailoverInFlight_critical (site : Site) (obs : Obs) :
    Within (Keeps CriticalSection) (isFailoverInFlight site obs) := by
  refine .of_wp fun w start => ?_
  have observed : CriticalSection (w.observe obs) :=
    criticalSection_tolerates _ _ (w.observe_frame obs).mono start
  unfold isFailoverInFlight
  simp only [readSnapshot, logHere, wp_bind, wp_write, wp_read, wp_pure]
  have asked : CriticalSection ((w.observe obs).note (.consulted site
      ((w.observe obs).latchActive obs.snap.addr obs.snap.epoch ||
        (w.observe obs).mem.lastState == some .failoverInFlight)
      (w.observe obs).cr.status.failoverDispatch (w.observe obs).now)) := by
    refine observed.of_frame (World.note_frame (by simp [Entry.kind]) _)
      (.cons ?_ observed.answered)
    intro site' answer marker time latch eq stands intime unsuperseded restarted
    obtain ⟨rfl, rfl, stored, rfl⟩ := Entry.consulted.inj eq
    by_cases unmaintained : Unmaintained (w.observe obs).journal
    · obtain ⟨absent, state⟩ := observed.lost unmaintained
      simp [unmaintained, World.latchActive, absent, state]
    · have held := observed.rebuilt restarted unmaintained marker latch stored stands intime
        unsuperseded
      have unmoved := (seen_observe obs w).unsuperseded unsuperseded (fun _ => id)
        (by rintro line rfl; decide)
      have active : (w.observe obs).latchActive obs.snap.addr obs.snap.epoch = true := by
        rw [World.latchActive, held]
        exact Latch.active_iff.mpr ⟨Nat.le_of_lt intime, unmoved⟩
      simp [unmaintained, active]
  exact ⟨observed, asked, asked⟩

/-- The marker was maintained since the last restart. -/
def MaintainedSection (w : World) : Prop :=
  CriticalSection w ∧ ¬Unmaintained w.journal

private theorem maintainedSection_tolerates :
    Tolerates quietParts uncriticalKinds (Keeps MaintainedSection) := by
  rintro before after frame ⟨critical, maintained⟩
  refine ⟨criticalSection_tolerates _ _ frame critical, ?_⟩
  obtain ⟨lines, journal, kinds⟩ := frame.journal
  rw [journal, unmaintained_append fun line mem =>
    List.mem_cons_of_mem _ (List.mem_cons_of_mem _ (kinds line mem))]
  exact maintained

private theorem clearFailoverDispatch_maintained (reply : Reply) :
    Within (Keeps MaintainedSection) (clearFailoverDispatch reply) := by
  refine (clearFailoverDispatch_cleared reply).mono fun before after cleared => ?_
  rintro ⟨critical, maintained⟩
  rw [MaintainedSection, cleared.journal]
  refine ⟨⟨?_, ?_, ?_⟩, maintained⟩
  · rw [cleared.journal, cleared.mem]
    exact critical.lost
  · rw [cleared.journal, cleared.mem, cleared.now]
    intro restarted _ marker latch stored
    rcases cleared.stored with gone | same
    · rw [gone] at stored
      cases stored
    · exact critical.rebuilt restarted maintained marker latch (same ▸ stored)
  · rw [cleared.journal]
    exact critical.answered

theorem not_unmaintained_maintained (before : List Entry) :
    ¬Unmaintained (.maintained :: before) := by
  simp [Unmaintained]

variable {w : World}

private theorem CriticalSection.rehydrate (critical : CriticalSection w) {marker : FailoverDispatch}
    (stored : w.cr.status.failoverDispatch = some marker) :
    MaintainedSection (w.rehydrate marker) := by
  refine ⟨⟨fun unmaintained => absurd unmaintained (not_unmaintained_maintained _), ?_, .cons
    (answersMaintained_of_kind (by decide) _) critical.answered⟩, not_unmaintained_maintained _⟩
  intro restarted _ marker' latch stored' stands intime unsuperseded
  obtain rfl : marker = marker' := Option.some.inj (stored.symm.trans stored')
  have restarted : Restarted w.journal := by simpa [World.rehydrate, Restarted] using restarted
  have unsuperseded : Unsuperseded latch w.journal := by
    simpa [World.rehydrate, Unsuperseded, Entry.supersedes] using unsuperseded
  have fresh : marker.latch.filter (fun latch => w.now < latch.deadline) = some latch := by
    simp [stands, Option.filter, show w.now < latch.deadline from intime]
  by_cases unmaintained : Unmaintained w.journal
  · simp [World.rehydrate, (critical.lost unmaintained).1, fresh]
  · have held := critical.rebuilt restarted unmaintained marker latch stored stands intime
      unsuperseded
    simp [World.rehydrate, held]

/-- Phase 7 rebuilds the latch of the stored marker. -/
theorem maintainFailoverDispatchMarker_critical {obs : Obs} {reply : Reply}
    (start : CriticalSection w)
    (copy : w.v.status.failoverDispatch = w.cr.status.failoverDispatch) :
    (maintainFailoverDispatchMarker obs reply).wp CriticalSection (fun _ => MaintainedSection)
      w := by
  refine maintainFailoverDispatchMarker_wp (fun absent => ?_) fun marker present => ?_
  · have done : MaintainedSection (w.note .maintained) := by
      refine ⟨⟨fun unmaintained => absurd unmaintained (not_unmaintained_maintained _), ?_, .cons
        (answersMaintained_of_kind (by decide) _) start.answered⟩, not_unmaintained_maintained _⟩
      intro _ _ marker latch stored
      rw [World.note_cr, ← copy, absent] at stored
      cases stored
    exact ⟨done.1, done⟩
  · have observed : CriticalSection (w.observe obs) :=
      criticalSection_tolerates _ _ (w.observe_frame obs).mono start
    have seen : MaintainedSection ((w.observe obs).rehydrate marker) :=
      observed.rehydrate (copy ▸ present)
    refine ⟨observed, seen.1, fun _ => seen, fun ended => ?_⟩
    have dropped : MaintainedSection (((w.observe obs).rehydrate marker).setLatch none) :=
      ⟨criticalSection_drop _ _ _ ((seen_observe obs w).cons (by decide)) ended seen.1, seen.2⟩
    exact ⟨dropped.1, wp_mono ((clearFailoverDispatch_maintained reply).wp dropped)
      (fun _ => And.left) fun _ _ => id⟩

/-- A dispatch since the last restart, so no answer hangs on the marker. -/
structure RecordedSection (w : World) : Prop where
  recorded : ¬Restarted w.journal
  maintained : ¬Unmaintained w.journal
  answered : Always AnswersMaintained w.journal

private theorem RecordedSection.maintainedSection (recorded : RecordedSection w) :
    MaintainedSection w :=
  ⟨⟨fun unmaintained => absurd unmaintained recorded.maintained,
    fun restarted => absurd restarted recorded.recorded, recorded.answered⟩, recorded.maintained⟩

private theorem recordedSection_tolerates :
    Tolerates everyPart uncriticalKinds (Keeps RecordedSection) := by
  rintro before after frame ⟨recorded, maintained, answered⟩
  obtain ⟨lines, journal, kinds⟩ := frame.journal
  refine ⟨?_, ?_, ?_⟩ <;> rw [journal]
  · refine fun restarted => recorded (restarted.of_append ?_)
    rintro line mem rfl
    exact absurd (kinds _ mem) (by decide)
  · rw [unmaintained_append fun line mem =>
      List.mem_cons_of_mem _ (List.mem_cons_of_mem _ (kinds line mem))]
    exact maintained
  · exact answered.append fun line mem => answersMaintained_of_kind fun kind =>
      absurd (kinds line mem) (by rw [kind]; decide)

private theorem dispatchFailover_maintained {name : String} {latch : Latch} {input : DispatchInput}
    (start : MaintainedSection w) :
    (dispatchFailover name latch input).wp MaintainedSection (fun _ => MaintainedSection) w := by
  unfold dispatchFailover
  rw [wp_bind]
  have written : RecordedSection (w.patchStatus
      (.dispatching latch.preStripAddr latch.preStripEpoch latch.deadline) .object
      [.persisted]) := by
    refine ⟨by simp [World.patchStatus, Restarted], ?_, .cons
      (answersMaintained_of_kind (by decide) _) start.1.answered⟩
    simpa [World.patchStatus, Unmaintained] using start.2
  have rest : Within (Keeps RecordedSection) (stripAndFailOver name latch input) :=
    recordedSection_tolerates.within stripAndFailOver_within
  refine persistFailoverDispatch_wp (by simpa using start) ⟨written.maintainedSection, ?_⟩
  rw [if_pos rfl]
  exact wp_mono (rest.wp written) (fun _ => RecordedSection.maintainedSection)
    fun _ _ => RecordedSection.maintainedSection

private theorem copy_tolerates :
    Tolerates quietParts (.consulted :: uncriticalKinds) (Keeps fun w =>
    w.v.status.failoverDispatch = w.cr.status.failoverDispatch) := by
  intro before after frame copy
  have carried : Carried (fun cr => cr.status.failoverDispatch) before after :=
    frame.kept .dispatch (by decide)
  exact (carried.of_same copy).trans (copy.trans carried.1.symm)

private theorem criticalSection_rules (input : PassInput) :
    LatchRules CriticalSection (fun w => CriticalSection w ∧
      w.v.status.failoverDispatch = w.cr.status.failoverDispatch) MaintainedSection input where
  early_along _ := And.left
  late_along _ := And.left
  fetch w start := ⟨criticalSection_tolerates _ _ w.fetch_frame.mono start, rfl⟩
  forget w start := by
    have lost : Unmaintained w.forget.journal := .start rfl
    exact ⟨fun _ => ⟨rfl, by simp [World.forget]⟩, fun _ maintained => absurd lost maintained,
      .cons (answersMaintained_of_kind (by decide) _) start.answered⟩
  quiet_along _ _ frame := criticalSection_tolerates _ _ frame.mono
  quiet_early before after frame start :=
    ⟨criticalSection_tolerates _ _ frame.mono start.1, copy_tolerates _ _ frame.mono start.2⟩
  quiet_late _ _ frame := maintainedSection_tolerates _ _ frame.mono
  consult_early site obs := (isFailoverInFlight_critical site obs).and
    (copy_tolerates.within (isFailoverInFlight_frame site obs))
  consult_late site obs := by
    refine (isFailoverInFlight_critical site obs).and ?_
    refine (isFailoverInFlight_frame site obs).mono fun before after frame => ?_
    obtain ⟨lines, journal, kinds⟩ := frame.journal
    refine fun maintained unmaintained => maintained ?_
    rw [journal] at unmaintained
    refine (unmaintained_append fun line mem => ?_).mp unmaintained
    exact (show [Kind.observed, .consulted] ⊆ .persisted :: .consulted :: uncriticalKinds by decide)
      (kinds line mem)
  drop_early w addr epoch seen ended := And.imp_left (criticalSection_drop w addr epoch seen ended)
  drop_late w addr epoch seen ended := And.imp_left (criticalSection_drop w addr epoch seen ended)
  remember := by
    rintro w state latched ⟨critical, copy⟩
    refine ⟨⟨fun unmaintained => ?_, critical.rebuilt, critical.answered⟩, copy⟩
    have absent := (critical.lost unmaintained).1
    exact ⟨absent, fun eq => latched (Option.some.inj eq) absent⟩
  maintain w start := maintainFailoverDispatchMarker_critical start.1 start.2
  write pods roles _ w _ start _ _ :=
    (maintainedSection_tolerates.within (writeRoles_within _ _ _)).wp start
  handOver w _ _ start _ _ := dispatchFailover_maintained start

/-- After a restart a question is answered with yes exactly if the marker was maintained before. -/
theorem operator_answersMaintained (acts : List (Act PassInput Drift)) {w : World}
    (start : w.journal = []) : Always AnswersMaintained (operator.run acts w).journal := by
  have critical : CriticalSection w := by
    refine ⟨?_, ?_, ?_⟩ <;> rw [start]
    · exact fun unmaintained => absurd unmaintained not_since_nil
    · exact fun restarted => absurd restarted not_since_nil
    · exact .nil
  exact (operator_invariant
    (fun input => .of_latch (criticalSection_rules input)) critical).answered

/-- The process dies right after the strip, and a fresh one runs a pass. -/
def restartActs : List (Act PassInput Drift) :=
  [.crash (handoverPass true) writesToStrip, .call (handoverPass true)]

/-- The marker that the dispatch left, with its deadline in whole seconds. -/
def restartMarker : FailoverDispatch :=
  { preStripAddr := "10.0.0.1:6379", preStripEpoch := 4
    deadline := some failoverInFlightLatchTTL }

/-- The latch that the marker restores. -/
def restartLatch : Latch :=
  { preStripAddr := "10.0.0.1:6379", preStripEpoch := 4, deadline := failoverInFlightLatchTTL }

/-- The first denial after the restart comes under a live marker. -/
theorem restartActs_run :
    let line : Entry := .consulted .sentinelStatefulSet false (some restartMarker) 100
    let denied := (operator.run restartActs lastStaleWorld).journal.dropWhile (· ≠ line)
    Restarted (operator.run [.crash (handoverPass true) writesToStrip] lastStaleWorld).journal ∧
      denied.head? = some line ∧ Unsuperseded restartLatch denied.tail ∧
        Restarted denied.tail := by
  decide

/-- The fresh process lets Phase 3 roll sentinels under a stored marker. -/
theorem operator_denies_restarted :
    ∃ later earlier latch, (operator.run restartActs lastStaleWorld).journal =
        later ++ .consulted .sentinelStatefulSet false (some restartMarker) 100 :: earlier ∧
      restartMarker.latch = some latch ∧ 100 < latch.deadline ∧ Unsuperseded latch earlier ∧
        Restarted earlier := by
  obtain ⟨-, denied, standing, restarted⟩ := restartActs_run
  exact ⟨_, _, restartLatch, split_dropWhile denied, rfl, by decide, standing, restarted⟩

theorem operator_answers_restarted :
    Restarted (operator.run [.crash (handoverPass true) writesToStrip] lastStaleWorld).journal ∧
      Always AnswersMaintained (operator.run restartActs lastStaleWorld).journal := by
  exact ⟨restartActs_run.1, operator_answersMaintained _ rfl⟩

end Velkir
