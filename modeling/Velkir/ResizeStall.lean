import Velkir.ResizeRecreate

/-!
# Resizes that do not advance

A stalled resize is to be reported once and left alone, but Phase 4 looks at the time only if it
detects a growth.
-/

namespace Velkir

open Crash Proc History

/-- The lines of a resize that moves. -/
def transitions (journal : List Entry) : List Entry :=
  journal.filter fun line => line.kind = .driving ∨ line.kind = .resized

/-- No transition is taken between two worlds. -/
def Paused (before after : World) : Prop :=
  transitions after.journal = transitions before.journal

/-- The stall was reported since the record was last written. -/
def Reported (phase : PVCResizePhase) : List Entry → Prop :=
  Since (fun line => line.kind ≠ .resized) fun line => line = .event (.pvcExpansionStuck phase)

instance (before after : World) : Decidable (Paused before after) :=
  inferInstanceAs (Decidable (_ = _))

instance (phase : PVCResizePhase) : DecidablePred (Reported phase) :=
  inferInstanceAs (DecidablePred (Since _ _))

/-- The requests are as they should be, or the resize is dropped or aborted. -/
def Proceeds (input : PVCResizeInput) (w : World) : Prop :=
  detected input w = some .noChange ∨
    (w.v.spec.persistence = none ∨ detected input w = some .shrinkRejected ∨
      detected input w = some .expansionNotSupported) ∧ w.gone = false ∧ input.statusReply = .ok

/-- The stall can be reported. -/
def ReportsStall (input : PVCResizeInput) (w : World) (resize : PVCResize) : Prop :=
  detected input w = some .resizeNeeded ∧ resize.stuckReported = false ∧ w.gone = false ∧
    input.stuckReply = .ok

instance (input : PVCResizeInput) (w : World) : Decidable (Proceeds input w) :=
  inferInstanceAs (Decidable (_ ∨ _ ∧ _))

instance (input : PVCResizeInput) (w : World) (resize : PVCResize) :
    Decidable (ReportsStall input w resize) :=
  inferInstanceAs (Decidable (_ ∧ _))

section Journal

variable {phase : PVCResizePhase} {before after : World} {lines : List Entry}

private theorem transitions_append (lines journal : List Entry) :
    transitions (lines ++ journal) = transitions lines ++ transitions journal :=
  List.filter_append ..

theorem paused_iff (added : after.journal = lines ++ before.journal) :
    Paused before after ↔ ∀ line ∈ lines, line.kind ≠ .driving ∧ line.kind ≠ .resized := by
  unfold Paused
  rw [added, transitions_append, List.append_left_eq_self]
  simp [transitions, List.filter_eq_nil_iff]

private theorem reported_append_iff (added : after.journal = lines ++ before.journal)
    (quiet : ∀ line ∈ lines, line.kind ≠ .resized ∧ line ≠ .event (.pvcExpansionStuck phase)) :
    Reported phase after.journal ↔ Reported phase before.journal := by
  rw [added]
  exact ⟨Since.of_append fun line mem => (quiet line mem).2,
    Since.append fun line mem => (quiet line mem).1⟩

end Journal

section Branches

variable {input : PVCResizeInput} {w final : World} {resize : PVCResize} {lines : List Entry}

/-- The resize pauses with a report exactly when it cannot proceed but report. -/
def PausesReported (input : PVCResizeInput) (resize : PVCResize) (w final : World) : Prop :=
  (Paused w final ∧ Reported resize.phase final.journal) ↔
    ¬Proceeds input w ∧ (Reported resize.phase w.journal ∨ ReportsStall input w resize)

theorem pausesReported_quiet (added : final.journal = lines ++ w.journal)
    (quiet : ∀ line ∈ lines, line.kind ≠ .driving ∧ line.kind ≠ .resized ∧
      line ≠ .event (.pvcExpansionStuck resize.phase))
    (waits : ¬Proceeds input w) (silent : ¬ReportsStall input w resize) :
    PausesReported input resize w final := by
  have paused : Paused w final :=
    (paused_iff added).mpr fun line mem => ⟨(quiet line mem).1, (quiet line mem).2.1⟩
  have same := reported_append_iff added fun line mem => (quiet line mem).2
  simp [PausesReported, paused, same, waits, silent]

theorem pausesReported_moved (added : final.journal = lines ++ w.journal) (line : Entry)
    (mem : line ∈ lines) (moves : line.kind = .driving ∨ line.kind = .resized)
    (proceeds : Proceeds input w) : PausesReported input resize w final := by
  have moved : ¬Paused w final := fun paused => by
    have still := (paused_iff added).mp paused line mem
    rcases moves with kind | kind
    · exact still.1 kind
    · exact still.2 kind
  simp [PausesReported, moved, proceeds]

private theorem pausesReported_reported
    (added : final.journal = .event (.pvcExpansionStuck resize.phase) :: lines ++ w.journal)
    (quiet : ∀ line ∈ lines, line.kind ≠ .driving ∧ line.kind ≠ .resized)
    (waits : ¬Proceeds input w) (reports : ReportsStall input w resize) :
    PausesReported input resize w final := by
  have paused : Paused w final := by
    refine (paused_iff added).mpr fun line mem => ?_
    rcases List.mem_cons.mp mem with rfl | mem
    · simp [Entry.kind]
    · exact quiet line mem
  have reported : Reported resize.phase final.journal := by
    rw [added]
    exact .start rfl
  simp [PausesReported, paused, reported, waits, reports]

theorem inFlight_of_stalled {v : CR} {now : Nat} (held : v.status.pvcResize = some resize)
    (stalled : pvcResizeIsStalled v now = true) : isPVCResizeInFlight resize.phase = true := by
  unfold pvcResizeIsStalled at stalled
  rw [held] at stalled
  split at stalled
  · simp_all
  · exact absurd stalled Bool.false_ne_true

variable {current : PVCResizePhase}

private theorem drivePVCResize_moves {desired : Nat} :
    (drivePVCResize input current desired).wp (fun _ => True)
      (fun _ final => ∃ lines, final.journal = lines ++ .driving current :: w.journal) w := by
  have rest : Within (Frame [.sts, .pvcs, .resize]
      [.orphaned, .grown, .sizing, .patched, .completed, .driving, .resized, .event])
      (do recordTransition input desired (← transitionFrom input desired current)) :=
    .bind (transitionFrom_keeps (fun sts w => (orphan_frame sts w).mono)
      fun _ _ frame => frame.mono) fun _ =>
      recordTransition_keeps fun _ _ frame => frame.mono
  unfold drivePVCResize
  rw [wp_bind, log, wp_write]
  refine ⟨trivial, wp_mono (rest _) (fun _ _ => trivial) fun _ final frame => ?_⟩
  obtain ⟨lines, journal, -⟩ := frame.journal
  exact ⟨lines, journal⟩

variable {desired : Nat}

private theorem clearPVCResizeStatus_pausesReported (held : w.v.status.pvcResize = some resize)
    (absent : w.v.spec.persistence = none) :
    (clearPVCResizeStatus input.statusReply).wp (fun _ => True)
      (fun _ => PausesReported input resize w) (w.note (.sizing none w.pvcs)) := by
  have unseen : detected input w = none := by simp [detected, absent]
  refine clearPVCResizeStatus_wp (fun none => ?_) (fun _ _ there ok => ⟨trivial, ?_⟩)
    fun refused _ _ => ?_
  · simp [held] at none
  · exact @pausesReported_moved _ _ _ _ [.resized .unset, .sizing none w.pvcs] rfl (.resized .unset)
      (by simp) (.inr rfl) (.inr ⟨.inl absent, there, ok⟩)
  · refine @pausesReported_quiet _ _ _ _ [.sizing none w.pvcs] rfl (by simp [Entry.kind]) ?_ ?_
    · rintro (noChange | ⟨-, accepted⟩)
      · simp [unseen] at noChange
      · exact refused accepted
    · rintro ⟨needed, -⟩
      simp [unseen] at needed

private theorem rejectResize_pausesReported {rejection : Event}
    (held : w.v.status.pvcResize = some resize) (stalled : pvcResizeIsStalled w.v w.now = true)
    (rejected : detected input w = some .shrinkRejected ∨
      detected input w = some .expansionNotSupported)
    (quiet : (Entry.event rejection).kind = .event ∧
      ∀ phase, rejection ≠ .pvcExpansionStuck phase) :
    (rejectResize input rejection).wp (fun _ => True)
      (fun _ => PausesReported input resize w) (w.note (.sizing (some desired) w.pvcs)) := by
  have inFlight := inFlight_of_stalled held stalled
  have current : currentPVCResizePhase w.v ≠ .aborted := by
    intro aborted
    simp [currentPVCResizePhase, held] at aborted
    simp [aborted, isPVCResizeInFlight] at inFlight
  have silent : ¬ReportsStall input w resize := by
    rintro ⟨needed, -⟩
    rcases rejected with seen | seen <;> simp [seen] at needed
  have waits : ¬(w.gone = false ∧ input.statusReply = .ok) → ¬Proceeds input w := by
    rintro refused (noChange | ⟨-, accepted⟩)
    · rcases rejected with seen | seen <;> simp [seen] at noChange
    · exact refused accepted
  unfold rejectResize writePVCResizeStatus recordEvent log
  simp only [wp_bind, wp_read, wp_ite, World.note_v, current, false_implies,
    not_false_eq_true, forall_const, true_and, wp_pure, wp_write]
  refine patchCopy_wp (fun there ok => ⟨trivial, ?_⟩) fun refused _ _ => ⟨fun _ => ?_, fun _ => ?_⟩
  · have proceeds : Proceeds input w := .inr ⟨.inr rejected, there, ok⟩
    refine ⟨fun _ => ?_, by simp⟩
    exact @pausesReported_moved _ _ _ _
      [.event rejection, .resized .aborted, .sizing (some desired) w.pvcs] rfl (.resized .aborted)
        (by simp) (.inr rfl) proceeds
  · exact @pausesReported_quiet _ _ _ _ [.event rejection, .sizing (some desired) w.pvcs] rfl
      (by simp [quiet.1, quiet.2,
        show (Entry.sizing (some desired) w.pvcs).kind = .sizing from rfl])
      (waits refused) silent
  · exact @pausesReported_quiet _ _ _ _ [.sizing (some desired) w.pvcs] rfl (by simp [Entry.kind])
      (waits refused) silent

private theorem drivePVCResize_pausesReported (noChange : detected input w = some .noChange) :
    (drivePVCResize input current desired).wp (fun _ => True)
      (fun _ => PausesReported input resize w) (w.note (.sizing (some desired) w.pvcs)) := by
  refine wp_mono drivePVCResize_moves (fun _ => id) fun _ final moved => ?_
  obtain ⟨lines, journal⟩ := moved
  have added : final.journal =
      (lines ++ [.driving current, .sizing (some desired) w.pvcs]) ++ w.journal := by
    simp [journal]
  exact pausesReported_moved added (.driving current) (by simp) (.inl rfl) (.inl noChange)

private theorem maybeEmitPVCStuckEvent_pausesReported (held : w.v.status.pvcResize = some resize)
    (needed : detected input w = some .resizeNeeded) (waits : ¬Proceeds input w) :
    (maybeEmitPVCStuckEvent input.stuckReply).wp (fun _ => True)
      (fun _ => PausesReported input resize w) (w.note (.sizing (some desired) w.pvcs)) := by
  have silent : ¬ReportsStall input w resize →
      PausesReported input resize w (w.note (.sizing (some desired) w.pvcs)) :=
    @pausesReported_quiet _ _ _ _ [.sizing (some desired) w.pvcs] rfl (by simp [Entry.kind]) waits
  refine maybeEmitPVCStuckEvent_wp (fun refused _ => silent ?_)
    fun found same unreported there accepted => ⟨trivial, trivial, ?_⟩
  · rintro ⟨-, unreported, there, accepted⟩
    exact refused resize held unreported ⟨there, accepted⟩
  · cases held.symm.trans same
    exact @pausesReported_reported _ _ _ _ [.sizing (some desired) w.pvcs] rfl
      (by simp [Entry.kind]) waits ⟨needed, unreported, there, accepted⟩

private theorem resizeClaims_pausesReported (held : w.v.status.pvcResize = some resize)
    (stalled : pvcResizeIsStalled w.v w.now = true)
    (needed : detected input w = some .resizeNeeded) (waits : ¬Proceeds input w) :
    (resizeClaims input desired).wp (fun _ => True)
      (fun _ => PausesReported input resize w) (w.note (.sizing (some desired) w.pvcs)) := by
  have inFlight := inFlight_of_stalled held stalled
  have phase : currentPVCResizePhase w.v = resize.phase := by simp [currentPVCResizePhase, held]
  have working : resize.phase ≠ .aborted := by
    intro aborted
    simp [aborted, isPVCResizeInFlight] at inFlight
  unfold resizeClaims enterResize
  simp only [wp_bind, wp_read, wp_ite, wp_pure, World.note_v, World.note_now,
    phase]
  refine ⟨fun waiting => absurd waiting.1 working, fun _ => ⟨fun _ => ⟨fun _ => ?_, fun moving =>
    absurd stalled moving⟩, fun outside => absurd inFlight outside⟩⟩
  exact maybeEmitPVCStuckEvent_pausesReported held needed waits

end Branches

/-- A stalled resize is left alone exactly when it need not proceed and its report got through. -/
theorem reconcilePVCResize_pausesReported_iff (input : PVCResizeInput) {w : World}
    {resize : PVCResize} (held : w.v.status.pvcResize = some resize)
    (stalled : pvcResizeIsStalled w.v w.now = true) :
    let final := ((reconcilePVCResize input).run w).final
    (Paused w final ∧ Reported resize.phase final.journal) ↔
      ¬Proceeds input w ∧ (Reported resize.phase w.journal ∨ ReportsStall input w resize) := by
  have pauses : (reconcilePVCResize input).wp (fun _ => True)
      (fun _ => PausesReported input resize w) w := by
    refine reconcilePVCResize_wp trivial (fun absent =>
      clearPVCResizeStatus_pausesReported held absent) fun desired spec => ?_
    have inFlight := inFlight_of_stalled held stalled
    refine ⟨fun unseen => ?_, fun seen _ => drivePVCResize_pausesReported seen, fun _ unset => ?_,
      fun seen => rejectResize_pausesReported held stalled (.inl seen) ⟨rfl, nofun⟩,
      fun seen => rejectResize_pausesReported held stalled (.inr seen) ⟨rfl, nofun⟩,
      fun seen => resizeClaims_pausesReported held stalled seen (by simp [Proceeds, seen, spec])⟩
    · exact @pausesReported_quiet _ _ _ _ [.sizing (some desired) w.pvcs] rfl
        (by simp [Entry.kind]) (by simp [Proceeds, unseen, spec]) (by simp [ReportsStall, unseen])
    · simp [currentPVCResizePhase, held] at unset
      simp [unset, isPVCResizeInFlight] at inFlight
  exact pauses.2

/-- A resize that has waited since time zero for its claims to be patched. -/
def stalledResize : PVCResize :=
  { phase := .stsOrphaned, attempt := 1, startedAt := some 0, lastTransitionAt := some 0 }

/-- Eleven minutes later the claim is still too small. -/
def stalledWorld : World :=
  let status : Status := { pvcResize := some stalledResize }
  { resizingWorld with
    now := 660 * second
    cr := { resizingWorld.cr with status }
    v := { resizingWorld.v with status }
    sts := none }

/-- Phase 4 reports it and waits. -/
theorem reconcilePVCResize_reports_stall :
    let final := ((reconcilePVCResize { allowExpansion := some true }).run stalledWorld).final
    Paused stalledWorld final ∧ Reported .stsOrphaned final.journal := by
  have stalled : pvcResizeIsStalled stalledWorld.v stalledWorld.now = true := by decide
  have waits : ¬Proceeds { allowExpansion := some true } stalledWorld := by decide
  have reports : ReportsStall { allowExpansion := some true } stalledWorld stalledResize := by
    decide
  exact (reconcilePVCResize_pausesReported_iff _ rfl stalled).mpr ⟨waits, .inr reports⟩

/-- A pass whose storage class allows expansion. -/
def expandingPass : PassInput :=
  { resize := { allowExpansion := some true } }

/-- The StatefulSet is deleted, the claim patched, its volume as before. -/
def unfinishedActs : List (Act PassInput Drift) :=
  [.call expandingPass, .call expandingPass, .drift { elapsed := 660 * second }]

/-- The next pass drives the stalled resize, and nothing is reported. -/
theorem operator_drives_stalled :
    let w := operator.run unfinishedActs resizingWorld
    let final := operator.run [.call expandingPass] w
    pvcResizeIsStalled w.cr w.now = true ∧ currentPVCResizePhase w.cr = .pvcsPatched ∧
      ¬Paused w final ∧ ¬Reported .pvcsPatched final.journal := by
  decide

end Velkir
