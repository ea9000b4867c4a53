import Velkir.ResizeRecreate

/-!
# Growth before recreation

Phase 2 is to create a StatefulSet only once the claims have grown. The phase in the record holds it
back.
-/

namespace Velkir

open Crash Proc History

/-- A deleted StatefulSet still waits for this size after this line. -/
def StillWaits (size : Nat) : Entry → Prop
  | .created .. => False
  | .grown desired pvcs => ¬(desired = size ∧ pvcs ≠ [] ∧ ∀ pvc ∈ pvcs, size ≤ pvc.capacity)
  | .resized phase => phase ≠ .aborted
  | .sizing desired _ => desired = some size
  | _ => True

instance (size : Nat) : DecidablePred (StillWaits size) := fun line => by
  cases line <;> unfold StillWaits <;> infer_instance

/-- The StatefulSet was deleted, and no growth has been seen since. -/
def AwaitsGrowth (size : Nat) : List Entry → Prop :=
  Since (StillWaits size) (fun line => line.kind = .orphaned)

instance (size : Nat) : DecidablePred (AwaitsGrowth size) :=
  inferInstanceAs (DecidablePred (Since _ _))

/-- A StatefulSet is created only when none waits for its claims to grow. -/
def RecreatesGrown (size : Nat) (line : Entry) (before : List Entry) : Prop :=
  line.kind = .created → ¬AwaitsGrowth size before

instance (size : Nat) (line : Entry) (before : List Entry) :
    Decidable (RecreatesGrown size line before) :=
  inferInstanceAs (Decidable (_ → _))

/-- While a deleted StatefulSet waits, the stored record holds Phase 2 back. -/
structure Guarded (size : Nat) (w : World) : Prop where
  history : Always (RecreatesGrown size) w.journal
  guarded : AwaitsGrowth size w.journal →
    isPVCResizeGuardingPhase2 (currentPVCResizePhase w.cr) = true

/-- The working copy carries the same record. -/
structure GuardedCopy (size : Nat) (w : World) : Prop extends Guarded size w where
  copied : w.v.status.pvcResize = w.cr.status.pvcResize

variable {size : Nat}

/-- A line other than a deletion leaves behind what was waiting before it. -/
theorem AwaitsGrowth.of_cons {line : Entry} {before : List Entry}
    (waits : AwaitsGrowth size (line :: before)) (kind : line.kind ≠ .orphaned) :
    StillWaits size line ∧ AwaitsGrowth size before :=
  (since_cons.mp waits).resolve_left kind

section Frames

variable {size desired : Nat} {touched : List Part} {kinds : List Kind} {before after : World}

theorem AwaitsGrowth.of_frame (frame : Frame touched kinds before after) (lines : .orphaned ∉ kinds)
    (waits : AwaitsGrowth size after.journal) : AwaitsGrowth size before.journal := by
  obtain ⟨new, journal, kind⟩ := frame.journal
  rw [journal] at waits
  exact Since.of_append (fun line mem orphaned => lines (orphaned ▸ kind line mem)) waits

theorem guarded_tolerates (record : .resize ∉ touched := by decide)
    (lines : .created ∉ kinds ∧ .orphaned ∉ kinds := by decide) :
    Tolerates touched kinds (Keeps (Guarded size)) := by
  intro before after frame guarded
  have kept : Carried (fun cr => cr.status.pvcResize) before after := frame.kept .resize record
  refine ⟨always_tolerates (fun line mem past created => ?_) _ _ frame guarded.history,
    fun waits => ?_⟩
  · exact absurd (created ▸ mem) lines.1
  · have stored : after.cr.status.pvcResize = before.cr.status.pvcResize := kept.1
    simpa [currentPVCResizePhase, stored] using guarded.guarded (waits.of_frame frame lines.2)

theorem guardedCopy_tolerates (record : .resize ∉ touched := by decide)
    (lines : .created ∉ kinds ∧ .orphaned ∉ kinds := by decide) :
    Tolerates touched kinds (Keeps (GuardedCopy size)) := by
  intro before after frame guarded
  have kept : Carried (fun cr => cr.status.pvcResize) before after := frame.kept .resize record
  refine ⟨guarded_tolerates record lines _ _ frame guarded.toGuarded, ?_⟩
  exact (kept.of_same guarded.copied).trans (guarded.copied.trans kept.1.symm)

end Frames

theorem Status.patched_phase {base target stored : Status} {phase : PVCResizePhase}
    (same : base.pvcResize = stored.pvcResize)
    (sets : target.pvcResize.map PVCResize.phase = some phase) :
    (base.patched target stored).pvcResize.map PVCResize.phase = some phase := by
  obtain ⟨resize, target_eq, rfl⟩ := Option.map_eq_some_iff.mp sets
  unfold Status.patched Status.wire
  rw [same, target_eq]
  cases stored.pvcResize with
  | none => simp [MergePatch.merge, MergePatch.mergeOption, MergePatch.replace]
  | some old =>
      simp only [MergePatch.merge, MergePatch.mergeOption, Option.map_some]
      split
      · simp_all
      · simp

theorem nextResize_phase (now : Nat) (phase : PVCResizePhase) (held : Option PVCResize) :
    (nextResize now phase held).phase = phase := by
  unfold nextResize
  split <;> rfl

section Record

variable {size : Nat} {w : World} (guarded : GuardedCopy size w)

include guarded

theorem GuardedCopy.phase : currentPVCResizePhase w.cr = currentPVCResizePhase w.v := by
  simp [currentPVCResizePhase, guarded.copied]

theorem GuardedCopy.not_awaits
    (unguarded : isPVCResizeGuardingPhase2 (currentPVCResizePhase w.v) = false) :
    ¬AwaitsGrowth size w.journal := by
  intro waits
  have held := guarded.guarded waits
  rw [guarded.phase, unguarded] at held
  exact Bool.false_ne_true held

/-- The record may hold Phase 2 back, abort, or do as it likes if nothing waits. -/
theorem GuardedCopy.patchStatus {update : Status → Status} {phase : PVCResizePhase}
    (safe : AwaitsGrowth size w.journal →
      isPVCResizeGuardingPhase2 phase = true ∨ phase = .aborted)
    (sets : ((w.v.status.patched (update w.v.status) w.cr.status).pvcResize.map
      PVCResize.phase).getD .unset = phase) :
    GuardedCopy size (w.patchStatus update .status [.resized phase]) := by
  refine ⟨⟨.cons (by simp [RecreatesGrown, Entry.kind]) guarded.history, fun waits => ?_⟩, rfl⟩
  obtain ⟨working, before⟩ := waits.of_cons (by simp [Entry.kind])
  have held := (safe before).resolve_right working
  rw [← sets] at held
  exact held

theorem writePVCResizeStatus_guarded {phase : PVCResizePhase} {reply : Reply}
    (safe : AwaitsGrowth size w.journal →
      isPVCResizeGuardingPhase2 phase = true ∨ phase = .aborted) :
    (writePVCResizeStatus phase reply).wp (GuardedCopy size)
      (fun ok final => GuardedCopy size final ∧
        (ok = true → reply ≠ .conflict → currentPVCResizePhase final.v = phase)) w := by
  have sets : ((w.v.status.patched (Status.enterResize w.now phase w.v.status)
      w.cr.status).pvcResize.map PVCResize.phase).getD .unset = phase := by
    rw [@Status.patched_phase _ _ _ phase guarded.copied
      (by rw [Status.enterResize, Option.map_some, nextResize_phase]), Option.getD_some]
  have patched := guarded.patchStatus safe sets
  exact writePVCResizeStatus_wp (fun same => ⟨guarded, fun _ _ => same⟩)
    (fun _ _ => ⟨patched, patched, fun _ _ => sets⟩)
    fun _ _ conflict => ⟨guarded, fun ok undisputed => absurd (conflict ok) undisputed⟩

theorem clearPVCResizeStatus_guarded {reply : Reply} (free : ¬AwaitsGrowth size w.journal) :
    (clearPVCResizeStatus reply).wp (GuardedCopy size) (fun _ => GuardedCopy size) w := by
  refine clearPVCResizeStatus_wp (fun _ => guarded) (fun resize held _ _ => ?_)
    fun _ _ _ => guarded
  have cleared := @GuardedCopy.patchStatus _ _ guarded
    (fun status => { status with pvcResize := none }) .unset (fun waits => absurd waits free)
    (by simp [Status.patched, Status.wire, held, MergePatch.merge, MergePatch.mergeOption])
  exact ⟨cleared, cleared⟩

theorem GuardedCopy.note {line : Entry}
    (kind : line.kind ≠ .created ∧ line.kind ≠ .orphaned) : GuardedCopy size (w.note line) := by
  refine guardedCopy_tolerates (by decide) ?_ _ _
    (World.note_frame List.mem_cons_self w : Frame [] [line.kind] _ _) guarded
  exact ⟨by simpa using kind.1.symm, by simpa using kind.2.symm⟩

private theorem maybeEmitPVCStuckEvent_guarded {reply : Reply} :
    (maybeEmitPVCStuckEvent reply).wp (GuardedCopy size) (fun _ => GuardedCopy size) w := by
  refine maybeEmitPVCStuckEvent_wp (fun _ _ => guarded) fun resize held _ _ _ => ?_
  -- The stamp leaves the phase as it is.
  have stamped : GuardedCopy size (w.patchStatus (Status.stampStuck w.now) .status []) := by
    refine ⟨⟨guarded.history, fun waits => ?_⟩, rfl⟩
    have before := guarded.guarded waits
    rw [guarded.phase] at before
    simp only [currentPVCResizePhase, World.patchStatus]
    rw [@Status.patched_phase _ _ _ resize.phase guarded.copied (by simp [Status.stampStuck, held])]
    simpa [currentPVCResizePhase, held] using before
  have reported := @GuardedCopy.note _ _ stamped (.event (.pvcExpansionStuck resize.phase))
    (by simp [Entry.kind])
  exact ⟨stamped, reported, reported⟩

end Record

section Phase

variable {size desired : Nat} {w : World} {input : PVCResizeInput}

private theorem not_awaitsGrowth_grown {pvcs : List PVC}
    (sized : AwaitsGrowth size w.journal → desired = size)
    (listed : pvcs ≠ []) (grown : ∀ pvc ∈ pvcs, desired ≤ pvc.capacity) :
    ¬AwaitsGrowth size (.grown desired pvcs :: w.journal) := by
  intro waits
  obtain ⟨still, before⟩ := waits.of_cons (by simp [Entry.kind])
  have same := sized before
  exact still ⟨same, listed, same ▸ grown⟩

/-- What a transition may lead to. -/
structure Follows (size : Nat) (transition : Transition) (w : World) : Prop
    extends GuardedCopy size w where
  advance : ∀ next, transition = .advance next → AwaitsGrowth size w.journal →
    isPVCResizeGuardingPhase2 next = true
  complete : transition = .complete → ¬AwaitsGrowth size w.journal

variable (guarded : GuardedCopy size w)

include guarded

theorem follows_requeue : Follows size .requeue w :=
  ⟨guarded, nofun, nofun⟩

theorem follows_abort (rejected : Option String) : Follows size (.abort rejected) w :=
  ⟨guarded, nofun, nofun⟩

theorem follows_advance {next : PVCResizePhase}
    (safe : AwaitsGrowth size w.journal → isPVCResizeGuardingPhase2 next = true) :
    Follows size (.advance next) w :=
  ⟨guarded, by rintro _ ⟨⟩; exact safe, nofun⟩

private theorem fromValidated_follows (current : currentPVCResizePhase w.v = .validated) :
    (fromValidated input).wp (GuardedCopy size) (Follows size) w := by
  have advance : ∀ {w}, GuardedCopy size w → Follows size (.advance .stsOrphaned) w :=
    fun guarded => follows_advance guarded fun _ => rfl
  refine fromValidated_wp (follows_requeue guarded) (advance guarded) fun sts => ?_
  have orphaned :
      GuardedCopy size { w with sts := none, journal := .orphaned sts :: w.journal } := by
    refine ⟨⟨.cons (by simp [RecreatesGrown, Entry.kind]) guarded.history, fun _ => ?_⟩,
      guarded.copied⟩
    rw [guarded.phase, current]
    rfl
  exact ⟨orphaned, advance orphaned⟩

private theorem patchClaims_follows (pvcs : List PVC) :
    (patchClaims input desired pvcs).wp (GuardedCopy size) (Follows size) w := by
  induction pvcs generalizing w with
  | nil => exact wp_pure.mpr (follows_advance guarded fun _ => rfl)
  | cons pvc pvcs ih =>
      refine wp_ite.mpr ⟨fun _ => ih guarded, fun _ => ?_⟩
      cases input.patchReply pvc.name with
      | ok =>
          have patched : GuardedCopy size { w with
              pvcs := w.pvcs.map fun stored =>
                if stored.name = pvc.name then { stored with request := desired } else stored } :=
            ⟨⟨guarded.history, guarded.guarded⟩, guarded.copied⟩
          exact wp_bind.mpr (wp_write.mpr ⟨patched, ih patched⟩)
      | notFound => exact ih guarded
      | rejected => exact wp_pure.mpr (follows_abort guarded _)
      | conflict | failed => exact wp_pure.mpr (follows_requeue guarded)

private theorem fromStsOrphaned_follows :
    (fromStsOrphaned input desired).wp (GuardedCopy size) (Follows size) w := by
  unfold fromStsOrphaned logHere
  simp only [wp_bind, wp_read, wp_ite, wp_pure, wp_write]
  refine ⟨fun _ => follows_requeue guarded, fun _ => ⟨fun _ => follows_requeue guarded, fun _ =>
    ⟨fun _ => follows_requeue guarded, fun _ => ?_⟩⟩⟩
  refine wp_mono (patchClaims_follows guarded _) (fun _ => id) fun transition middle follows =>
    ⟨?_, fun _ => follows⟩
  rintro rfl
  have noted := @GuardedCopy.note _ _ follows.toGuardedCopy
    (.patched desired (remainingClaims input desired middle.pvcs)) (by simp [Entry.kind])
  exact ⟨noted, follows_advance noted fun _ => rfl⟩

private theorem fromPVCsPatched_follows (sized : AwaitsGrowth size w.journal → desired = size) :
    (fromPVCsPatched input desired).wp (GuardedCopy size) (Follows size) w := by
  refine fromPVCsPatched_wp (follows_requeue guarded) (follows_abort guarded _)
    fun listed grown => ?_
  have noted : GuardedCopy size (w.note (.grown desired w.pvcs)) :=
    guarded.note (by simp [Entry.kind])
  exact ⟨noted, follows_advance noted fun waits =>
    absurd waits (not_awaitsGrowth_grown sized listed grown)⟩

private theorem fromStsRecreated_follows (current : currentPVCResizePhase w.v = .stsRecreated) :
    (fromStsRecreated input desired).wp (GuardedCopy size) (Follows size) w := by
  have free := guarded.not_awaits (by rw [current]; rfl)
  exact fromStsRecreated_wp (follows_requeue guarded)
    (follows_advance guarded fun waits => absurd waits free)

private theorem fromVerified_follows (current : currentPVCResizePhase w.v = .verified) :
    (fromVerified input).wp (GuardedCopy size) (Follows size) w := by
  have free := guarded.not_awaits (by rw [current]; rfl)
  exact fromVerified_wp (follows_requeue guarded) ⟨guarded, nofun, fun _ => free⟩

private theorem transitionFrom_follows (sized : AwaitsGrowth size w.journal → desired = size) :
    (transitionFrom input desired (currentPVCResizePhase w.v)).wp (GuardedCopy size)
      (Follows size) w := by
  cases current : currentPVCResizePhase w.v with
  | validated => exact fromValidated_follows guarded current
  | stsOrphaned => exact fromStsOrphaned_follows guarded
  | pvcsPatched => exact fromPVCsPatched_follows guarded sized
  | stsRecreated => exact fromStsRecreated_follows guarded current
  | verified => exact fromVerified_follows guarded current
  | _ => exact wp_pure.mpr (follows_requeue guarded)

/-- Driving the record's phase keeps Phase 2 back while something waits. -/
theorem drivePVCResize_guarded (sized : AwaitsGrowth size w.journal → desired = size) :
    (drivePVCResize input (currentPVCResizePhase w.v) desired).wp (GuardedCopy size)
      (fun _ => GuardedCopy size) w := by
  have driven : GuardedCopy size (w.note (.driving (currentPVCResizePhase w.v))) :=
    guarded.note (by simp [Entry.kind])
  have transition := @transitionFrom_follows _ desired _ input driven fun waits =>
    sized (waits.of_cons (by simp [Entry.kind])).2
  unfold drivePVCResize recordTransition
  rw [wp_bind, log, wp_write, wp_bind]
  refine ⟨driven, wp_mono transition (fun _ => id) fun taken middle follows => ?_⟩
  cases taken with
  | advance next =>
      exact wp_mono (writePVCResizeStatus_guarded follows.toGuardedCopy fun waits =>
        .inl (follows.advance next rfl waits)) (fun _ => id) fun _ _ => And.left
  | requeue => exact wp_pure.mpr follows.toGuardedCopy
  | abort rejected =>
      have noted := @GuardedCopy.note _ _ follows.toGuardedCopy (.event (abortEvent rejected))
        (by cases rejected <;> simp [abortEvent, Entry.kind])
      rw [wp_bind, recordEvent, log, wp_write, wp_bind]
      exact ⟨noted, wp_mono (writePVCResizeStatus_guarded noted fun _ => .inr rfl)
        (fun _ => id) fun _ _ final => wp_pure.mpr final.1⟩
  | complete =>
      have noted :=
        @GuardedCopy.note _ _ follows.toGuardedCopy (.event (.pvcResizeComplete desired))
        (by simp [Entry.kind])
      rw [wp_bind, recordEvent, log, wp_write]
      exact ⟨noted, clearPVCResizeStatus_guarded noted fun waits =>
        follows.complete rfl (waits.of_cons (by simp [Entry.kind])).2⟩

private theorem rejectResize_guarded {rejection : Event}
    (kind : (Entry.event rejection).kind ≠ .created ∧ (Entry.event rejection).kind ≠ .orphaned) :
    (rejectResize input rejection).wp (GuardedCopy size) (fun _ => GuardedCopy size) w := by
  unfold rejectResize recordEvent log
  simp only [wp_bind, wp_ite, wp_pure, wp_write]
  refine wp_mono (writePVCResizeStatus_guarded guarded fun _ => .inr rfl) (fun _ => id) ?_
  rintro _ final ⟨here, -⟩
  exact ⟨fun _ => ⟨here.note kind, here.note kind⟩, fun _ => here⟩

/-- Entering leaves the driven phase in the record, unless that was lost. -/
theorem enterResize_guarded (undisputed : input.enterReply ≠ .conflict)
    (sized : AwaitsGrowth size w.journal → desired = size) :
    (enterResize input (currentPVCResizePhase w.v)).wp (GuardedCopy size)
      (fun entered final => GuardedCopy size final ∧
        (AwaitsGrowth size final.journal → desired = size) ∧
        ∀ phase, entered = some phase → currentPVCResizePhase final.v = phase) w := by
  unfold enterResize recordEvent log
  simp only [wp_bind, wp_ite, wp_pure, wp_write]
  refine ⟨fun _ => ⟨guarded, sized, by rintro _ ⟨⟩; rfl⟩, fun _ => ?_⟩
  have written := wp_and
    (@writePVCResizeStatus_guarded _ _ guarded _ input.enterReply fun _ => .inl rfl)
    (@writePVCResizeStatus_within .validated [.resize] [.resized] input.enterReply (by decide)
      (by decide) w)
  refine wp_mono written (fun _ => And.left) ?_
  rintro ok middle ⟨⟨here, phase⟩, frame⟩
  have sized : AwaitsGrowth size middle.journal → desired = size := fun waits =>
    sized (waits.of_frame frame (by decide))
  refine ⟨fun _ => ⟨here, sized, by simp⟩, fun entered => ?_⟩
  have noted := @GuardedCopy.note _ _ here (.event .pvcResizeInitiated) (by simp [Entry.kind])
  refine ⟨noted, noted, fun waits => sized (waits.of_cons (by simp [Entry.kind])).2, ?_⟩
  rintro _ ⟨⟩
  exact phase (by simpa using entered) undisputed

private theorem resizeClaims_guarded (undisputed : input.enterReply ≠ .conflict)
    (sized : AwaitsGrowth size w.journal → desired = size) :
    (resizeClaims input desired).wp (GuardedCopy size) (fun _ => GuardedCopy size) w := by
  unfold resizeClaims
  simp only [wp_bind, wp_read, wp_ite, wp_pure]
  refine ⟨fun _ => guarded, fun _ => ?_⟩
  refine wp_mono (enterResize_guarded guarded undisputed sized) (fun _ => id) ?_
  rintro entered middle ⟨here, sized, phase⟩
  cases entered with
  | none => exact wp_pure.mpr here
  | some current =>
      simp only [wp_bind, wp_read, wp_ite]
      rw [← phase current rfl]
      exact ⟨fun _ => maybeEmitPVCStuckEvent_guarded here, fun _ =>
        drivePVCResize_guarded here sized⟩

omit guarded in
/-- Phase 4 leaves nothing waiting to Phase 2 without a conflict on entering. -/
theorem reconcilePVCResize_guarded (undisputed : input.enterReply ≠ .conflict) :
    Within (Keeps (GuardedCopy size)) (reconcilePVCResize input) := by
  refine .of_wp fun w guarded => ?_
  have noted : ∀ persistence, GuardedCopy size (w.note (.sizing persistence w.pvcs)) :=
    fun _ => guarded.note (by simp [Entry.kind])
  have asked : ∀ {persistence}, AwaitsGrowth size (.sizing persistence w.pvcs :: w.journal) →
      persistence = some size := fun waits => (waits.of_cons (by simp [Entry.kind])).1
  refine reconcilePVCResize_wp (noted _) (fun _ => ?_) fun desired _ => ?_
  · refine clearPVCResizeStatus_guarded (noted _) fun waits => ?_
    cases asked waits
  · have sized : AwaitsGrowth size (w.note (.sizing (some desired) w.pvcs)).journal →
        desired = size := fun waits => Option.some.inj (asked waits)
    exact {
      blind := fun _ => noted _
      driven := fun _ _ => drivePVCResize_guarded (noted _) sized
      idle := fun _ unset => clearPVCResizeStatus_guarded (noted _)
        ((noted _).not_awaits (by rw [World.note_v, unset]; rfl))
      shrunk := fun _ => rejectResize_guarded (noted _) (by simp [Entry.kind])
      unsupported := fun _ => rejectResize_guarded (noted _) (by simp [Entry.kind])
      needed := fun _ => resizeClaims_guarded (noted _) undisputed sized }

end Phase

/-- Nothing waits. -/
structure Free (size : Nat) (w : World) : Prop extends GuardedCopy size w where
  free : ¬AwaitsGrowth size w.journal

private theorem Free.applySTS {w : World} (free : Free size w) (sts : StatefulSet) :
    Free size (w.applySTS sts) := by
  unfold World.applySTS
  cases w.sts with
  | some existing => exact ⟨⟨⟨free.history, free.guarded⟩, free.copied⟩, free.free⟩
  | none =>
      have released : ¬AwaitsGrowth size (.created sts w.pods :: w.journal) := fun waits =>
        (waits.of_cons (by simp [Entry.kind])).1
      exact ⟨⟨⟨.cons (fun _ => free.free) free.history, fun waits => absurd waits released⟩,
        free.copied⟩, released⟩

private theorem reconcileStatefulSet_guarded (state : State) (input : StatefulSetInput) :
    Within (Keeps (GuardedCopy size)) (reconcileStatefulSet state input) := by
  have plain : Tolerates [] [.event, .applying] (Keeps (Free size)) :=
    fun _ _ frame free =>
      ⟨guardedCopy_tolerates (by decide) (by decide) _ _ frame free.toGuardedCopy,
        fun waits => free.free (waits.of_frame frame (by decide))⟩
  have keeps : Within (Keeps (Free size)) (reconcileStatefulSet state input) :=
    reconcileStatefulSet_keeps plain (fun sts _ free => free.applySTS sts) state input
  refine .of_wp fun w guarded => ?_
  cases guards : isPVCResizeGuardingPhase2 (currentPVCResizePhase w.v) with
  | true =>
      unfold reconcileStatefulSet
      simpa [guards] using guarded
  | false =>
      exact wp_mono (keeps.wp ⟨guarded, guarded.not_awaits guards⟩) (fun _ => (·.1))
        fun _ _ => (·.1)

private theorem guarded_rules {input : PassInput}
    (undisputed : input.resize.enterReply ≠ .conflict) :
    PassRules (Guarded size) (GuardedCopy size) (GuardedCopy size) input where
  toBodyRules := .of_tolerates (fun _ => (·.1)) guarded_tolerates guardedCopy_tolerates
    (reconcilePVCResize_guarded undisputed)
    (fun _ => reconcileStatefulSet_guarded _ _)
    fun _ _ _ => (reconcilePodRollout_within _ _ _ _).mono guardedCopy_tolerates
  fetch w guarded := ⟨⟨guarded.history, guarded.guarded⟩, rfl⟩
  gate _ := (detectPVCLossAndGate_within _ _).mono guardedCopy_tolerates
  evaluate _ := (evaluateRolloutWatchdog_within _).mono guarded_tolerates
  update _ := (updateStatus_within _ _).mono guarded_tolerates

/-- No conflict answers the write of a pass that enters a resize. -/
def EntersUndisputed : Act PassInput Drift → Prop
  | .call input | .crash input _ => input.resize.enterReply ≠ .conflict
  | .drift _ => True

/-- Between a deletion and the growth nothing is created, unless aborted or asked anew. -/
theorem operator_recreatesGrown (size : Nat) {acts : List (Act PassInput Drift)} {w : World}
    (start : w.journal = []) (undisputed : ∀ act ∈ acts, EntersUndisputed act) :
    Always (RecreatesGrown size) (operator.run acts w).journal := by
  have fresh : Guarded size w := by
    refine ⟨by rw [start]; exact .nil, fun waits => ?_⟩
    rw [start] at waits
    exact absurd waits not_since_nil
  have step : ∀ act middle, EntersUndisputed act → Guarded size middle →
      Guarded size (operator.exec act middle) := by
    intro act middle undisputed guarded
    cases act with
    | call input => exact ((guarded_rules undisputed).reconcile_keeps guarded).2
    | crash input writes =>
        exact System.exec_crash guarded ((guarded_rules undisputed).reconcile_keeps guarded)
          (guarded_rules undisputed).forget
    | drift change =>
        exact guarded_tolerates (by decide) (by decide) _ _ (middle.drift_frame change) guarded
  exact (System.run_induction step (System.meets_of_forall undisputed) fresh).history

/-- A pass whose first two writes are answered by a conflict. -/
def disputedPass : PassInput :=
  { resize := { allowExpansion := some true, enterReply := .conflict, driveReply := .conflict } }

/-- The StatefulSet is created again while the claim has its old size. -/
theorem operator_recreates_ungrown :
    let journal := (operator.run [.call disputedPass] resizingWorld).journal
    ¬Always (RecreatesGrown 2) journal ∧
      (operator.run [.call disputedPass] resizingWorld).pvcs = resizingWorld.pvcs := by
  decide

/-- Undisputed, the resize ends with a StatefulSet over a grown claim. -/
theorem operator_recreatesGrown_resize :
    (∃ line ∈ (operator.run (resizeActs nineSpec) resizingWorld).journal, line.kind = .created) ∧
      Always (RecreatesGrown 2) (operator.run (resizeActs nineSpec) resizingWorld).journal := by
  have created : ∃ line ∈ (operator.run (resizeActs nineSpec) resizingWorld).journal,
      line.kind = .created := by decide
  refine ⟨created, operator_recreatesGrown 2 rfl fun act mem => ?_⟩
  simp only [resizeActs, List.mem_cons, List.not_mem_nil, or_false] at mem
  rcases mem with rfl | rfl | rfl | rfl <;> simp [EntersUndisputed]

end Velkir
