import Velkir.ResizeGuard
import Velkir.ResizeStall

/-!
# Resizes that were aborted

Phase 4 has no transition out of the aborted phase, and fails before Phase 2 can restore a deleted
StatefulSet.
-/

namespace Velkir

open Crash Proc

/-- The working copy and the stored resource carry a resize record. -/
def HasRecord (w : World) : Prop :=
  w.v.status.pvcResize ≠ none ∧ w.cr.status.pvcResize ≠ none

variable {desired : Nat} {update : Status → Status} {notes : List Entry}

section Record

variable {w : World} {input : PVCResizeInput} {reply : Reply} {phase : PVCResizePhase}

theorem HasRecord.patchStatus (held : HasRecord w) (sets : (update w.v.status).pvcResize ≠ none) :
    HasRecord (w.patchStatus update .status notes) := by
  have merged : (w.v.status.patched (update w.v.status) w.cr.status).pvcResize ≠ none := by
    obtain ⟨base, base_eq⟩ := Option.ne_none_iff_exists'.mp held.1
    obtain ⟨stored, stored_eq⟩ := Option.ne_none_iff_exists'.mp held.2
    obtain ⟨target, target_eq⟩ := Option.ne_none_iff_exists'.mp sets
    simp only [Status.patched, Status.wire, base_eq, stored_eq, target_eq, MergePatch.merge,
      MergePatch.mergeOption, Option.map_some]
    split <;> simp
  exact ⟨merged, merged⟩

theorem HasRecord.note (held : HasRecord w) (line : Entry) : HasRecord (w.note line) :=
  held

theorem writePVCResizeStatus_hasRecord :
    Within (Keeps HasRecord) (writePVCResizeStatus phase reply) := by
  refine .of_wp fun w held => ?_
  have written : HasRecord
      (w.patchStatus (Status.enterResize w.now phase) .status [.resized phase]) :=
    held.patchStatus (by simp [Status.enterResize])
  exact writePVCResizeStatus_wp (fun _ => held) (fun _ _ => ⟨written, written⟩) fun _ _ _ => held

private theorem maybeEmitPVCStuckEvent_hasRecord :
    Within (Keeps HasRecord) (maybeEmitPVCStuckEvent reply) := by
  refine .of_wp fun w held => ?_
  refine maybeEmitPVCStuckEvent_wp (fun _ _ => held) fun resize working _ _ _ => ?_
  have stamped : HasRecord (w.patchStatus (Status.stampStuck w.now) .status []) :=
    held.patchStatus (by simp [Status.stampStuck, working])
  exact ⟨stamped, stamped.note _, stamped.note _⟩

/-- Neither an aborted resize nor one that is about to start can complete. -/
theorem drivePVCResize_hasRecord (early : phase = .aborted ∨ phase = .validated) :
    Within (Keeps HasRecord) (drivePVCResize input phase desired) := by
  have line : Within (Keeps HasRecord) (log (.driving phase)) :=
    .write fun _ held => held.note _
  refine .bind line fun _ => ?_
  rcases early with rfl | rfl
  · exact .of_wp fun w held => wp_bind.mpr (wp_pure.mpr (wp_pure.mpr held))
  · have advance : Within (Keeps HasRecord)
        (recordTransition input desired (.advance .stsOrphaned)) := writePVCResizeStatus_hasRecord
    have requeue : Within (Keeps HasRecord) (recordTransition input desired .requeue) :=
      .pure _
    refine .of_wp fun w held => wp_bind.mpr ?_
    exact fromValidated_wp (requeue.wp held) (advance.wp held) fun _ => ⟨held, advance.wp held⟩

private theorem rejectResize_hasRecord (rejection : Event) :
    Within (Keeps HasRecord) (rejectResize input rejection) :=
  .bind writePVCResizeStatus_hasRecord fun _ =>
    .ite (.bind (.write fun _ held => held.note _) fun _ => .pure _) (.pure _)

private theorem resizeClaims_hasRecord (held : HasRecord w)
    (aborted : currentPVCResizePhase w.v = .aborted) :
    (resizeClaims input desired).wp HasRecord (fun _ => HasRecord) w := by
  unfold resizeClaims enterResize
  simp only [wp_bind, wp_read, wp_ite, wp_pure, aborted]
  refine ⟨fun _ => held, fun _ => ⟨by simp [isPVCResizeInFlight], fun _ => ?_⟩⟩
  refine wp_mono (writePVCResizeStatus_hasRecord.wp held) (fun _ => id) fun _ middle held => ?_
  refine ⟨fun _ => held, fun _ => ?_⟩
  unfold recordEvent log
  simp only [wp_write]
  exact ⟨held.note _, fun _ => maybeEmitPVCStuckEvent_hasRecord.wp (held.note _), fun _ =>
    (drivePVCResize_hasRecord (.inr rfl)).wp (held.note _)⟩

private theorem reconcilePVCResize_hasRecord (held : HasRecord w)
    (aborted : currentPVCResizePhase w.v = .aborted) (persistent : w.v.spec.persistence ≠ none) :
    (reconcilePVCResize input).wp HasRecord (fun _ => HasRecord) w := by
  refine reconcilePVCResize_wp (held.note _) (fun absent => absurd absent persistent)
    fun desired _ => ?_
  have noted := held.note (.sizing (some desired) w.pvcs)
  exact {
    blind := fun _ => noted
    driven := fun _ _ => (drivePVCResize_hasRecord (.inl aborted)).wp noted
    idle := fun _ unset => absurd (aborted.symm.trans unset) nofun
    shrunk := fun _ => (rejectResize_hasRecord _).wp noted
    unsupported := fun _ => (rejectResize_hasRecord _).wp noted
    needed := fun _ => resizeClaims_hasRecord noted aborted }

end Record

/-- An aborted record is dropped exactly if the spec drops persistence and the write succeeds. -/
theorem reconcilePVCResize_drops_aborted_iff (input : PVCResizeInput) {w : World}
    {resize : PVCResize} (working : w.v.status.pvcResize = some resize)
    (stored : w.cr.status.pvcResize = some resize) (aborted : resize.phase = .aborted) :
    ((reconcilePVCResize input).run w).final.cr.status.pvcResize = none ↔
      w.v.spec.persistence = none ∧ w.gone = false ∧ input.statusReply = .ok := by
  have held : HasRecord w := ⟨by simp [working], by simp [stored]⟩
  cases spec : w.v.spec.persistence with
  | some desired =>
      have current : currentPVCResizePhase w.v = .aborted := by
        simp [currentPVCResizePhase, working, aborted]
      have kept := @reconcilePVCResize_hasRecord w input held current (by simp [spec])
      simpa using kept.2.2
  | none =>
      have cleared : (reconcilePVCResize input).wp (fun _ => True)
          (fun _ final => final.cr.status.pvcResize = none ↔
            w.gone = false ∧ input.statusReply = .ok) w := by
        unfold reconcilePVCResize logHere
        simp only [wp_bind, wp_write, wp_read, World.note_v, spec, true_and]
        refine clearPVCResizeStatus_wp (fun absent => ?_) (fun _ _ there ok => ⟨trivial, ?_⟩)
          fun refused _ _ => ?_
        · simp [working] at absent
        · have there : w.gone = false := there
          simp [there, ok, World.patchStatus, Status.patched, Status.wire, working,
            MergePatch.merge, MergePatch.mergeOption]
        · have refused : ¬(w.gone = false ∧ input.statusReply = .ok) := refused
          simp [refused, stored]
      simpa using cleared.2

def refusedResize : PVCResize :=
  { phase := .aborted, attempt := 1, startedAt := some 0, lastTransitionAt := some 0 }

/-- The StatefulSet is missing, and the spec asks for claims of this size. -/
def abortedWorld (persistence : Option Nat) : World :=
  let cr : CR :=
    { resizingWorld.cr with
      spec := { nineSpec with persistence }
      status := { pvcResize := some refusedResize } }
  { resizingWorld with cr, v := cr, sts := none }

/-- Without persistence the record is dropped. -/
theorem reconcilePVCResize_drops_aborted :
    ((reconcilePVCResize {}).run (abortedWorld none)).final.cr.status.pvcResize = none :=
  (reconcilePVCResize_drops_aborted_iff {} rfl rfl rfl).mpr ⟨rfl, rfl, rfl⟩

/-- A pass whose storage class does not allow expansion. -/
def refusingPass : PassInput :=
  { resize := { allowExpansion := some false } }

/-- An edit of the size in the spec. -/
def resizeTo (size : Nat) : Drift :=
  { spec := some { nineSpec with persistence := some size } }

/-- After a reverted edit the record stays, and the edit is a second try. -/
theorem operator_keeps_aborted :
    let w := operator.run [.call refusingPass, .drift (resizeTo 1)] resizingWorld
    let final := operator.run [.call expandingPass] w
    let waiting := operator.run [.drift (resizeTo 2), .call expandingPass] final
    let retried := operator.run [.drift { elapsed := 120 * second }, .call expandingPass] waiting
    currentPVCResizePhase w.cr = .aborted ∧ w.pvcs ≠ [] ∧
      detected expandingPass.resize w.fetch = some .noChange ∧
      final.cr.status.pvcResize = w.cr.status.pvcResize ∧
      currentPVCResizePhase waiting.cr = .aborted ∧
      retried.cr.status.pvcResize.map PVCResize.attempt = some 2 := by
  decide

/-- Phases 4 and 2, as a pass runs them. -/
def resizeAndApply (state : State) (input : PassInput) : Proc World Bool :=
  .chain [
    reconcilePVCResize input.resize,
    return !input.serviceAccountsFail,
    reconcileStatefulSet state input.statefulSet]

/-- The requests that Phases 4 and 2 make about an aborted resize succeed. -/
structure Answered (input : PassInput) : Prop where
  list : input.resize.listFails = false
  storageClass : input.resize.storageClassFails = false
  status : input.resize.statusReply = .ok
  enter : input.resize.enterReply = .ok
  drive : input.resize.driveReply = .ok
  get : input.resize.getSTSFails = false
  serviceAccounts : input.serviceAccountsFail = false
  find : input.statefulSet.getFails = false
  apply : input.statefulSet.applyReply = .ok

/-- Nothing is asked for, the claims are right, or the next attempt waits. -/
def LeavesToPhase2 (input : PVCResizeInput) (w : World) : Prop :=
  w.v.spec.persistence = none ∨ detected input w = some .noChange ∨
    detected input w = some .resizeNeeded ∧ pvcResizeAbortedWaits w.v w.now = true

instance (input : PVCResizeInput) (w : World) : Decidable (LeavesToPhase2 input w) :=
  inferInstanceAs (Decidable (_ ∨ _ ∨ _ ∧ _))

/-- Phase 4 left the StatefulSet deleted; Phase 2 restores it if `leaves`. -/
structure Hands (leaves : Prop) (ok : Bool) (w : World) : Prop where
  missing : w.sts = none
  released : ok = true ∧ isPVCResizeGuardingPhase2 (currentPVCResizePhase w.v) = false ↔ leaves

/-- The StatefulSet is missing, and the record is in this phase. -/
structure Awaiting (phase : PVCResizePhase) (w : World) : Prop where
  missing : w.sts = none
  there : w.gone = false
  copied : w.v.status.pvcResize = w.cr.status.pvcResize
  phase : currentPVCResizePhase w.v = phase

section Awaiting

variable {w : World} {phase next : PVCResizePhase} {input : PVCResizeInput}

theorem Awaiting.note (awaiting : Awaiting phase w) (line : Entry) :
    Awaiting phase (w.note line) :=
  ⟨awaiting.missing, awaiting.there, awaiting.copied, awaiting.phase⟩

theorem Awaiting.patchStatus (awaiting : Awaiting phase w)
    (sets : (update w.v.status).pvcResize.map PVCResize.phase = some next) :
    Awaiting next (w.patchStatus update .status notes) := by
  refine ⟨awaiting.missing, awaiting.there, rfl, ?_⟩
  simp only [currentPVCResizePhase, World.patchStatus, Refresh.apply]
  rw [Status.patched_phase awaiting.copied sets, Option.getD_some]

theorem writePVCResizeStatus_awaiting (awaiting : Awaiting phase w) :
    (writePVCResizeStatus next .ok).wp (fun _ => True)
      (fun ok final => ok = true ∧ Awaiting next final) w := by
  refine writePVCResizeStatus_wp (fun same => ⟨rfl, ?_⟩) (fun _ _ => ⟨trivial, rfl, ?_⟩)
    fun refused _ _ => ?_
  · exact same.symm.trans awaiting.phase ▸ awaiting
  · exact awaiting.patchStatus (by rw [Status.enterResize, Option.map_some, nextResize_phase])
  · exact absurd ⟨awaiting.there, rfl⟩ refused

private theorem maybeEmitPVCStuckEvent_awaiting (reply : Reply) (awaiting : Awaiting phase w) :
    (maybeEmitPVCStuckEvent reply).wp (fun _ => True) (fun _ => Awaiting phase) w := by
  refine maybeEmitPVCStuckEvent_wp (fun _ _ => awaiting) fun resize held _ _ _ => ?_
  have stamped : Awaiting phase (w.patchStatus (Status.stampStuck w.now) .status []) := by
    refine awaiting.patchStatus ?_
    have same := awaiting.phase
    rw [currentPVCResizePhase, held] at same
    simpa [Status.stampStuck, held] using same
  exact ⟨trivial, trivial, stamped.note _⟩

/-- A resize that starts without a StatefulSet goes on to patch the claims. -/
theorem drivePVCResize_awaiting (get : input.getSTSFails = false) (drive : input.driveReply = .ok)
    (awaiting : Awaiting .validated w) :
    (drivePVCResize input .validated desired).wp (fun _ => True)
      (fun _ => Awaiting .stsOrphaned) w := by
  have noted := awaiting.note (.driving .validated)
  unfold drivePVCResize transitionFrom fromValidated log
  simp only [wp_bind, wp_read, wp_write, get, Bool.false_eq_true, if_false,
    noted.missing, true_and]
  rw [wp_pure, recordTransition, drive]
  exact wp_mono (writePVCResizeStatus_awaiting noted) (fun _ => id) fun _ _ => And.right

end Awaiting

section Restore

variable {w : World} {input : PassInput} {leaves : Prop}

theorem Awaiting.hands {phase : PVCResizePhase} {ok : Bool} (awaiting : Awaiting phase w)
    (released : ok = true ∧ isPVCResizeGuardingPhase2 phase = false ↔ leaves) :
    Hands leaves ok w :=
  ⟨awaiting.missing, by rwa [awaiting.phase]⟩

private theorem resizeClaims_hands (answered : Answered input) (awaiting : Awaiting .aborted w) :
    (resizeClaims input.resize desired).wp (fun _ => True)
      (Hands (pvcResizeAbortedWaits w.v w.now = true)) w := by
  unfold resizeClaims enterResize
  simp only [wp_bind, wp_read, wp_ite, wp_pure, awaiting.phase, true_and]
  refine ⟨fun waits => awaiting.hands (by simp [waits, isPVCResizeGuardingPhase2]), fun ended => ?_⟩
  refine ⟨by simp [isPVCResizeInFlight], fun _ => ?_⟩
  rw [answered.enter]
  refine wp_mono (writePVCResizeStatus_awaiting awaiting) (fun _ => id) ?_
  rintro _ middle ⟨rfl, entered⟩
  refine ⟨by simp, fun _ => ?_⟩
  -- The record is now in a phase that holds Phase 2 back, whatever comes next.
  have guarded : ∀ {phase ok final}, isPVCResizeGuardingPhase2 phase = true →
      Awaiting phase final → Hands (pvcResizeAbortedWaits w.v w.now = true) ok final :=
    fun guards held => held.hands (by simp [guards, ended])
  unfold recordEvent log
  simp only [wp_write, true_and]
  refine ⟨fun _ => ?_, fun _ => ?_⟩
  · exact wp_mono (maybeEmitPVCStuckEvent_awaiting _ (entered.note _)) (fun _ => id)
      fun _ _ => guarded rfl
  · exact wp_mono (drivePVCResize_awaiting answered.get answered.drive (entered.note _))
      (fun _ => id) fun _ _ => guarded rfl

private theorem reconcilePVCResize_hands (answered : Answered input)
    (awaiting : Awaiting .aborted w) : (reconcilePVCResize input.resize).wp (fun _ => True)
      (Hands (LeavesToPhase2 input.resize w)) w := by
  refine reconcilePVCResize_wp trivial (fun spec => ?_) fun desired spec => ?_
  · have leaves : LeavesToPhase2 input.resize w := .inl spec
    refine clearPVCResizeStatus_wp (fun absent => ?_) (fun resize held _ _ => ⟨trivial, ?_⟩)
      fun refused _ _ => absurd ⟨awaiting.there, answered.status⟩ refused
    · have absent : w.v.status.pvcResize = none := absent
      have unset := awaiting.phase
      simp [currentPVCResizePhase, absent] at unset
    · have held : w.v.status.pvcResize = some resize := held
      refine ⟨awaiting.missing, ?_⟩
      simp [leaves, currentPVCResizePhase, World.patchStatus, Refresh.apply, Status.patched,
        Status.wire, held, MergePatch.merge, MergePatch.mergeOption, isPVCResizeGuardingPhase2]
  · have noted := awaiting.note (.sizing (some desired) w.pvcs)
    have rejected : ∀ rejection : Event, ¬LeavesToPhase2 input.resize w →
        (rejectResize input.resize rejection).wp (fun _ => True)
          (Hands (LeavesToPhase2 input.resize w)) (w.note (.sizing (some desired) w.pvcs)) := by
      intro rejection stays
      unfold rejectResize writePVCResizeStatus recordEvent log
      simp only [wp_bind, wp_read, wp_ite, wp_pure, wp_write,
        noted.phase, true_and]
      exact ⟨fun _ => ⟨fun _ => (noted.note _).hands (by simp [stays]), by simp⟩, by simp⟩
    refine ⟨fun unseen => ?_, fun seen _ => ?_, fun _ unset => ?_,
      fun seen => rejected _ (by simp [LeavesToPhase2, spec, seen]),
      fun seen => rejected _ (by simp [LeavesToPhase2, spec, seen]), fun seen => ?_⟩
    · -- With every request answered the detector has an outcome.
      simp [detected, spec, storageClassUnreadable, answered.list, answered.storageClass] at unseen
    · have leaves : LeavesToPhase2 input.resize w := .inr (.inl seen)
      rw [awaiting.phase]
      unfold drivePVCResize log
      simp only [wp_bind, wp_write, true_and]
      refine wp_pure.mpr (wp_pure.mpr ?_)
      exact (noted.note _).hands (by simp [leaves, isPVCResizeGuardingPhase2])
    · exact absurd (awaiting.phase.symm.trans unset) (by simp)
    · have leaves : LeavesToPhase2 input.resize w ↔ pvcResizeAbortedWaits w.v w.now = true := by
        simp [LeavesToPhase2, spec, seen]
      rw [leaves]
      exact resizeClaims_hands answered noted

/-- Phase 2 restores a StatefulSet unless the record holds it back. -/
theorem reconcileStatefulSet_restores_iff (state : State) (answered : Answered input)
    (missing : w.sts = none) :
    (reconcileStatefulSet state input.statefulSet).wp (fun _ => True)
      (fun _ final => final.sts ≠ none ↔
        isPVCResizeGuardingPhase2 (currentPVCResizePhase w.v) = false) w := by
  unfold reconcileStatefulSet
  simp only [wp_bind, wp_read, wp_ite, wp_pure, missing, answered.find]
  refine ⟨fun guards => by simp [guards], fun free => ⟨by simp, fun _ => ?_⟩⟩
  unfold applySTS logHere
  simp only [wp_bind, wp_read, wp_ite, wp_pure, wp_write, missing,
    answered.apply]
  simp [World.applySTS, missing, free]

end Restore

/-- A deleted StatefulSet is restored exactly when Phase 4 leaves the aborted resize to Phase 2. -/
theorem resizeAndApply_restores_iff (state : State) {input : PassInput} {w : World}
    (answered : Answered input) (there : w.gone = false)
    (fetched : w.v.status.pvcResize = w.cr.status.pvcResize) (missing : w.sts = none)
    (aborted : currentPVCResizePhase w.v = .aborted) :
    ((resizeAndApply state input).run w).final.sts ≠ none ↔ LeavesToPhase2 input.resize w := by
  have hands := reconcilePVCResize_hands answered ⟨missing, there, fetched, aborted⟩
  have restores : (resizeAndApply state input).wp (fun _ => True)
      (fun _ final => final.sts ≠ none ↔ LeavesToPhase2 input.resize w) w := by
    refine wp_andThen (wp_mono hands (fun _ => id) ?_)
    rintro (_ | _) middle ⟨still, released⟩
    · simpa [still] using released
    · rw [if_pos rfl]
      refine wp_andThen (wp_pure.mpr ?_)
      simp only [answered.serviceAccounts, Bool.not_false, if_true]
      refine wp_andThen (wp_mono (reconcileStatefulSet_restores_iff state answered still)
        (fun _ => id) ?_)
      rintro (_ | _) final restored <;> simpa [Proc.chain, restored] using released
  exact restores.2

/-- With claims of the right size the StatefulSet comes back. -/
theorem resizeAndApply_restores :
    ((resizeAndApply .steady {}).run (abortedWorld (some 1))).final.sts ≠ none :=
  (resizeAndApply_restores_iff .steady ⟨rfl, rfl, rfl, rfl, rfl, rfl, rfl, rfl, rfl⟩ rfl rfl rfl
    rfl).mpr (.inr (.inl rfl))

/-- The patch of a claim is rejected. -/
def rejectedPass : PassInput :=
  { resize := { allowExpansion := some true, patchReply := fun _ => .rejected } }

/-- Once expansion is forbidden, a pass leaves the StatefulSet deleted. -/
theorem operator_leaves_deleted :
    Answered refusingPass ∧
      let w := operator.run [.call expandingPass, .call rejectedPass] resizingWorld
      (∃ line ∈ w.journal, line.kind = .orphaned) ∧ w.sts = none ∧
        currentPVCResizePhase w.cr = .aborted ∧
        (operator.run [.call refusingPass] w).sts = none :=
  ⟨⟨rfl, rfl, rfl, rfl, rfl, rfl, rfl, rfl, rfl⟩, by decide⟩

end Velkir
