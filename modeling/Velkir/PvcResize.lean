import Velkir.StatefulSet

/-!
# Growing the claims

To grow the claims Phase 4 deletes the StatefulSet without its pods and patches them. Phase 2 then
applies a new one.
-/

namespace Velkir

open Crash Proc

/-- What the detector makes of the sizes. -/
inductive ResizeOutcome
  | noChange
  | shrinkRejected
  | expansionNotSupported
  | resizeNeeded
  deriving DecidableEq

/-- The smallest request among the claims. -/
def smallestCurrentSize : List PVC → Nat
  | [] => 0
  | [pvc] => pvc.request
  | pvc :: pvcs => min pvc.request (smallestCurrentSize pvcs)

/-- Compare the desired size with the claims, by what the storage class allows. -/
def detect (desired : Nat) (pvcs : List PVC) (allowExpansion : Option Bool) : ResizeOutcome :=
  if desired = 0 ∨ pvcs = [] then .noChange
  else if desired = smallestCurrentSize pvcs then .noChange
  else if desired < smallestCurrentSize pvcs then .shrinkRejected
  else if allowExpansion ≠ some true then .expansionNotSupported
  else .resizeNeeded

/-- The resize has begun and not ended. -/
def isPVCResizeInFlight : PVCResizePhase → Bool
  | .validated | .stsOrphaned | .pvcsPatched | .stsRecreated | .verified => true
  | _ => false

def stallThreshold : Nat := 600 * second

/-- The wait after the given number of attempts. -/
def backoffForAttempt (attempt : Int) : Nat :=
  if attempt ≤ 1 then 60 * second
  else if attempt = 2 then 300 * second
  else if attempt = 3 then 900 * second
  else 3600 * second

/-- The resize stays too long in a phase. -/
def pvcResizeIsStalled (v : CR) (now : Nat) : Bool :=
  match v.status.pvcResize with
  | some { phase, lastTransitionAt := some since, .. } =>
      isPVCResizeInFlight phase ∧ stallThreshold ≤ now - since
  | _ => false

/-- The wait after an abort is not over. -/
def pvcResizeAbortedWaits (v : CR) (now : Nat) : Bool :=
  match v.status.pvcResize with
  | some { attempt, lastTransitionAt := some since, .. } =>
      now - since < backoffForAttempt attempt
  | _ => false

/-- How the API server answers Phase 4. -/
structure PVCResizeInput where
  listFails : Bool := false
  storageClassFails : Bool := false
  allowExpansion : Option Bool := none
  statusReply : Reply := .ok
  enterReply : Reply := .ok
  stuckReply : Reply := .ok
  getSTSFails : Bool := false
  deleteReply : Reply := .ok
  listAgainFails : Bool := false
  patchReply : String → Reply := fun _ => .ok
  driveReply : Reply := .ok

/-- The record of entering a phase, with the start and the attempt. -/
def nextResize (now : Nat) (phase : PVCResizePhase) : Option PVCResize → PVCResize
  | some { phase := before, attempt, startedAt := some started, .. } =>
      { phase, lastTransitionAt := some now, startedAt := some started
        attempt := if phase = .validated ∧ before ≠ phase then attempt + 1 else attempt }
  | _ => { phase, lastTransitionAt := some now, startedAt := some now, attempt := 1 }

/-- Patch the record from a copy; a conflict is left to the next pass. -/
def patchCopy (update : Status → Status) (phase : PVCResizePhase) (reply : Reply) :
    Proc World Bool := do
  let answer ← patchStatus update .status reply [.resized phase]
  return answer = .ok ∨ answer = .conflict

/-- Record that a phase is entered. -/
def writePVCResizeStatus (phase : PVCResizePhase) (reply : Reply) : Proc World Bool := do
  if (← .read fun w => currentPVCResizePhase w.v) = phase then return true
  let now ← .read World.now
  patchCopy (fun status =>
    { status with pvcResize := some (nextResize now phase status.pvcResize) }) phase reply

/-- Drop the resize record. -/
def clearPVCResizeStatus (reply : Reply) : Proc World Bool := do
  if (← .read fun w => w.v.status.pvcResize) = none then return true
  patchCopy (fun status => { status with pvcResize := none }) .unset reply

/-- The stall of the present phase has been reported. -/
def PVCResize.stuckReported (resize : PVCResize) : Bool :=
  match resize.lastStuckEventAt, resize.lastTransitionAt with
  | some reported, some since => since ≤ reported
  | some _, none => true
  | none, _ => false

/-- Report a stalled resize once per phase. -/
def maybeEmitPVCStuckEvent (reply : Reply) : Proc World Bool := do
  match ← .read fun w => w.v.status.pvcResize with
  | none => return true
  | some resize =>
      if resize.stuckReported then return true
      let now ← .read World.now
      let answer ← patchStatus (fun status => { status with
        pvcResize := status.pvcResize.map fun resize =>
          { resize with lastStuckEventAt := some now } }) .status reply []
      if answer = .ok then recordEvent (.pvcExpansionStuck resize.phase)
      return answer = .ok ∨ answer = .conflict

/-- An abort names the claim that refused to grow, if there is one. -/
inductive Transition
  | advance (next : PVCResizePhase)
  | requeue
  | abort (rejected : Option String)
  | complete
  deriving DecidableEq

/-- The event of an abort. -/
def abortEvent : Option String → Event
  | some pvc => .pvcExpansionFailed pvc
  | none => .pvcMissing

/-- Delete the StatefulSet and leave its pods running. -/
def fromValidated (input : PVCResizeInput) : Proc World Transition := do
  if input.getSTSFails then return .requeue
  match ← .read World.sts with
  | none => return .advance .stsOrphaned
  | some sts =>
      match input.deleteReply with
      | .ok =>
          .write fun w => { w with sts := none, journal := .orphaned sts :: w.journal }
          return .advance .stsOrphaned
      | .notFound => return .advance .stsOrphaned
      | _ => return .requeue

/-- Raise the requests that are too small, passing over claims that are gone. -/
def patchClaims (input : PVCResizeInput) (desired : Nat) : List PVC → Proc World Transition
  | [] => return .advance .pvcsPatched
  | pvc :: pvcs =>
      if desired ≤ pvc.request then patchClaims input desired pvcs
      else
        match input.patchReply pvc.name with
        | .ok => do
            .write fun w => { w with
              pvcs := w.pvcs.map fun stored =>
                if stored.name = pvc.name then { stored with request := desired } else stored }
            patchClaims input desired pvcs
        | .notFound => patchClaims input desired pvcs
        | .rejected => return .abort (some pvc.name)
        | _ => return .requeue

/-- The claims without those that were too small and turned out to be gone. -/
def remainingClaims (input : PVCResizeInput) (desired : Nat) (pvcs : List PVC) : List PVC :=
  pvcs.filter fun pvc => desired ≤ pvc.request ∨ input.patchReply pvc.name ≠ .notFound

/-- Patch the claims once the StatefulSet is gone. -/
def fromStsOrphaned (input : PVCResizeInput) (desired : Nat) : Proc World Transition := do
  if input.getSTSFails then return .requeue
  if (← .read World.sts) ≠ none then return .requeue
  if input.listAgainFails then return .requeue
  let transition ← patchClaims input desired (← .read World.pvcs)
  if transition = .advance .pvcsPatched then
    logHere fun w => .patched desired (remainingClaims input desired w.pvcs)
  return transition

/-- Wait until every claim reports its new capacity. -/
def fromPVCsPatched (input : PVCResizeInput) (desired : Nat) : Proc World Transition := do
  if input.listAgainFails then return .requeue
  let pvcs ← .read World.pvcs
  if pvcs = [] then return .abort none
  if pvcs.any fun pvc => pvc.capacity < desired then return .requeue
  log (.grown desired pvcs)
  return .advance .stsRecreated

/-- Wait until Phase 2 has applied a StatefulSet of the new size. -/
def fromStsRecreated (input : PVCResizeInput) (desired : Nat) : Proc World Transition := do
  if input.getSTSFails then return .requeue
  match ← .read World.sts with
  | none => return .requeue
  | some sts =>
      if sts.claimSizes.any fun size => size < desired then return .requeue
      return .advance .verified

/-- Wait until every pod is ready. -/
def fromVerified (input : PVCResizeInput) : Proc World Transition := do
  if input.getSTSFails then return .requeue
  match ← .read World.sts with
  | none => return .requeue
  | some sts =>
      if sts.readyReplicas < sts.replicas.getD 0 then return .requeue
      return .complete

/-- The transition out of a phase. -/
def transitionFrom (input : PVCResizeInput) (desired : Nat) :
    PVCResizePhase → Proc World Transition
  | .validated => fromValidated input
  | .stsOrphaned => fromStsOrphaned input desired
  | .pvcsPatched => fromPVCsPatched input desired
  | .stsRecreated => fromStsRecreated input desired
  | .verified => fromVerified input
  | _ => return .requeue

/-- Record a transition. -/
def recordTransition (input : PVCResizeInput) (desired : Nat) : Transition → Proc World Bool
  | .advance next => writePVCResizeStatus next input.driveReply
  | .requeue => return true
  | .abort rejected => do
      recordEvent (abortEvent rejected)
      let _ ← writePVCResizeStatus .aborted input.driveReply
      return false
  | .complete => do
      recordEvent (.pvcResizeComplete desired)
      clearPVCResizeStatus input.driveReply

/-- Take the transition out of a phase. -/
def drivePVCResize (input : PVCResizeInput) (current : PVCResizePhase) (desired : Nat) :
    Proc World Bool := do
  log (.driving current)
  recordTransition input desired (← transitionFrom input desired current)

/-- Refuse a resize that cannot be done. -/
def rejectResize (input : PVCResizeInput) (event : Event) : Proc World Bool := do
  if ← writePVCResizeStatus .aborted input.statusReply then recordEvent event
  return false

/-- Enter the resize unless it is in flight; the result is the phase to drive. -/
def enterResize (input : PVCResizeInput) (current : PVCResizePhase) :
    Proc World (Option PVCResizePhase) := do
  if isPVCResizeInFlight current then return some current
  if !(← writePVCResizeStatus .validated input.enterReply) then return none
  recordEvent .pvcResizeInitiated
  return some .validated

/-- Drive a resize that is needed. -/
def resizeClaims (input : PVCResizeInput) (desired : Nat) : Proc World Bool := do
  let current ← .read fun w => currentPVCResizePhase w.v
  if current = .aborted ∧ (← .read fun w => pvcResizeAbortedWaits w.v w.now) then return true
  match ← enterResize input current with
  | none => return false
  | some phase =>
      if ← .read fun w => pvcResizeIsStalled w.v w.now then
        maybeEmitPVCStuckEvent input.stuckReply
      else drivePVCResize input phase desired

/-- The storage class of the first claim cannot be read. -/
def storageClassUnreadable (input : PVCResizeInput) (pvcs : List PVC) : Bool :=
  (pvcs.head?.bind PVC.storageClassName).getD "" ≠ "" ∧ input.storageClassFails

/-- Whether the first claim's storage class, if named, allows expansion. -/
def expansionAllowed (input : PVCResizeInput) (pvcs : List PVC) : Option Bool :=
  if (pvcs.head?.bind PVC.storageClassName).getD "" = "" then none else input.allowExpansion

/-- Phase 4: grow the claims to the size in the spec. -/
def reconcilePVCResize (input : PVCResizeInput) : Proc World Bool := do
  logHere fun w => .sizing w.v.spec.persistence w.pvcs
  match ← .read fun w => w.v.spec.persistence with
  | none => clearPVCResizeStatus input.statusReply
  | some desired =>
      if input.listFails then return false
      let pvcs ← .read World.pvcs
      if storageClassUnreadable input pvcs then return false
      match detect desired pvcs (expansionAllowed input pvcs) with
      | .noChange =>
          let current ← .read fun w => currentPVCResizePhase w.v
          if current ≠ .unset then drivePVCResize input current desired
          else clearPVCResizeStatus input.statusReply
      | .shrinkRejected => rejectResize input .pvcExpansionShrinkRejected
      | .expansionNotSupported => rejectResize input .pvcExpansionNotSupported
      | .resizeNeeded => resizeClaims input desired

/-- The status after entering a phase. -/
def Status.enterResize (now : Nat) (phase : PVCResizePhase) (status : Status) : Status :=
  { status with pvcResize := some (nextResize now phase status.pvcResize) }

/-- The status after reporting a stall. -/
def Status.stampStuck (now : Nat) (status : Status) : Status :=
  { status with
    pvcResize := status.pvcResize.map fun resize => { resize with lastStuckEventAt := some now } }

variable {update : Status → Status}

section Writes

variable {w : World} {phase : PVCResizePhase} {reply : Reply} {along : World → Prop}
  {post : Bool → World → Prop}

/-- A patch takes effect or leaves everything; a conflict counts as success. -/
theorem patchCopy_wp (accepted : w.gone = false → reply = .ok →
      along (w.patchStatus update .status [.resized phase]) ∧
        post true (w.patchStatus update .status [.resized phase]))
    (refused : ¬(w.gone = false ∧ reply = .ok) → ∀ ok, (ok = true → reply = .conflict) →
      post ok w) :
    (patchCopy update phase reply).wp along post w := by
  unfold patchCopy patchStatus
  simp only [wp_bind, wp_read, wp_ite, wp_pure, wp_write]
  refine ⟨fun gone => refused (by simp [gone]) _ (by simp), fun there => ⟨fun ok => ?_,
    fun failed => refused (by simp [failed]) _ (by simp [failed])⟩⟩
  exact accepted (by simpa using there) ok

theorem writePVCResizeStatus_wp (same : currentPVCResizePhase w.v = phase → post true w)
    (accepted : w.gone = false → reply = .ok →
      along (w.patchStatus (Status.enterResize w.now phase) .status [.resized phase]) ∧
        post true (w.patchStatus (Status.enterResize w.now phase) .status [.resized phase]))
    (refused : ¬(w.gone = false ∧ reply = .ok) → ∀ ok, (ok = true → reply = .conflict) →
      post ok w) :
    (writePVCResizeStatus phase reply).wp along post w := by
  unfold writePVCResizeStatus
  simp only [wp_bind, wp_read, wp_ite, wp_pure]
  exact ⟨same, fun _ => patchCopy_wp accepted refused⟩

theorem clearPVCResizeStatus_wp (absent : w.v.status.pvcResize = none → post true w)
    (accepted : ∀ resize, w.v.status.pvcResize = some resize → w.gone = false → reply = .ok →
      along (w.patchStatus (fun status => { status with pvcResize := none }) .status
        [.resized .unset]) ∧
      post true (w.patchStatus (fun status => { status with pvcResize := none }) .status
        [.resized .unset]))
    (refused : ¬(w.gone = false ∧ reply = .ok) → ∀ ok, (ok = true → reply = .conflict) →
      post ok w) :
    (clearPVCResizeStatus reply).wp along post w := by
  unfold clearPVCResizeStatus
  simp only [wp_bind, wp_read, wp_ite, wp_pure]
  refine ⟨absent, fun present => ?_⟩
  obtain ⟨resize, held⟩ := Option.ne_none_iff_exists'.mp present
  exact patchCopy_wp (accepted resize held) refused

/-- A stall is reported if it was not before and the stamp is stored. -/
theorem maybeEmitPVCStuckEvent_wp
    (silent : (∀ resize, w.v.status.pvcResize = some resize → resize.stuckReported = false →
      ¬(w.gone = false ∧ reply = .ok)) → ∀ ok, post ok w)
    (reports : ∀ resize, w.v.status.pvcResize = some resize → resize.stuckReported = false →
      w.gone = false → reply = .ok →
        let stamped := w.patchStatus (Status.stampStuck w.now) .status []
        let noted := stamped.note (.event (.pvcExpansionStuck resize.phase))
        along stamped ∧ along noted ∧ post true noted) :
    (maybeEmitPVCStuckEvent reply).wp along post w := by
  unfold maybeEmitPVCStuckEvent patchStatus recordEvent log
  simp only [wp_bind, wp_read]
  cases held : w.v.status.pvcResize with
  | none => exact wp_pure.mpr (silent (by simp [held]) true)
  | some resize =>
      simp only [wp_bind, wp_read, wp_ite, wp_pure, wp_write]
      refine ⟨fun reported => silent ?_ _, fun unreported => ⟨fun gone => ⟨by simp, fun _ =>
        silent ?_ _⟩, fun there => ⟨fun ok => ?_, fun failed => ⟨fun ok => absurd ok failed,
          fun _ => silent ?_ _⟩⟩⟩⟩
      · simp [held, reported]
      · simp [gone]
      · obtain ⟨stamped, noted, final⟩ :=
          reports resize held (by simpa using unreported) (by simpa using there) ok
        exact ⟨stamped, fun _ => ⟨noted, final⟩, by simp⟩
      · simp [failed]

end Writes

section Outcomes

variable {w : World} {input : PVCResizeInput} {desired : Nat} {along : World → Prop}
  {post : Transition → World → Prop} (requeue : post .requeue w)

include requeue

theorem fromValidated_wp (advance : post (.advance .stsOrphaned) w)
    (orphaned : ∀ sts,
      let after := { w with sts := none, journal := .orphaned sts :: w.journal }
      along after ∧ post (.advance .stsOrphaned) after) :
    (fromValidated input).wp along post w := by
  unfold fromValidated
  simp only [wp_bind, wp_read, wp_ite, wp_pure]
  refine ⟨fun _ => requeue, fun _ => ?_⟩
  cases w.sts with
  | none => exact wp_pure.mpr advance
  | some sts =>
      cases input.deleteReply with
      | ok =>
          obtain ⟨deleted, final⟩ := orphaned sts
          exact wp_bind.mpr (wp_write.mpr ⟨deleted, wp_pure.mpr final⟩)
      | notFound => exact wp_pure.mpr advance
      | conflict | rejected | failed => exact wp_pure.mpr requeue

theorem fromPVCsPatched_wp (abort : post (.abort none) w)
    (grown : w.pvcs ≠ [] → (∀ pvc ∈ w.pvcs, desired ≤ pvc.capacity) →
      along (w.note (.grown desired w.pvcs)) ∧
        post (.advance .stsRecreated) (w.note (.grown desired w.pvcs))) :
    (fromPVCsPatched input desired).wp along post w := by
  unfold fromPVCsPatched log
  simp only [wp_bind, wp_read, wp_ite, wp_pure, wp_write]
  exact ⟨fun _ => requeue, fun _ => ⟨fun _ => abort, fun listed => ⟨fun _ => requeue,
    fun large => grown listed (by simpa using large)⟩⟩⟩

theorem fromStsRecreated_wp (advance : post (.advance .verified) w) :
    (fromStsRecreated input desired).wp along post w := by
  unfold fromStsRecreated
  simp only [wp_bind, wp_read, wp_ite, wp_pure]
  refine ⟨fun _ => requeue, fun _ => ?_⟩
  cases w.sts with
  | none => exact wp_pure.mpr requeue
  | some sts =>
      exact wp_ite.mpr ⟨fun _ => wp_pure.mpr requeue, fun _ => wp_pure.mpr advance⟩

theorem fromVerified_wp (complete : post .complete w) :
    (fromVerified input).wp along post w := by
  unfold fromVerified
  simp only [wp_bind, wp_read, wp_ite, wp_pure]
  refine ⟨fun _ => requeue, fun _ => ?_⟩
  cases w.sts with
  | none => exact wp_pure.mpr requeue
  | some sts =>
      exact wp_ite.mpr ⟨fun _ => wp_pure.mpr requeue, fun _ => wp_pure.mpr complete⟩

end Outcomes

/-- What Phase 4 detects, if it gets that far. -/
def detected (input : PVCResizeInput) (w : World) : Option ResizeOutcome :=
  match w.v.spec.persistence with
  | none => none
  | some desired =>
      if input.listFails ∨ storageClassUnreadable input w.pvcs then none
      else some (detect desired w.pvcs (expansionAllowed input w.pvcs))

/-- What has to be shown of each outcome of the detector. -/
structure OutcomeRules (along : World → Prop) (post : Bool → World → Prop)
    (input : PVCResizeInput) (desired : Nat) (w start : World) : Prop where
  blind : detected input w = none → post false start
  driven : detected input w = some .noChange → currentPVCResizePhase w.v ≠ .unset →
    (drivePVCResize input (currentPVCResizePhase w.v) desired).wp along post start
  idle : detected input w = some .noChange → currentPVCResizePhase w.v = .unset →
    (clearPVCResizeStatus input.statusReply).wp along post start
  shrunk : detected input w = some .shrinkRejected →
    (rejectResize input .pvcExpansionShrinkRejected).wp along post start
  unsupported : detected input w = some .expansionNotSupported →
    (rejectResize input .pvcExpansionNotSupported).wp along post start
  needed : detected input w = some .resizeNeeded →
    (resizeClaims input desired).wp along post start

variable {input : PVCResizeInput}

theorem reconcilePVCResize_wp {w : World} {along : World → Prop} {post : Bool → World → Prop}
    (noted : along (w.note (.sizing w.v.spec.persistence w.pvcs)))
    (absent : w.v.spec.persistence = none →
      (clearPVCResizeStatus input.statusReply).wp along post (w.note (.sizing none w.pvcs)))
    (asked : ∀ desired, w.v.spec.persistence = some desired →
      OutcomeRules along post input desired w (w.note (.sizing (some desired) w.pvcs))) :
    (reconcilePVCResize input).wp along post w := by
  unfold reconcilePVCResize logHere
  simp only [wp_bind, wp_write, wp_read]
  refine ⟨noted, ?_⟩
  rw [World.note_v]
  cases spec : w.v.spec.persistence with
  | none => exact absent spec
  | some desired =>
      have rules := asked desired spec
      simp only [wp_bind, wp_read, wp_ite, wp_pure, World.note_pvcs]
      refine ⟨fun fails => rules.blind (by simp [detected, spec, fails]), fun listed =>
        ⟨fun unreadable => rules.blind (by simp [detected, spec, unreadable]), fun readable => ?_⟩⟩
      have seen : detected input w =
          some (detect desired w.pvcs (expansionAllowed input w.pvcs)) := by
        simp [detected, spec, listed, readable]
      cases outcome : detect desired w.pvcs (expansionAllowed input w.pvcs) with
      | noChange =>
          rw [outcome] at seen
          simp only [wp_bind, wp_read, wp_ite, World.note_v]
          exact ⟨rules.driven seen, fun unset => rules.idle seen (not_not.mp unset)⟩
      | shrinkRejected => exact rules.shrunk (outcome ▸ seen)
      | expansionNotSupported => exact rules.unsupported (outcome ▸ seen)
      | resizeNeeded => exact rules.needed (outcome ▸ seen)

variable {phase : PVCResizePhase} {desired : Nat}

section Footprint

variable {touched : List Part} {kinds : List Kind}

variable {reply : Reply}

theorem patchCopy_within (resize : .resize ∈ touched) (line : .resized ∈ kinds)
    (dispatch : ∀ status, (update status).failoverDispatch = status.failoverDispatch)
    (watchdog : ∀ status, (update status).masterAware = status.masterAware) :
    Within (Frame touched kinds) (patchCopy update phase reply) :=
  .bind (patchStatus_within (fun _ => dispatch) (fun _ => watchdog)
    (fun untouched => absurd resize untouched) (by simpa [Entry.kind] using line)) fun _ => .pure _

theorem writePVCResizeStatus_within (resize : .resize ∈ touched) (line : .resized ∈ kinds) :
    Within (Frame touched kinds) (writePVCResizeStatus phase reply) :=
  .bind (.read _) fun _ => .ite (.pure _) (.bind (.read _) fun _ =>
    patchCopy_within resize line (fun _ => rfl) fun _ => rfl)

theorem clearPVCResizeStatus_within (resize : .resize ∈ touched) (line : .resized ∈ kinds) :
    Within (Frame touched kinds) (clearPVCResizeStatus reply) :=
  .bind (.read _) fun _ => .ite (.pure _)
    (patchCopy_within resize line (fun _ => rfl) fun _ => rfl)

private theorem maybeEmitPVCStuckEvent_within (resize : .resize ∈ touched)
    (event : .event ∈ kinds) : Within (Frame touched kinds) (maybeEmitPVCStuckEvent reply) := by
  refine .bind (.read _) fun recorded => ?_
  cases recorded with
  | none => exact .pure _
  | some resize' =>
      exact .ite (.pure _) (.bind (.read _) fun _ => .bind (patchStatus_within (fun _ _ => rfl)
        (fun _ _ => rfl) (fun untouched => absurd resize untouched) (by simp)) fun _ =>
          .ite (.bind (log_within event) fun _ => .pure _) (.pure _))

theorem patchClaims_within (claims : .pvcs ∈ touched) (pvcs : List PVC) :
    Within (Frame touched kinds) (patchClaims input desired pvcs) := by
  induction pvcs with
  | nil => exact .pure _
  | cons pvc pvcs ih =>
      refine .ite ih ?_
      split
      · refine .bind (.write fun w => ⟨fun part untouched => ?_, ⟨[], rfl, by simp⟩,
          Nat.le_refl _⟩) fun _ => ih
        cases part with
        | pvcs => exact absurd claims untouched
        | _ => simp [Part.Kept, Carried]
      · exact ih
      · exact .pure _
      · exact .pure _

end Footprint

section Keeps

variable {relation : World → World → Prop} [Std.Refl relation] [IsTrans World relation]
  (orphan : ∀ sts w, relation w { w with sts := none, journal := .orphaned sts :: w.journal })

include orphan in
/-- A transition deletes the StatefulSet or patches the claims. -/
theorem transitionFrom_keeps (claims : Tolerates [.pvcs] [.grown, .patched] relation)
    {input : PVCResizeInput} {desired : Nat} {phase : PVCResizePhase} :
    Within relation (transitionFrom input desired phase) := by
  cases phase with
  | validated =>
      refine .ite (.pure _) (.bind (.read _) fun found => ?_)
      cases found with
      | none => exact .pure _
      | some found =>
          cases reply : input.deleteReply with
          | ok => exact .bind (.write (orphan found)) fun _ => .pure _
          | _ => simpa only [reply] using .pure _
  | stsOrphaned =>
      refine .ite (.pure _) (.bind (.read _) fun _ => .ite (.pure _) (.ite (.pure _)
        (.bind (.read _) fun _ => .bind ?_ fun _ => .ite (.bind ?_ fun _ => .pure _) (.pure _))))
      · exact (patchClaims_within (by decide) _).mono claims
      · exact (logHere_within fun _ => by simp [Entry.kind]).mono claims
  | pvcsPatched =>
      exact .ite (.pure _) (.bind (.read _) fun _ => .ite (.pure _) (.ite (.pure _) (.bind
        ((log_within (by simp [Entry.kind])).mono claims) fun _ =>
          .pure _)))
  | stsRecreated =>
      refine .ite (.pure _) (.bind (.read _) fun found => ?_)
      cases found with
      | none => exact .pure _
      | some found => exact .ite (.pure _) (.pure _)
  | verified =>
      refine .ite (.pure _) (.bind (.read _) fun found => ?_)
      cases found with
      | none => exact .pure _
      | some found => exact .ite (.pure _) (.pure _)
  | _ => exact .pure _

variable (plain : Tolerates [.pvcs, .resize]
  [.grown, .sizing, .patched, .completed, .driving, .resized, .event] relation)

include plain

theorem recordTransition_keeps {transition : Transition} :
    Within relation (recordTransition input desired transition) := by
  have event : ∀ line : Entry, line.kind = .event ∨ line.kind = .completed →
      Within relation (log line) := fun line kind =>
    (log_within (by rcases kind with kind | kind <;> simp [kind])).mono fun _ _ frame =>
      plain _ _ frame
  have write : ∀ phase, Within relation (writePVCResizeStatus phase input.driveReply) :=
    fun _ => (writePVCResizeStatus_within (by decide) (by decide)).mono fun _ _ frame =>
      plain _ _ frame
  cases transition with
  | advance next => exact write next
  | requeue => exact .pure _
  | abort rejected =>
      refine .bind (event _ ?_) fun _ => .bind (write _) fun _ => .pure _
      cases rejected <;> exact .inl rfl
  | complete =>
      exact .bind (event _ (.inr rfl)) fun _ =>
        (clearPVCResizeStatus_within (by decide) (by decide)).mono plain

include orphan

private theorem drivePVCResize_keeps : Within relation (drivePVCResize input phase desired) :=
  .bind ((log_within (by simp [Entry.kind])).mono plain) fun _ =>
    .bind (transitionFrom_keeps orphan fun _ _ frame => plain _ _ frame.mono) fun _ =>
      recordTransition_keeps plain

/-- Phase 4 deletes the StatefulSet or touches claims and record. -/
theorem reconcilePVCResize_keeps (input : PVCResizeInput) :
    Within relation (reconcilePVCResize input) := by
  have event : ∀ line : Entry, line.kind = .event → Within relation (log line) :=
    fun line kind => (log_within (by simp [kind])).mono plain
  have write : ∀ phase reply, Within relation (writePVCResizeStatus phase reply) :=
    fun _ _ => (writePVCResizeStatus_within (by decide) (by decide)).mono fun _ _ frame =>
      plain _ _ frame
  have clear : Within relation (clearPVCResizeStatus input.statusReply) :=
    (clearPVCResizeStatus_within (by decide) (by decide)).mono plain
  have stuck : Within relation (maybeEmitPVCStuckEvent input.stuckReply) :=
    (maybeEmitPVCStuckEvent_within (by decide) (by decide)).mono plain
  have drive : ∀ phase desired, Within relation (drivePVCResize input phase desired) :=
    fun _ _ => drivePVCResize_keeps orphan plain
  have reject : ∀ rejection : Event, (Entry.event rejection).kind = .event →
      Within relation (rejectResize input rejection) := fun rejection kind =>
    .bind (write _ _) fun _ => .ite (.bind (event _ kind) fun _ => .pure _) (.pure _)
  refine .bind ((logHere_within fun _ => by simp [Entry.kind]).mono fun _ _ frame =>
    plain _ _ frame) fun _ => .bind (.read _) fun persistence => ?_
  cases persistence with
  | none => exact clear
  | some desired =>
      refine .ite (.pure _) (.bind (.read _) fun pvcs => .ite (.pure _) ?_)
      cases detect desired pvcs (expansionAllowed input pvcs) with
      | noChange => exact .bind (.read _) fun _ => .ite (drive _ _) clear
      | shrinkRejected => exact reject _ rfl
      | expansionNotSupported => exact reject _ rfl
      | resizeNeeded =>
          refine .bind (.read _) fun current => .bind (.read _) fun _ => .ite (.pure _) ?_
          refine .bind (.ite (.pure _) (.bind (write _ _) fun _ => .ite (.pure _)
            (.bind (event _ rfl) fun _ => .pure _))) fun phase => ?_
          cases phase with
          | none => exact .pure _
          | some phase => exact .bind (.read _) fun _ => .ite stuck (drive _ _)

end Keeps

theorem orphan_frame (sts : StatefulSet) (w : World) :
    Frame [.sts] [.orphaned] w { w with sts := none, journal := .orphaned sts :: w.journal } := by
  refine ⟨fun part untouched => ?_, ⟨[.orphaned sts], rfl, by simp [Entry.kind]⟩, Nat.le_refl _⟩
  cases part with
  | sts => simp at untouched
  | _ => simp [Part.Kept, Carried]

theorem reconcilePVCResize_within (input : PVCResizeInput) :
    Within (Frame [.sts, .pvcs, .resize]
      [.orphaned, .grown, .sizing, .patched, .completed, .driving, .resized, .event])
      (reconcilePVCResize input) :=
  reconcilePVCResize_keeps (fun sts w => (orphan_frame sts w).mono) (fun _ _ frame => frame.mono)
    input

end Velkir
