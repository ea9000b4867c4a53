import Velkir.StatefulSet

/-!
# The retention finalizer and the storage-loss gate

A finalizer that was there at the start of a pass is the sign of an earlier bootstrap, whose storage
is not recreated.
-/

namespace Velkir

open Crash Proc

/-- The working copy of a pass: the stored resource with defaults. -/
def CR.normalized (cr : CR) : CR :=
  { cr with spec := applySpecDefaults cr.spec }

/-- Phase 0b': stamp the finalizer, and take over the stored resource. -/
def ensurePVCRetentionFinalizer (deleting : Bool) (reply : Reply) : Proc World Bool := do
  if deleting ∨ (← .read fun w => w.v.finalizer) then return true
  if reply ≠ .ok ∨ (← .read World.gone) then return false
  .write fun w =>
    let cr := { w.cr with finalizer := true }
    { w with cr, v := cr.normalized, journal := .finalized :: w.journal }
  return true

/-- The policy, retaining by default. -/
def RetentionPolicy.effective : RetentionPolicy → RetentionPolicy
  | .unset => .retain
  | policy => policy

/-- How the API server answers the deletion phase. -/
structure DeletionInput where
  listFails : Bool := false
  patchReply : String → Reply := fun _ => .ok
  finalizerReply : Reply := .ok

/-- The owners a claim should have under a policy. -/
def retainedOwners (policy : RetentionPolicy) (uid : String) (owners : List String) :
    List String :=
  if policy.effective = .delete then if uid ∈ owners then owners else owners ++ [uid]
  else owners.filter (· ≠ uid)

/-- Bring a claim's owners in line with the policy. -/
def retainClaim (v : CR) (reply : Reply) (pvc : PVC) : Proc World Bool := do
  let owners := retainedOwners v.spec.pvcRetentionPolicy v.uid pvc.owners
  if owners = pvc.owners then return true
  if reply ≠ .ok then return false
  .write fun w => { w with
    pvcs := w.pvcs.map fun stored =>
      if stored.name = pvc.name then { stored with owners } else stored }
  return true

/-- Bring every claim in line. A failure on one claim does not stop the rest. -/
def retainClaims (v : CR) (input : DeletionInput) : List PVC → Proc World Bool
  | [] => return true
  | pvc :: pvcs => do
      let first ← retainClaim v (input.patchReply pvc.name) pvc
      let rest ← retainClaims v input pvcs
      return first && rest

/-- Phase 0c: carry out the retention policy, then let the resource go. -/
def reconcileDeletion (input : DeletionInput) : Proc World Bool := do
  if input.listFails then return false
  let w ← .read id
  if !(← retainClaims w.v input w.pvcs) then return false
  if !w.v.finalizer then return true
  if input.finalizerReply ≠ .ok then return false
  .write fun w => { w with cr.finalizer := false, gone := w.gone || w.cr.deleting }
  return true

/-- How the reads of the gate go. -/
structure PVCLossInput where
  getFails : Bool := false
  listFails : Bool := false
  deriving DecidableEq

/-- Phase 0d': refuse when the storage of a bootstrapped resource is gone. -/
def detectPVCLossAndGate (hadFinalizer : Bool) (input : PVCLossInput) : Proc World Bool := do
  let w ← .read id
  if !hadFinalizer ∨ w.v.spec.pvcRetentionPolicy.effective ≠ .retain then return true
  if input.getFails then return false
  if w.sts ≠ none then return true
  if input.listFails then return false
  if w.pvcs.any fun pvc => !pvc.terminating then return true
  if w.v.annotations.acceptPVCLoss = some "true" then return true
  log .refused
  return false

/-- The world with the finalizer. -/
def World.stamped (w : World) : World :=
  let cr := { w.cr with finalizer := true }
  { w with cr, v := cr.normalized, journal := .finalized :: w.journal }

/-- Phase 0b' has nothing to do, fails, or stamps the finalizer. -/
theorem ensurePVCRetentionFinalizer_wp {deleting : Bool} {reply : Reply} {w : World}
    {along : World → Prop} {post : Bool → World → Prop}
    (skip : deleting = true ∨ w.v.finalizer = true → post true w)
    (fail : deleting = false → w.v.finalizer = false → post false w)
    (stamp : deleting = false → w.v.finalizer = false → reply = .ok → w.gone = false →
      along w.stamped ∧ post true w.stamped) :
    (ensurePVCRetentionFinalizer deleting reply).wp along post w := by
  unfold ensurePVCRetentionFinalizer
  simp only [wp_bind, wp_read, wp_ite, wp_pure, wp_write, not_or,
    Bool.not_eq_true, ne_eq, Decidable.not_not]
  exact ⟨skip, fun due => ⟨fun _ => fail due.1 due.2, fun able =>
    stamp due.1 due.2 able.1 able.2⟩⟩

section Footprint

variable {touched : List Part} {kinds : List Kind}

theorem ensurePVCRetentionFinalizer_within (deleting : Bool) (reply : Reply) :
    Within (Frame [.stored] [.finalized]) (ensurePVCRetentionFinalizer deleting reply) := by
  refine .bind (.read _) fun _ => .ite (.pure _) (.bind (.read _) fun _ => .ite (.pure _)
    (.bind (.write fun w => ⟨fun part untouched => ?_, ⟨[.finalized], rfl, by decide⟩,
      Nat.le_refl _⟩) fun _ => .pure _))
  cases part with
  | stored => simp at untouched
  | identity => exact ⟨rfl, .inr rfl⟩
  | _ => simp [Part.Kept, Carried, CR.normalized]

theorem detectPVCLossAndGate_within (hadFinalizer : Bool) (input : PVCLossInput) :
    Within (Frame [] [.refused]) (detectPVCLossAndGate hadFinalizer input) :=
  .bind (.read _) fun _ => .ite (.pure _) (.ite (.pure _) (.ite (.pure _) (.ite (.pure _)
    (.ite (.pure _) (.ite (.pure _) (.bind (log_within (by decide)) fun _ => .pure _))))))

theorem retainClaims_within {v : CR} {input : DeletionInput} (claims : .pvcs ∈ touched)
    (pvcs : List PVC) : Within (Frame touched kinds) (retainClaims v input pvcs) := by
  induction pvcs with
  | nil => exact .pure _
  | cons pvc pvcs ih =>
      refine .bind (.ite (.pure _) (.ite (.pure _) (.bind (.write fun w =>
        ⟨fun part untouched => ?_, ⟨[], rfl, by simp⟩, Nat.le_refl _⟩) fun _ => .pure _)))
        fun _ => .bind ih fun _ => .pure _
      cases part with
      | pvcs => exact absurd claims untouched
      | _ => simp [Part.Kept, Carried]

theorem reconcileDeletion_within (input : DeletionInput) :
    Within (Frame [.pvcs, .stored] []) (reconcileDeletion input) := by
  refine .ite (.pure _) (.bind (.read _) fun _ => .bind (retainClaims_within (by decide) _)
    fun _ => .ite (.pure _) (.ite (.pure _) (.ite (.pure _) (.bind (.write fun w =>
      ⟨fun part untouched => ?_, ⟨[], rfl, by simp⟩, Nat.le_refl _⟩) fun _ => .pure _))))
  cases part with
  | stored => simp at untouched
  | _ => simp [Part.Kept, Carried, CR.identity]

end Footprint

end Velkir
