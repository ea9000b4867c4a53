import Velkir.Reconcile
import Velkir.Trails

/-!
# The spec that the phases read

A pass defaults the spec it fetches, but the replies to some patches replace it by the spec as it is
stored.
-/

namespace Velkir

open Crash Proc

/-- The derived state with its facts, and what it was derived from. -/
structure Reached where
  derived : State × ObservedFacts
  pods : List Pod
  sts : Option StatefulSet

def Reached.phases (input : PassInput) (reached : Reached) : Proc World Bool :=
  applyDesiredState input reached.derived reached.pods reached.sts

/-- The pass from its fetched copy up to the phases, if it gets there. -/
def reachFetched (input : PassInput) : Proc World (Option Reached) := do
  let v ← .read World.v
  if v.annotations.paused = some "true" then return none
  if !(← ensurePVCRetentionFinalizer v.deleting input.finalizerReply) then return none
  if input.lockContended then return none
  if v.deleting then return none
  if ← resolveAuth input.auth then
    if ← detectPVCLossAndGate v.finalizer input.pvcLoss then
      if input.listPodsFails ∨ input.getSTSFails then return none
      let pods ← .read fun w => w.pods.items
      let sts ← .read World.sts
      let derived ← observeRolloutState pods sts input.observe
      return some { derived, pods, sts }
    else return none
  else return none

def reachPhases (input : PassInput) : Proc World (Option Reached) := do
  if ← .read World.gone then return none
  else if input.fetchFails then return none
  else
    .write World.fetch
    reachFetched input

/-- A pass that reaches its phases goes on with them. -/
theorem reconcile_opens (input : PassInput) :
    (reachPhases input).Opens (Reached.phases input) (reconcile input) := by
  have observe : Opens (do
      if input.listPodsFails ∨ input.getSTSFails then return none
      let pods ← .read fun w => w.pods.items
      let sts ← .read World.sts
      let derived ← observeRolloutState pods sts input.observe
      return some { derived, pods, sts }) (Reached.phases input) (observeAndApply input) :=
    .ite .never (.after fun _ => .after fun _ => .after fun _ => .last)
  refine .after fun _ => .ite .never (.ite .never (.after fun _ => .after fun v => .extend ?_))
  refine .ite .never (.after fun _ => .ite .never (.ite .never (.ite .never (.extend ?_))))
  exact .after fun _ => .ite (.after fun _ => .ite observe.extend .never) .never

variable {input : PassInput} {w : World}

/-- One version is stored; the working copy holds one with defaults. -/
def Reads (versions : Set Spec) (w : World) : Prop :=
  w.cr.spec ∈ versions ∧ ∃ stored ∈ versions, w.v.spec = applySpecDefaults stored

section Defaulted

variable {versions : Set Spec} {touched : List Part} {kinds : List Kind}
  (defaulted : ∀ stored ∈ versions, applySpecDefaults stored = stored)

include defaulted

/-- What leaves the resource alone may default the working copy. -/
theorem Frame.reads {before after : World} (frame : Frame touched kinds before after)
    (untouched : .stored ∉ touched := by decide) : Keeps (Reads versions) before after := by
  rintro ⟨here, stored, mem, read⟩
  obtain ⟨same, copy⟩ := (frame.kept .stored untouched).2.2
  refine ⟨same ▸ here, ?_⟩
  rcases copy with kept | fresh
  · exact ⟨stored, mem, kept.trans read⟩
  · exact ⟨_, here, by rw [fresh, same, defaulted _ here]⟩

end Defaulted

section Resumed

variable {stored : Spec} {w : World}

end Resumed

end Velkir
