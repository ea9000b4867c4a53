import Velkir.RoleLabels

/-!
# Handing the primary role over

The operator records the dispatch, strips the primary label and asks for a failover. It can die
between any two.
-/

namespace Velkir

open Crash Proc

/-- What a pod answers to the lag probe. -/
structure LagState where
  isMaster : Bool := false
  linkUp : Bool := true
  lagBytes : Int := 0
  /-- The master that a replica points at. -/
  masterHost : String := ""
  /-- The replica's position in the stream, when it reports one. -/
  slaveReplOffset : Option Int := none
  deriving DecidableEq

/-- The lag that a rollout allows. -/
def rolloutMaxLagBytes (spec : Spec) : Int :=
  if spec.maxLagBytes ≤ 0 then 10000 else spec.maxLagBytes

/-- The primary listed last, and the pods that could take over. -/
def classifyPrimaryRolloutPods (pods : List Pod) : Option Pod × List Pod :=
  ((pods.filter fun pod => pod.role = .primary).getLast?,
    pods.filter fun pod =>
      pod.role ≠ .primary ∧ !pod.terminating ∧ pod.podIP ≠ "" ∧ podReady pod)

/-- The lag of an eligible candidate. A pod that calls itself master has none. -/
def eligibleLag (maxLagBytes : Int) : Option LagState → Option Int
  | none => none
  | some state =>
      if state.isMaster then some 0
      else if !state.linkUp then none
      else if maxLagBytes < state.lagBytes then none
      else some state.lagBytes

/-- Keep the candidate with the lower lag, then the lower name. -/
def betterCandidate (best : Option (Pod × Int)) (next : Pod × Int) : Option (Pod × Int) :=
  match best with
  | none => some next
  | some held =>
      if next.2 < held.2 ∨ (next.2 = held.2 ∧ next.1.name < held.1.name) then some next
      else some held

/-- The eligible candidate that lags least. `checkLag` answers by pod address. -/
def pickPromotionCandidate (checkLag : String → Option LagState) (candidates : List Pod)
    (maxLagBytes : Int) : Option Pod :=
  let eligible := candidates.filterMap fun pod =>
    (eligibleLag maxLagBytes (checkLag pod.podIP)).map fun lag => (pod, lag)
  (eligible.foldl betterCandidate none).map Prod.fst

/-- Three poll intervals. -/
def maxRolloutSnapshotAge : Nat := 30 * second

/-- The snapshot is too old to act on. -/
def snapshotStale (observed : ObservedPrimary) (now : Nat) : Bool :=
  maxRolloutSnapshotAge < now - observed.lastPolledAt

/-- How the sentinels answer the failover command. -/
inductive FailoverReply
  | accepted
  | inProgress
  | failed
  deriving DecidableEq

/-- What the dispatch reads and how its requests are answered. -/
structure DispatchInput where
  obs : Obs := {}
  listFails : Bool := false
  checkLag : String → Option LagState := fun _ => none
  preflight : Drift := {}
  persistReply : Reply := .ok
  stripReply : Reply := .ok
  clearReply : Reply := .ok
  failover : FailoverReply := .accepted
  restoreReply : Reply := .ok

/-- Set the role label of a pod that the API server still has. -/
def relabelPod (name : String) (role : Role) (reply : Reply) (notes : World → List Entry) :
    Proc World Bool := do
  if reply ≠ .ok ∨ (← .read fun w => w.pods.role name) = none then return false
  .write fun w => w.patchPod name (fun pod => { pod with role }) (notes w)
  return true

/-- Take the label off the primary. -/
def stripPrimaryLabel (name : String) (latch : Latch) (reply : Reply) : Proc World Bool :=
  relabelPod name .unset reply fun w => [.stripped name latch w.cr.status.failoverDispatch]

/-- Put the primary label back, best effort. -/
def restorePrimaryLabel (name : String) (reply : Reply) : Proc World Unit := do
  if !(← relabelPod name .primary reply fun _ => [.rolledBack]) then log .rolledBack

/-- Ask for the failover; on failure undo the strip and hold off. -/
def issueFailover (name : String) (latch : Latch) (input : DispatchInput) : Proc World Unit := do
  if input.failover = .failed then
    restorePrimaryLabel name input.restoreReply
    clearFailoverDispatch input.clearReply
    .write fun w => w.setLatch
      (some { preStripAddr := latch.preStripAddr, deadline := w.now + nogoodslaveCooldownTTL })
  else
    log (.failoverIssued name latch)
    recordEvent .failoverInitiated

/-- Latch, strip and ask for the failover. -/
def stripAndFailOver (name : String) (latch : Latch) (input : DispatchInput) :
    Proc World Unit := do
  .write (World.setLatch (some latch))
  if ← stripPrimaryLabel name latch input.stripReply then issueFailover name latch input
  else
    .write (World.setLatch none)
    clearFailoverDispatch input.clearReply

/-- Record the dispatch before anything else is done. -/
def dispatchFailover (name : String) (latch : Latch) (input : DispatchInput) :
    Proc World Unit := do
  if ← persistFailoverDispatch latch.preStripAddr latch.preStripEpoch latch.deadline
      input.persistReply then stripAndFailOver name latch input

/-- Hand the primary role over if the derived state asks for it. -/
def runPrimaryRolloutDispatch (state : State) (input : DispatchInput) : Proc World Unit := do
  if state ≠ .rolloutPrimary then return
  match ← readSnapshot input.obs with
  | none => return
  | some observed =>
      if !observed.quorumOK then return
      if ← .read fun w => snapshotStale observed w.now then
        recordEvent .failoverSuppressed
        return
      if ← failoverLatchActive observed.addr observed.epoch then return
      if input.listFails then return
      let (primary, candidates) ← .read fun w => classifyPrimaryRolloutPods w.pods.items
      let maxLagBytes ← .read fun w => rolloutMaxLagBytes w.v.spec
      match primary with
      | none => return
      | some primary =>
          if pickPromotionCandidate input.checkLag candidates maxLagBytes = none then
            recordEvent .noSuitableReplica
            return
          meanwhile input.preflight
          let deadline ← .read fun w => w.now + failoverInFlightLatchTTL
          dispatchFailover primary.name
            { preStripAddr := observed.addr, deadline, preStripEpoch := observed.epoch } input

section Footprint

variable {touched : List Part} {kinds : List Kind}

theorem setLatch_within {latch : World → Option Latch} (touches : .latch ∈ touched) :
    Within (Frame touched kinds) (.write fun w => w.setLatch (latch w)) :=
  .write fun w => (w.setLatch_frame (latch w)).mono (by simpa using touches) (List.nil_subset _)

variable {name : String}

theorem relabelPod_within {role : Role} {reply : Reply} {notes : World → List Entry}
    (touches : .pods ∈ touched) (lines : ∀ w, ∀ line ∈ notes w, line.kind ∈ kinds) :
    Within (Frame touched kinds) (relabelPod name role reply notes) :=
  .bind (.read _) fun _ => .ite (.pure _) (.bind (.write fun w =>
    World.patchPod_frame touches (lines w) w) fun _ => .pure _)

variable {latch : Latch} {input : DispatchInput}

private theorem issueFailover_within :
    Within (Frame [.pods, .dispatch, .latch] [.failoverIssued, .rolledBack, .event])
      (issueFailover name latch input) := by
  refine .ite ?_ (.bind (log_within (by simp [Entry.kind])) fun _ => log_within (by decide))
  refine .bind (.bind (relabelPod_within (by decide) (by simp [Entry.kind])) fun _ =>
    .ite (log_within (by decide)) (.pure _)) fun _ => ?_
  exact .bind (clearFailoverDispatch_within (by decide)) fun _ => setLatch_within (by decide)

theorem stripAndFailOver_within :
    Within (Frame [.pods, .dispatch, .latch]
      [.stripped, .failoverIssued, .rolledBack, .event]) (stripAndFailOver name latch input) :=
  .bind (setLatch_within (by decide)) fun _ => .bind (relabelPod_within (by decide)
    (by simp [Entry.kind])) fun _ => .ite (issueFailover_within.mono fun _ _ frame => frame.mono)
      (.bind (setLatch_within (by decide)) fun _ => clearFailoverDispatch_within (by decide))

theorem dispatchFailover_within :
    Within (Frame [.pods, .dispatch, .latch]
      [.persisted, .stripped, .failoverIssued, .rolledBack, .event])
      (dispatchFailover name latch input) :=
  .bind (persistFailoverDispatch_within (by decide) (by decide)) fun _ =>
    .ite (stripAndFailOver_within.mono fun _ _ frame => frame.mono) (.pure _)

/-- The dispatch touches labels, latch and marker; others act meanwhile. -/
theorem runPrimaryRolloutDispatch_within (state : State) (input : DispatchInput) :
    Within (Frame [.pods, .pvcs, .stored, .dispatch, .latch]
      [.observed, .persisted, .stripped, .failoverIssued, .rolledBack, .event])
      (runPrimaryRolloutDispatch state input) := by
  refine .ite (.pure _) (.bind (readSnapshot_within (by decide)) fun snap => ?_)
  cases snap with
  | none => exact .pure _
  | some observed =>
      refine .ite (.pure _) (.bind (.read _) fun _ => .ite (.bind (log_within (by decide)) fun _ =>
        .pure _) (.bind (failoverLatchActive_within (by decide)) fun _ => .ite (.pure _)
          (.ite (.pure _) (.bind (.read _) fun classified => .bind (.read _) fun _ => ?_))))
      cases classified.1 with
      | none => exact .pure _
      | some primary =>
          exact .ite (.bind (log_within (by decide)) fun _ => .pure _)
            (.bind (meanwhile_within (by decide)) fun _ => .bind (.read _) fun _ =>
              dispatchFailover_within.mono fun _ _ frame => frame.mono)

end Footprint

end Velkir
