import Velkir.FailoverLatch
import Velkir.StatefulSet

/-!
# Deriving the rollout state

A pass derives its state from pods, revision, snapshot and latch. Without a labelled primary it is a
bootstrap.
-/

namespace Velkir

open Crash Proc

/-- What the derivation looks at. -/
structure ObservedFacts where
  isStandalone : Bool := false
  podCount : Nat := 0
  quorumOK : Bool := false
  failoverInFlight : Bool := false
  allPodsAtTargetRevision : Bool := false
  allReplicasAtTargetRevision : Bool := false
  primaryAtTargetRevision : Bool := false
  replicasReadyForHandoff : Bool := false
  deriving DecidableEq

/-- The priority table. -/
def deriveStateFromFacts (facts : ObservedFacts) : State :=
  if facts.podCount = 0 then .bootstrap
  else if facts.isStandalone then .steady
  else if !facts.quorumOK then .degraded
  else if facts.failoverInFlight then .failoverInFlight
  else if facts.allPodsAtTargetRevision then .steady
  else if facts.allReplicasAtTargetRevision ∧ !facts.primaryAtTargetRevision then
    if facts.replicasReadyForHandoff then .rolloutPrimary else .rolloutReplicas
  else .rolloutReplicas

/-- What the loop over the pods accumulates. -/
structure PodScan where
  primarySeen : Bool := false
  primaryAtTarget : Bool := false
  replicasAtTarget : Bool := true
  anyReplicaSeen : Bool := false
  replicaCount : Nat := 0
  replicasSettled : Bool := true
  deriving DecidableEq

/-- One round of the loop; the last labelled primary decides about the target. -/
def PodScan.visit (target : String) (scan : PodScan) (pod : Pod) : PodScan :=
  let atTarget : Bool := target ≠ "" ∧ pod.revision = target
  if pod.role = .primary then
    { scan with primarySeen := true, primaryAtTarget := atTarget }
  else
    { scan with
      anyReplicaSeen := true
      replicaCount := scan.replicaCount + 1
      replicasAtTarget := scan.replicasAtTarget && atTarget
      replicasSettled := scan.replicasSettled &&
        !(pod.terminating || !podReady pod || !podReplicationHealthy pod) }

/-- The loop over the pods. -/
def scanPods (target : String) (pods : List Pod) : PodScan :=
  pods.foldl (PodScan.visit target) {}

/-- The facts about listed pods, added to those from the observer. -/
def ObservedFacts.withPods (facts : ObservedFacts) (replicas : Int) (pods : List Pod)
    (scan : PodScan) : ObservedFacts :=
  let primaryAtTargetRevision := scan.primarySeen && scan.primaryAtTarget
  let allReplicasAtTargetRevision := !scan.anyReplicaSeen || scan.replicasAtTarget
  let expectedReplicas := max (replicas - 1) 0
  { facts with
    podCount := pods.length
    primaryAtTargetRevision
    allReplicasAtTargetRevision
    replicasReadyForHandoff := scan.replicasSettled ∧ scan.replicaCount = expectedReplicas
    allPodsAtTargetRevision := primaryAtTargetRevision && allReplicasAtTargetRevision }

/-- The state and facts once the observer and the latch have been read. -/
def deriveFromPods (facts : ObservedFacts) (replicas : Int) (pods : List Pod) :
    Option StatefulSet → State × ObservedFacts
  | none => (deriveStateFromFacts facts, facts)
  | some sts =>
      if pods.length = 0 then (deriveStateFromFacts facts, facts)
      else
        let scan := scanPods sts.updateRevision pods
        let facts := facts.withPods replicas pods scan
        if !scan.primarySeen ∧ scan.anyReplicaSeen then (.bootstrap, facts)
        else (deriveStateFromFacts facts, facts)

/-- The snapshot the derivation uses. Standalone resources have no observer. -/
def snapshotForMode (mode : Mode) (obs : Obs) : Proc World Snapshot :=
  if mode = .standalone then return none else readSnapshot obs

/-- Derive the rollout state from pods and observer. -/
def deriveState (pods : List Pod) (sts : Option StatefulSet) (obs : Obs) :
    Proc World (State × ObservedFacts) := do
  let v ← .read World.v
  let snap ← snapshotForMode v.spec.mode obs
  let failoverInFlight ← failoverLatchActive snap.addr snap.epoch
  return deriveFromPods
    { isStandalone := v.spec.mode = .standalone, quorumOK := snap.quorumOK, failoverInFlight }
    v.spec.replicas pods sts

theorem scanPods_append (target : String) (pods : List Pod) (pod : Pod) :
    scanPods target (pods ++ [pod]) = (scanPods target pods).visit target pod := by
  simp [scanPods]

theorem scanPods_primarySeen (target : String) (pods : List Pod) :
    (scanPods target pods).primarySeen = true ↔ ∃ pod ∈ pods, pod.role = .primary := by
  induction pods using List.reverseRecOn with
  | nil => simp [scanPods]
  | append_singleton pods last ih =>
      rw [scanPods_append]
      by_cases primary : last.role = .primary
      · simp [PodScan.visit, primary]
      · simp [PodScan.visit, primary, ih]

theorem scanPods_anyReplicaSeen (target : String) (pods : List Pod) :
    (scanPods target pods).anyReplicaSeen = true ↔ ∃ pod ∈ pods, pod.role ≠ .primary := by
  induction pods using List.reverseRecOn with
  | nil => simp [scanPods]
  | append_singleton pods last ih =>
      rw [scanPods_append]
      by_cases primary : last.role = .primary
      · simp [PodScan.visit, primary, ih]
      · simp [PodScan.visit, primary]

variable {pods : List Pod}

/-- Without a labelled primary, a nonempty pod list reads as a bootstrap. -/
theorem scanPods_unlabelled {target : String} (nonempty : pods ≠ []) :
    (scanPods target pods).primarySeen = false →
      (scanPods target pods).anyReplicaSeen = true := by
  intro unseen
  obtain ⟨pod, mem⟩ := List.exists_mem_of_ne_nil pods nonempty
  refine (scanPods_anyReplicaSeen target pods).mpr ⟨pod, mem, fun primary => ?_⟩
  have seen := (scanPods_primarySeen target pods).mpr ⟨pod, mem, primary⟩
  simp [unseen] at seen

variable {facts : ObservedFacts}

private theorem deriveStateFromFacts_latched (pods : facts.podCount ≠ 0)
    (mode : facts.isStandalone = false)
    (quorum : facts.quorumOK = true) (latched : facts.failoverInFlight = true) :
    deriveStateFromFacts facts = .failoverInFlight := by
  simp [deriveStateFromFacts, pods, mode, quorum, latched]

private theorem deriveStateFromFacts_inFlight
    (inFlight : deriveStateFromFacts facts = .failoverInFlight) :
    facts.failoverInFlight = true := by
  grind [deriveStateFromFacts]

/-- Only a latch that holds is reported as a failover in flight. -/
theorem deriveFromPods_inFlight {replicas : Int} {sts : Option StatefulSet}
    (inFlight : (deriveFromPods facts replicas pods sts).1 = .failoverInFlight) :
    facts.failoverInFlight = true := by
  cases sts with
  | none => exact deriveStateFromFacts_inFlight inFlight
  | some sts =>
      unfold deriveFromPods at inFlight
      dsimp only at inFlight
      split at inFlight
      · exact deriveStateFromFacts_inFlight inFlight
      · split at inFlight
        · cases inFlight
        · have latched := deriveStateFromFacts_inFlight inFlight
          exact latched

/-- Under latch and quorum, the state says so only with a labelled primary. -/
theorem deriveState_latched {w : World} (sts : StatefulSet) {obs : Obs}
    (mode : w.v.spec.mode ≠ .standalone) (nonempty : pods ≠ []) (quorum : obs.snap.quorumOK = true)
    (latched : (w.observe obs).latchActive obs.snap.addr obs.snap.epoch = true) :
    ((deriveState pods (some sts) obs).run w).value.1 =
      if ∃ pod ∈ pods, pod.role = .primary then .failoverInFlight else .bootstrap := by
  have listed : pods.length ≠ 0 := by simpa using nonempty
  simp only [deriveState, snapshotForMode, mode, readSnapshot, value_bind, value_read,
    final_read, ↓reduceIte, final_bind, final_write, value_pure,
    final_pure, failoverLatchActive_value, latched, deriveFromPods, listed]
  cases seen : (scanPods sts.updateRevision pods).primarySeen with
  | true =>
      have labelled := (scanPods_primarySeen _ _).mp seen
      simp only [labelled, ↓reduceIte, Bool.not_true, Bool.false_eq_true, false_and]
      exact deriveStateFromFacts_latched listed (by simp [ObservedFacts.withPods])
        quorum rfl
  | false =>
      have unlabelled : ¬∃ pod ∈ pods, pod.role = .primary := by
        rw [← scanPods_primarySeen sts.updateRevision, seen]
        exact Bool.false_ne_true
      simp [unlabelled, scanPods_unlabelled nonempty seen]

/-- Under a latch, Phase 2 defers scaling exactly if a pod is labelled primary. -/
theorem deriveState_failoverInFlight_iff (w : World) (pods : List Pod) (sts : StatefulSet)
    (obs : Obs) (mode : w.v.spec.mode ≠ .standalone) (nonempty : pods ≠ [])
    (quorum : obs.snap.quorumOK = true)
    (latched : (w.observe obs).latchActive obs.snap.addr obs.snap.epoch = true) :
    (((deriveState pods (some sts) obs).run w).value.1 = .failoverInFlight ∧
      ∀ (input : StatefulSetInput) (later : World) (existing : StatefulSet),
        later.sts = some existing →
          replicaCount ((reconcileStatefulSet
            ((deriveState pods (some sts) obs).run w).value.1 input).run later).final.sts =
          replicaCount later.sts) ↔
      ∃ pod ∈ pods, pod.role = .primary := by
  have derived := deriveState_latched sts mode nonempty quorum latched
  constructor
  · rintro ⟨inFlight, -⟩
    by_contra unlabelled
    simp [derived, unlabelled] at inFlight
  · intro labelled
    rw [derived, if_pos labelled]
    exact ⟨rfl, fun input later existing found => reconcileStatefulSet_deferred rfl input found⟩

/-- The spec asks for three replicas while the latch of a failover holds. -/
def latchedWorld : World :=
  let cr : CR := { name := "vk", spec := { mode := .sentinel, replicas := 3 } }
  { now := 0, cr, v := cr
    sts := some { replicas := some 2 }
    mem.failoverLatch := some { preStripAddr := "10.0.0.1:6379", deadline := 100 } }

/-- The observer still names the old primary. -/
def latchedObs : Obs :=
  { snap := some { addr := "10.0.0.1:6379" } }

/-- With a pod labelled primary the failover is seen. -/
theorem deriveState_failoverInFlight_labelled :
    ((deriveState [{ name := "vk-0", role := .primary }] (some {}) latchedObs).run
      latchedWorld).value.1 = .failoverInFlight :=
  ((deriveState_failoverInFlight_iff latchedWorld [{ name := "vk-0", role := .primary }] {}
    latchedObs (by decide) (by decide) (by decide) (by decide)).mpr (by decide)).1

/-- After the strip the pass reads as a bootstrap, and Phase 2 scales. -/
theorem deriveState_bootstrap_while_latched :
    ((deriveState [{ name := "vk-0" }, { name := "vk-1", role := .replica }] (some {})
        latchedObs).run latchedWorld).value.1 = .bootstrap ∧
      replicaCount ((reconcileStatefulSet .bootstrap {}).run latchedWorld).final.sts ≠
        replicaCount latchedWorld.sts := by
  decide

end Velkir
