import Velkir.Orchestration
import Velkir.Procedure

/-!
# What a reconcile pass acts on

A `World` holds what is stored, the working copy of a pass and the memory of the process. Its
journal is newest first.
-/

namespace Velkir

open Crash

/-- The primary as the sentinel observer last published it. -/
structure ObservedPrimary where
  /-- The agreed `host:port`. -/
  addr : String
  /-- The configuration epoch, zero when unknown. -/
  epoch : Int := 0
  quorumOK : Bool := true
  lastPolledAt : Nat := 0
  deriving DecidableEq

/-- The observer's snapshot; absent until the observer has published one. -/
abbrev Snapshot := Option ObservedPrimary

/-- The observed address, empty without a snapshot. -/
def Snapshot.addr (snap : Snapshot) : String :=
  (snap.map ObservedPrimary.addr).getD ""

/-- The epoch, zero without a snapshot. -/
def Snapshot.epoch (snap : Snapshot) : Int :=
  (snap.map ObservedPrimary.epoch).getD 0

/-- A snapshot is present and reports agreement. -/
def Snapshot.quorumOK (snap : Snapshot) : Bool :=
  (snap.map ObservedPrimary.quorumOK).getD false

/-- The failover-in-flight latch. -/
structure Latch where
  /-- The observed address just before the strip. -/
  preStripAddr : String
  deadline : Nat
  /-- The epoch just before the strip; zero disables the fence. -/
  preStripEpoch : Int := 0
  deriving DecidableEq

/-- The observation names another primary under an accepted epoch. -/
def Latch.Superseded (latch : Latch) (addr : String) (epoch : Int) : Prop :=
  addr ≠ "" ∧ addr ≠ latch.preStripAddr ∧ (0 < latch.preStripEpoch → latch.preStripEpoch ≤ epoch)

instance (latch : Latch) (addr : String) (epoch : Int) :
    Decidable (latch.Superseded addr epoch) :=
  inferInstanceAs (Decidable (_ ∧ _ ∧ (_ → _)))

/-- Consecutive fresh polls that named one address. -/
structure PrimaryStability where
  addr : String
  firstPolled : Nat
  lastPolled : Nat
  /-- The length of the streak. -/
  freshCount : Nat
  deriving DecidableEq

/-- What the operator process remembers about the custom resource. -/
structure Memory where
  failoverLatch : Option Latch := none
  lastState : Option State := none
  /-- The settling damp of the primary label. -/
  primaryStability : Option PrimaryStability := none
  authPasswordHash : Option String := none
  /-- The pending revision as of the last pass. -/
  rolloutTrigger : Orchestration.RolloutTriggerState := {}
  /-- The last pass derived the hand-off state. -/
  replicasRolled : Bool := false
  /-- When the gate of each replica was first seen closed, by pod identity. -/
  staleReplicas : List (String × Nat) := []
  /-- Since when no pod is labelled primary. -/
  noPrimarySince : Option Nat := none
  /-- When the escape last deleted a replica. -/
  staleReplicaEscapeLastFired : Option Nat := none
  deriving DecidableEq

/-- The places that ask whether a failover is in flight. -/
inductive Site
  | authRotation
  | sentinelStatefulSet
  | orphanMaster
  | readinessEscape
  | sentinelOrchestration
  deriving DecidableEq

/-- The events the modelled phases record on the custom resource. -/
inductive Event
  | fsm (source : State) (trigger : Orchestration.Trigger) (next : Option State)
      (reason : Orchestration.Reason)
  | scaleRefused (desired current : Int) (primaryOrdinal : Option Int)
  | scaleDeferred (current desired : Int) (state : State)
  | scalePrecheckFailed
  | imageTransitionRejected
  | imageTransitionOverridden
  | imageTransitionWarning
  | podLabelReconciled (pod : String) (current want : Role)
  | noMasterAgreement (addr : String)
  | allValkeyPodsDown (pods : Nat)
  | replicationPrimaryLost (pods : Nat)
  | rolloutDeferred (quorum : Bool)
  | podRolledForConfig (pod target current : String)
  | noSuitableReplica
  | failoverSuppressed
  | failoverInitiated
  | rolloutStalled (pod : String) (deadline : Nat)
  | sentinelRollDeferred (failover : Bool)
  | replicationGateCheckFailed (pod error : String)
  | replicationGatePatched (pod : String) (status : ConditionStatus) (message : String)
  | staleReplicaRecreated (pod : String) (staleFor : Nat)
  | staleReplicaEscapeDeleted (pod : String) (dwell : Nat)
  | secretRotated (replicas : Nat)
  | secretRotationFailed (message : String)
  | secretRotationPartial (message : String)
  | pvcResizeInitiated
  | pvcResizeComplete (size : Nat)
  | pvcExpansionShrinkRejected
  | pvcExpansionNotSupported
  | pvcExpansionFailed (pvc : String)
  | pvcExpansionStuck (phase : PVCResizePhase)
  | pvcMissing
  deriving DecidableEq

/-- What a rollout step is decided on. -/
structure RolloutView where
  mode : Mode
  crName : String
  pods : List Pod
  sts : StatefulSet
  quorumOK : Bool
  deriving DecidableEq

/-- One line of the journal. -/
inductive Entry
  /-- The process lost its memory of the custom resource. -/
  | memoryLost
  /-- The observer's snapshot was read. -/
  | observed (addr : String) (epoch : Int)
  /-- A site asked whether a failover is in flight, with this marker stored at that time. -/
  | consulted (site : Site) (answer : Bool) (stored : Option FailoverDispatch) (time : Nat)
  /-- The durable marker was reconciled with the latch. -/
  | maintained
  /-- The durable marker of a dispatch was written. -/
  | persisted
  /-- The primary label was removed under this latch, with this marker stored at that time. -/
  | stripped (pod : String) (latch : Latch) (stored : Option FailoverDispatch)
  | failoverIssued (pod : String) (latch : Latch)
  /-- The failover command failed and the strip was undone. -/
  | rolledBack
  /-- The role labels are derived from this snapshot and these pods. -/
  | relabelling (snap : Snapshot) (pods : Pods) (time : Nat)
  | stamped (pod : String) (time : Nat)
  /-- A rollout step is decided on this view. -/
  | rolling (view : RolloutView) (time : Nat)
  | rolled (pod : String) (time : Nat)
  /-- Phase 8 deleted a replica that would not catch up. -/
  | culled (pod : String) (time : Nat)
  /-- The StatefulSet was deleted with its pods left running. -/
  | orphaned (sts : StatefulSet)
  /-- These claims were found to have the desired capacity. -/
  | grown (desired : Nat) (pvcs : List PVC)
  /-- Phase 4 starts with this size in the spec and these claims. -/
  | sizing (desired : Option Nat) (pvcs : List PVC)
  /-- The claims that are there have been patched to this size. -/
  | patched (desired : Nat) (pvcs : List PVC)
  | driving (phase : PVCResizePhase)
  | resized (phase : PVCResizePhase)
  /-- The StatefulSet is about to be applied from this spec, over this existing one. -/
  | applying (existing : Option StatefulSet) (spec : Spec) (pods : Pods)
  | created (sts : StatefulSet) (pods : Pods)
  /-- The retention finalizer was stamped. -/
  | finalized
  /-- The PVC-loss gate refused to recreate the storage. -/
  | refused
  /-- A new password is rolled out, from and to Secrets of these hashes. -/
  | rotating (observed current : String)
  /-- The readiness watchdog was evaluated on the working copy, next to the stored one. -/
  | evaluated (paused : Bool) (working stored : Option MasterAware) (time : Nat)
  | event (event : Event)
  deriving DecidableEq

/-- The kinds of journal lines. -/
inductive Kind
  | memoryLost
  | observed
  | consulted
  | maintained
  | persisted
  | stripped
  | failoverIssued
  | rolledBack
  | relabelling
  | stamped
  | rolling
  | rolled
  | culled
  | orphaned
  | grown
  | sizing
  | patched
  | driving
  | resized
  | applying
  | created
  | finalized
  | refused
  | rotating
  | evaluated
  | stalled
  | completed
  | event
  deriving DecidableEq

/-- Every kind but these. -/
def Kind.but (left : List Kind) : List Kind :=
  [.memoryLost, .observed, .consulted, .maintained, .persisted, .stripped, .failoverIssued,
    .rolledBack, .relabelling, .stamped, .rolling, .rolled, .culled, .orphaned, .grown, .sizing,
    .patched, .driving, .resized, .applying, .created, .finalized, .refused, .rotating, .evaluated,
    .stalled, .completed, .event].filter (· ∉ left)

@[simp]
theorem Kind.mem_but {kind : Kind} {left : List Kind} : kind ∈ Kind.but left ↔ kind ∉ left := by
  cases kind <;> simp [Kind.but]

/-- The kind of a line; stalls and completed resizes have their own. -/
def Entry.kind : Entry → Kind
  | .memoryLost => .memoryLost
  | .observed .. => .observed
  | .consulted .. => .consulted
  | .maintained => .maintained
  | .persisted => .persisted
  | .stripped .. => .stripped
  | .failoverIssued .. => .failoverIssued
  | .rolledBack => .rolledBack
  | .relabelling .. => .relabelling
  | .stamped .. => .stamped
  | .rolling .. => .rolling
  | .rolled .. => .rolled
  | .culled .. => .culled
  | .orphaned .. => .orphaned
  | .grown .. => .grown
  | .sizing .. => .sizing
  | .patched .. => .patched
  | .driving .. => .driving
  | .resized .. => .resized
  | .applying .. => .applying
  | .created .. => .created
  | .finalized => .finalized
  | .refused => .refused
  | .rotating .. => .rotating
  | .evaluated .. => .evaluated
  | .event (.rolloutStalled ..) => .stalled
  | .event (.pvcResizeComplete ..) => .completed
  | .event _ => .event

/-- Everything a pass can read or write. -/
structure World where
  now : Nat
  /-- The custom resource as stored. -/
  cr : CR
  /-- The API server no longer has the custom resource. -/
  gone : Bool := false
  /-- The pass's working copy of the custom resource. -/
  v : CR
  /-- The data StatefulSet as stored. -/
  sts : Option StatefulSet := none
  /-- The data pods as stored. -/
  pods : Pods := ⟨[], List.nodup_nil, List.nodup_nil⟩
  pvcs : List PVC := []
  mem : Memory := {}
  /-- The journal, newest line first. -/
  journal : List Entry := []
  deriving DecidableEq

/-- How the API server answers a request. A refused request changes nothing. -/
inductive Reply
  | ok
  | notFound
  | conflict
  | rejected
  | failed
  deriving DecidableEq

end Velkir
