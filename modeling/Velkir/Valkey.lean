import Velkir.Resource

/-!
# The Valkey custom resource

A status patch is a merge patch between two encodings of the status, whose timestamps carry whole
seconds only.
-/

namespace Velkir

open MergePatch

/-- The reconciler's rollout states. -/
inductive State
  | bootstrap
  | steady
  | rolloutPending
  | rolloutReplicas
  | rolloutPrimary
  | failoverInFlight
  | rolloutComplete
  | degraded
  | degradedQuorumLost
  deriving DecidableEq

/-- The deployment topology. -/
inductive Mode
  | standalone
  | replication
  | sentinel
  deriving DecidableEq

/-- What happens to the claims when the custom resource is deleted. -/
inductive RetentionPolicy
  | unset
  | retain
  | delete
  deriving DecidableEq

/-- An image repository and tag. -/
structure ContainerImage where
  repository : String
  tag : String
  deriving DecidableEq

/-- The reference `repository:tag`. -/
def ContainerImage.reference (image : ContainerImage) : String :=
  image.repository ++ ":" ++ image.tag

/-- The spec fields the modelled phases read. -/
structure Spec where
  /-- The topology, immutable after creation. -/
  mode : Mode
  /-- `spec.valkey.replicas`. -/
  replicas : Int := 0
  /-- `spec.image.valkey`. -/
  image : ContainerImage := ⟨"", ""⟩
  /-- `spec.featureGates.UpgradePreflight`, when the key is set. -/
  upgradePreflight : Option Bool := none
  /-- `spec.pvcRetentionPolicy`. -/
  pvcRetentionPolicy : RetentionPolicy := .unset
  /-- `spec.valkey.persistence.size` in bytes, when persistence is configured. -/
  persistence : Option Nat := none
  /-- `spec.auth.secretName`, empty without auth. -/
  authSecretName : String := ""
  /-- `spec.sentinel.masterName`. -/
  masterName : String := ""
  /-- `spec.valkey.readinessGate.enabled`. -/
  readinessGateEnabled : Option Bool := none
  /-- `spec.valkey.readinessGate.maxLagBytes`. -/
  readinessMaxLagBytes : Option Int := none
  /-- `spec.rollout.replicaReadyTimeoutSeconds`. -/
  replicaReadyTimeoutSeconds : Int := 0
  /-- `spec.rollout.maxLagBytes`. -/
  maxLagBytes : Int := 0
  deriving DecidableEq

/-- The resource runs sentinels under a master name. -/
def Spec.hasSentinel (spec : Spec) : Bool :=
  spec.mode = .sentinel ∧ spec.masterName ≠ ""

/-- The replica count a mode gets when none is set. -/
def Mode.defaultReplicas : Mode → Int
  | .standalone => 1
  | .replication => 2
  | .sentinel => 3

/-- Fill every field the operator defaults; set fields are kept. -/
def applySpecDefaults (spec : Spec) : Spec :=
  { spec with
    image := if spec.image = ⟨"", ""⟩ then ⟨"valkey/valkey", "8.1.6-alpine"⟩ else spec.image
    replicas := if spec.replicas = 0 then spec.mode.defaultReplicas else spec.replicas
    readinessGateEnabled := spec.readinessGateEnabled <|> some (decide (spec.mode ≠ .standalone))
    readinessMaxLagBytes := spec.readinessMaxLagBytes <|> some (2 ^ 20)
    replicaReadyTimeoutSeconds :=
      if spec.replicaReadyTimeoutSeconds = 0 then 300 else spec.replicaReadyTimeoutSeconds
    maxLagBytes := if spec.maxLagBytes = 0 then 10000 else spec.maxLagBytes }

@[simp]
theorem applySpecDefaults_mode (spec : Spec) : (applySpecDefaults spec).mode = spec.mode := rfl

/-- The durable marker of a failover. -/
structure FailoverDispatch where
  /-- The address the primary had when its label was stripped. -/
  preStripAddr : String := ""
  /-- When the record stops counting. -/
  deadline : Option Nat := none
  preStripEpoch : Int := 0
  deriving DecidableEq

/-- The pod whose replacement the rollout waits for. -/
structure MasterAware where
  /-- The deleted pod's name. -/
  waitingForPod : String := ""
  deadline : Option Nat := none
  deletedAt : Option Nat := none
  deriving DecidableEq

/-- The phases of a claim resize. -/
inductive PVCResizePhase
  | unset
  | detected
  | validated
  | stsOrphaned
  | pvcsPatched
  | stsRecreated
  | verified
  | aborted
  deriving DecidableEq

/-- The record of a claim resize. -/
structure PVCResize where
  phase : PVCResizePhase := .unset
  /-- How often the resize was entered. -/
  attempt : Int := 0
  /-- When the resize was first entered. -/
  startedAt : Option Nat := none
  lastTransitionAt : Option Nat := none
  /-- When the last stall was reported. -/
  lastStuckEventAt : Option Nat := none
  deriving DecidableEq

/-- The phases of a credential rotation. -/
inductive AuthRotationPhase
  | unset
  | idle
  | inProgress
  | succeeded
  | failed
  | partially
  deriving DecidableEq

/-- The record of a credential rotation. -/
structure AuthRotation where
  phase : AuthRotationPhase := .unset
  observedSecretHash : String := ""
  startedAt : Option Nat := none
  lastTransitionAt : Option Nat := none
  message : String := ""
  deriving DecidableEq

/-- The rollout part of the status. -/
structure Status where
  pvcResize : Option PVCResize := none
  /-- The replica-readiness watchdog. -/
  masterAware : Option MasterAware := none
  authRotation : Option AuthRotation := none
  /-- The state a degraded rollout was suspended from. -/
  suspendedFrom : Option State := none
  failoverDispatch : Option FailoverDispatch := none
  deriving DecidableEq

instance : MergePatch FailoverDispatch where
  blank := {}
  merge base target stored :=
    { preStripAddr := replace base.preStripAddr target.preStripAddr stored.preStripAddr
      deadline := replace base.deadline target.deadline stored.deadline
      preStripEpoch := replace base.preStripEpoch target.preStripEpoch stored.preStripEpoch }
  merge_self base stored := by simp
  merge_base base target := by simp

instance : MergePatch MasterAware where
  blank := {}
  merge base target stored :=
    { waitingForPod := replace base.waitingForPod target.waitingForPod stored.waitingForPod
      deadline := replace base.deadline target.deadline stored.deadline
      deletedAt := replace base.deletedAt target.deletedAt stored.deletedAt }
  merge_self base stored := by simp
  merge_base base target := by simp

instance : MergePatch PVCResize where
  blank := {}
  merge base target stored :=
    { phase := replace base.phase target.phase stored.phase
      attempt := replace base.attempt target.attempt stored.attempt
      startedAt := replace base.startedAt target.startedAt stored.startedAt
      lastTransitionAt :=
        replace base.lastTransitionAt target.lastTransitionAt stored.lastTransitionAt
      lastStuckEventAt :=
        replace base.lastStuckEventAt target.lastStuckEventAt stored.lastStuckEventAt }
  merge_self base stored := by simp
  merge_base base target := by simp

instance : MergePatch AuthRotation where
  blank := {}
  merge base target stored :=
    { phase := replace base.phase target.phase stored.phase
      observedSecretHash :=
        replace base.observedSecretHash target.observedSecretHash stored.observedSecretHash
      startedAt := replace base.startedAt target.startedAt stored.startedAt
      lastTransitionAt :=
        replace base.lastTransitionAt target.lastTransitionAt stored.lastTransitionAt
      message := replace base.message target.message stored.message }
  merge_self base stored := by simp
  merge_base base target := by simp

/-- The status with its timestamps as the API server stores them. -/
def Status.wire (status : Status) : Status where
  pvcResize := status.pvcResize.map fun resize =>
    { resize with
      startedAt := resize.startedAt.map Velkir.wire
      lastTransitionAt := resize.lastTransitionAt.map Velkir.wire
      lastStuckEventAt := resize.lastStuckEventAt.map Velkir.wire }
  masterAware := status.masterAware.map fun watchdog =>
    { watchdog with
      deadline := watchdog.deadline.map Velkir.wire
      deletedAt := watchdog.deletedAt.map Velkir.wire }
  authRotation := status.authRotation.map fun rotation =>
    { rotation with
      startedAt := rotation.startedAt.map Velkir.wire
      lastTransitionAt := rotation.lastTransitionAt.map Velkir.wire }
  suspendedFrom := status.suspendedFrom
  failoverDispatch := status.failoverDispatch.map fun dispatch =>
    { dispatch with deadline := dispatch.deadline.map Velkir.wire }

/-- The status after a merge patch. -/
def Status.patched (base target stored : Status) : Status where
  pvcResize := merge base.wire.pvcResize target.wire.pvcResize stored.pvcResize
  masterAware := merge base.wire.masterAware target.wire.masterAware stored.masterAware
  authRotation := merge base.wire.authRotation target.wire.authRotation stored.authRotation
  suspendedFrom := replace base.suspendedFrom target.suspendedFrom stored.suspendedFrom
  failoverDispatch :=
    merge base.wire.failoverDispatch target.wire.failoverDispatch stored.failoverDispatch

/-- The annotations the modelled phases read. -/
structure Annotations where
  /-- `velkir.ioxie.dev/paused`. -/
  paused : Option String := none
  /-- `velkir.ioxie.dev/accept-pvc-loss`. -/
  acceptPVCLoss : Option String := none
  forceRotate : Option String := none
  deriving DecidableEq

/-- A Valkey custom resource. -/
structure CR where
  /-- The name, which its StatefulSet shares. -/
  name : String
  uid : String := ""
  /-- A deletion timestamp is set. -/
  deleting : Bool := false
  /-- The PVC-retention finalizer is present. -/
  finalizer : Bool := false
  annotations : Annotations := {}
  spec : Spec
  status : Status := {}
  deriving DecidableEq

/-- What never changes about a custom resource: its name and its topology. -/
def CR.identity (cr : CR) : String × Mode :=
  (cr.name, cr.spec.mode)

/-- A container of a pod template. -/
structure Container where
  name : String
  image : String
  deriving DecidableEq

/-- The data StatefulSet. -/
structure StatefulSet where
  replicas : Option Int := none
  containers : List Container := []
  claimSizes : List Nat := []
  /-- `status.updateRevision`. -/
  updateRevision : String := ""
  /-- `status.currentRevision`. -/
  currentRevision : String := ""
  /-- `status.readyReplicas`. -/
  readyReplicas : Int := 0
  deriving DecidableEq

/-- A persistent volume claim. -/
structure PVC where
  name : String
  request : Nat := 0
  capacity : Nat := 0
  storageClassName : Option String := none
  terminating : Bool := false
  owners : List String := []
  deriving DecidableEq

end Velkir
