import Mathlib.Data.Finmap
import Velkir.Defaulting
import Velkir.Valkey

/-!
# The defaults of the spec

`ApplySpecDefaults` fills what was left out. Some values derive from others, so the stamps run in an
order.
-/

namespace Velkir

namespace Defaults

open Defaulting

instance : Inhabited ContainerImage := ⟨⟨"", ""⟩⟩

/-- A number, or a text such as a percentage or the name of a port. -/
inductive IntOrString
  | int (value : Int32)
  | string (value : String)
  deriving DecidableEq, Inhabited

/-- A probe by a request of this path. -/
structure HTTPGetAction where
  path : String
  port : IntOrString
  deriving DecidableEq, Inhabited

/-- A probe by a connection. -/
structure TCPSocketAction where
  port : IntOrString := default
  host : String := ""
  deriving DecidableEq, Inhabited

/-- A probe of a container, with one of the four handlers. -/
structure Probe where
  exec : Option (List String) := none
  httpGet : Option HTTPGetAction := none
  tcpSocket : Option TCPSocketAction := none
  grpc : Option Int32 := none
  initialDelaySeconds : Int32 := 0
  periodSeconds : Int32 := 0
  timeoutSeconds : Int32 := 0
  failureThreshold : Int32 := 0
  successThreshold : Int32 := 0
  terminationGracePeriodSeconds : Option Int64 := none
  deriving DecidableEq, Inhabited

/-- Quantities by the name of the resource. -/
abbrev ResourceList := Finmap fun _ : String => String

/-- What a container asks for, and what it may take. -/
structure ResourceRequirements where
  requests : Option ResourceList := none
  limits : Option ResourceList := none
  deriving DecidableEq

/-- The disruption budget of a pod set. -/
structure PDBSpec where
  minAvailable : Option IntOrString := none
  maxUnavailable : Option IntOrString := none
  deriving DecidableEq, Inhabited

/-- Pods to keep apart from. -/
structure PodAffinityTerm where
  topologyKey : String
  matchLabels : List (String × String)
  deriving DecidableEq

/-- Soft and hard terms. -/
structure PodAntiAffinity where
  /-- The soft terms, with their weights. -/
  preferred : List (Int32 × PodAffinityTerm) := []
  required : List PodAffinityTerm := []
  deriving DecidableEq, Inhabited

/-- The other kinds of affinity are never read here. -/
structure Affinity where
  podAntiAffinity : Option PodAntiAffinity := none
  deriving DecidableEq

/-- The images of the containers. -/
structure ImageSpec where
  valkey : ContainerImage := default
  sentinel : ContainerImage := default
  exporter : ContainerImage := default
  deriving DecidableEq

/-- The gate on replication. -/
structure ReadinessGateSpec where
  enabled : Option Bool := none
  maxLagBytes : Option Int64 := none
  deriving DecidableEq

/-- The spec of the data pods. -/
structure ValkeyPodSpec where
  replicas : Int32 := 0
  resources : ResourceRequirements := {}
  customLivenessProbe : Option Probe := none
  customReadinessProbe : Option Probe := none
  readinessGate : ReadinessGateSpec := {}
  affinity : Option Affinity := none
  pdb : Option PDBSpec := none
  minReplicasToWrite : Option Int32 := none
  minReplicasMaxLag : Option Int32 := none
  deriving DecidableEq

/-- The spec of the sentinels. -/
structure SentinelPodSpec where
  masterName : String := ""
  replicas : Int32 := 0
  quorum : Int32 := 0
  downAfterMilliseconds : Int32 := 0
  failoverTimeout : Int32 := 0
  parallelSyncs : Int32 := 0
  pdb : Option PDBSpec := none
  resources : ResourceRequirements := {}
  customLivenessProbe : Option Probe := none
  customReadinessProbe : Option Probe := none
  affinity : Option Affinity := none
  deriving DecidableEq

/-- Whether and how often to scrape. -/
structure PodMonitorSpec where
  enabled : Option Bool := none
  scrapeInterval : String := ""
  deriving DecidableEq

/-- The spec of the exporter. -/
structure MetricsSpec where
  enabled : Option Bool := none
  podMonitor : PodMonitorSpec := {}
  deriving DecidableEq

/-- The tuning of a rollout. -/
structure RolloutSpec where
  maxUnavailable : Int32 := 0
  failoverGracePeriodSeconds : Int32 := 0
  replicaReadyTimeoutSeconds : Int32 := 0
  maxLagBytes : Int64 := 0
  deriving DecidableEq

/-- The spec of the resource. -/
structure ValkeySpec where
  mode : Mode
  image : ImageSpec := {}
  valkey : ValkeyPodSpec := {}
  sentinel : Option SentinelPodSpec := none
  metrics : MetricsSpec := {}
  rollout : RolloutSpec := {}
  deriving DecidableEq

def defaultValkeyImage : ContainerImage := ⟨"valkey/valkey", "8.1.6-alpine"⟩

def defaultExporterImage : ContainerImage := ⟨"oliver006/redis_exporter", "v1.62.0"⟩

/-- The pair is stamped as a whole, a half set image is left to validation. -/
def stampImageDefaults (spec : ValkeySpec) : ValkeySpec :=
  { spec with
    image.valkey := fill defaultValkeyImage spec.image.valkey
    image.sentinel := fill defaultValkeyImage spec.image.sentinel
    image.exporter := fill defaultExporterImage spec.image.exporter }

/-- The replicas that a mode asks for. -/
def replicasForMode : Mode → Int32
  | .replication => 2
  | .sentinel => 3
  | .standalone => 1

/-- Default the replicas. -/
def stampReplicasForMode (spec : ValkeySpec) : ValkeySpec :=
  { spec with valkey.replicas := fill (replicasForMode spec.mode) spec.valkey.replicas }

def valkeyPing : List String := ["valkey-cli", "-h", "127.0.0.1", "-p", "6379", "ping"]

/-- The liveness probe of the data pods. -/
def valkeyLivenessProbe : Probe where
  exec := some valkeyPing
  initialDelaySeconds := 30
  periodSeconds := 10
  timeoutSeconds := 3
  failureThreshold := 6
  successThreshold := 1

/-- The readiness probe of the data pods. -/
def valkeyReadinessProbe : Probe where
  exec := some valkeyPing
  initialDelaySeconds := 5
  periodSeconds := 10
  timeoutSeconds := 3
  failureThreshold := 3
  successThreshold := 1

/-- Default the probes of the data pods. -/
def stampValkeyProbes (spec : ValkeySpec) : ValkeySpec :=
  { spec with
    valkey.customLivenessProbe := fill (some valkeyLivenessProbe) spec.valkey.customLivenessProbe
    valkey.customReadinessProbe :=
      fill (some valkeyReadinessProbe) spec.valkey.customReadinessProbe }

/-- A list of the two resources that the defaults name. -/
def quantities (cpu memory : String) : ResourceList :=
  [⟨"cpu", cpu⟩, ⟨"memory", memory⟩].toFinmap

def valkeyRequests : ResourceList := quantities "100m" "256Mi"

def valkeyLimits : ResourceList := quantities "500m" "512Mi"

/-- Default the resources of the data pods. -/
def stampValkeyResources (spec : ValkeySpec) : ValkeySpec :=
  { spec with
    valkey.resources.requests := fill (some valkeyRequests) spec.valkey.resources.requests
    valkey.resources.limits := fill (some valkeyLimits) spec.valkey.resources.limits }

/-- A standalone instance has nothing to lag behind. -/
def stampReadinessGate (spec : ValkeySpec) : ValkeySpec :=
  { spec with
    valkey.readinessGate.enabled :=
      fill (some (decide (spec.mode ≠ .standalone))) spec.valkey.readinessGate.enabled
    valkey.readinessGate.maxLagBytes :=
      fill (some 1048576) spec.valkey.readinessGate.maxLagBytes }

/-- A floor, unless standalone. -/
def writeFloor (mode : Mode) (floor : Int32) : Option Int32 :=
  if mode = .standalone then none else some floor

/-- Default the write floors. -/
def stampMinReplicas (spec : ValkeySpec) : ValkeySpec :=
  { spec with
    valkey.minReplicasToWrite := fill (writeFloor spec.mode 1) spec.valkey.minReplicasToWrite
    valkey.minReplicasMaxLag := fill (writeFloor spec.mode 10) spec.valkey.minReplicasMaxLag }

/-- Default the metrics. -/
def stampMetricsDefaults (spec : ValkeySpec) : ValkeySpec :=
  { spec with
    metrics.enabled := fill (some false) spec.metrics.enabled
    metrics.podMonitor.enabled := fill (some false) spec.metrics.podMonitor.enabled
    metrics.podMonitor.scrapeInterval := fill "30s" spec.metrics.podMonitor.scrapeInterval }

/-- A majority of the sentinels, as `(r + 2) / 2`. -/
def majority (replicas : Int32) : Int32 := (replicas + 2) / 2

def sentinelBaseline : ResourceList := quantities "100m" "128Mi"

/-- Each missing half is copied from the other. -/
def stampGuaranteed (resources : ResourceRequirements) : ResourceRequirements :=
  match resources.requests, resources.limits with
  | none, none => { requests := some sentinelBaseline, limits := some sentinelBaseline }
  | some requests, none => { requests := some requests, limits := some requests }
  | none, some limits => { requests := some limits, limits := some limits }
  | some _, some _ => resources

/-- Default the numbers of the sentinels. -/
def stampSentinelFields (sentinel : SentinelPodSpec) : SentinelPodSpec :=
  let replicas := fill 3 sentinel.replicas
  { sentinel with
    replicas
    downAfterMilliseconds := fill 3000 sentinel.downAfterMilliseconds
    failoverTimeout := fill 180000 sentinel.failoverTimeout
    parallelSyncs := fill 1 sentinel.parallelSyncs
    quorum := fill (majority replicas) sentinel.quorum
    resources := stampGuaranteed sentinel.resources }

/-- Default the sentinels, if asked for. -/
def stampSentinelDefaults (spec : ValkeySpec) : ValkeySpec :=
  { spec with sentinel := spec.sentinel.map stampSentinelFields }

/-- The liveness probe of the sentinels. -/
def sentinelLivenessProbe : Probe where
  tcpSocket := some { port := .int 26379 }
  initialDelaySeconds := 30
  periodSeconds := 10
  timeoutSeconds := 3
  failureThreshold := 6
  successThreshold := 1

/-- The readiness probe of the sentinels. -/
def sentinelReadinessProbe : Probe where
  tcpSocket := some { port := .int 26379 }
  initialDelaySeconds := 5
  periodSeconds := 5
  timeoutSeconds := 3
  failureThreshold := 3
  successThreshold := 1

/-- Default the probes of the sentinels. -/
def stampSentinelProbes (spec : ValkeySpec) : ValkeySpec :=
  { spec with
    sentinel := spec.sentinel.map fun sentinel =>
      { sentinel with
        customLivenessProbe := fill (some sentinelLivenessProbe) sentinel.customLivenessProbe
        customReadinessProbe := fill (some sentinelReadinessProbe) sentinel.customReadinessProbe } }

/-- The grace period stays zero, which has a meaning of its own. -/
def stampRolloutDefaults (spec : ValkeySpec) : ValkeySpec :=
  { spec with
    rollout.maxUnavailable := fill 1 spec.rollout.maxUnavailable
    rollout.replicaReadyTimeoutSeconds := fill 300 spec.rollout.replicaReadyTimeoutSeconds
    rollout.maxLagBytes := fill 10000 spec.rollout.maxLagBytes }

/-- The budget of a pod set: all but one, of two or more. -/
def derivedPDB (replicas : Int32) : Option PDBSpec :=
  if 2 ≤ replicas then some { minAvailable := some (.int (max 1 (replicas - 1))) } else none

/-- Default the disruption budgets. -/
def stampPDB (spec : ValkeySpec) : ValkeySpec :=
  { spec with
    valkey.pdb := fill (derivedPDB spec.valkey.replicas) spec.valkey.pdb
    sentinel := spec.sentinel.map fun sentinel =>
      { sentinel with pdb := fill (derivedPDB sentinel.replicas) sentinel.pdb } }

/-- The component a pod belongs to, as its label has it. -/
inductive Component
  | valkey
  | sentinel
  deriving DecidableEq

/-- The label of a component. -/
def Component.label : Component → String
  | .valkey => "valkey"
  | .sentinel => "sentinel"

/-- Prefer other hosts for each pod. -/
def softPodAntiAffinity (component : Component) (crName : String) : PodAntiAffinity where
  preferred := [(100,
    { topologyKey := "kubernetes.io/hostname"
      matchLabels :=
        [("velkir.ioxie.dev/cr", crName), ("velkir.ioxie.dev/component", component.label)] })]

/-- Spread the pods unless told otherwise. -/
def ensureSoftPodAntiAffinity (component : Component) (crName : String)
    (affinity : Option Affinity) : Option Affinity :=
  some ⟨fill (some (softPodAntiAffinity component crName)) (affinity.getD {}).podAntiAffinity⟩

/-- The affinity of a pod set of so many replicas. -/
def spread (component : Component) (crName : String) (replicas : Int32)
    (affinity : Option Affinity) : Option Affinity :=
  if 2 ≤ replicas then ensureSoftPodAntiAffinity component crName affinity else affinity

/-- Default the affinities. -/
def stampAntiAffinity (crName : String) (spec : ValkeySpec) : ValkeySpec :=
  { spec with
    valkey.affinity := spread .valkey crName spec.valkey.replicas spec.valkey.affinity
    sentinel := spec.sentinel.map fun sentinel =>
      { sentinel with
        affinity := spread .sentinel crName sentinel.replicas sentinel.affinity } }

/-- Fill every field the operator defaults, in the order of the source. -/
def applySpecDefaults (crName : String) (spec : ValkeySpec) : ValkeySpec :=
  stampAntiAffinity crName <| stampPDB <| stampRolloutDefaults <| stampSentinelProbes <|
    stampSentinelDefaults <| stampMetricsDefaults <| stampMinReplicas <| stampReadinessGate <|
    stampValkeyResources <| stampValkeyProbes <| stampReplicasForMode <| stampImageDefaults spec

/-- The replicas of the valkey pods, as the later stamps find them. -/
def valkeyReplicas (spec : ValkeySpec) : Int32 :=
  fill (replicasForMode spec.mode) spec.valkey.replicas

/-- The replicas with their default. -/
def sentinelReplicas (sentinel : SentinelPodSpec) : Int32 := fill 3 sentinel.replicas

/-- The data pods with all defaults. -/
def defaultedValkey (crName : String) (spec : ValkeySpec) : ValkeyPodSpec where
  replicas := valkeyReplicas spec
  resources :=
    { requests := fill (some valkeyRequests) spec.valkey.resources.requests
      limits := fill (some valkeyLimits) spec.valkey.resources.limits }
  customLivenessProbe := fill (some valkeyLivenessProbe) spec.valkey.customLivenessProbe
  customReadinessProbe := fill (some valkeyReadinessProbe) spec.valkey.customReadinessProbe
  readinessGate :=
    { enabled := fill (some (decide (spec.mode ≠ .standalone))) spec.valkey.readinessGate.enabled
      maxLagBytes := fill (some 1048576) spec.valkey.readinessGate.maxLagBytes }
  affinity := spread .valkey crName (valkeyReplicas spec) spec.valkey.affinity
  pdb := fill (derivedPDB (valkeyReplicas spec)) spec.valkey.pdb
  minReplicasToWrite := fill (writeFloor spec.mode 1) spec.valkey.minReplicasToWrite
  minReplicasMaxLag := fill (writeFloor spec.mode 10) spec.valkey.minReplicasMaxLag

/-- The sentinels with all defaults. -/
def defaultedSentinel (crName : String) (sentinel : SentinelPodSpec) : SentinelPodSpec where
  masterName := sentinel.masterName
  replicas := sentinelReplicas sentinel
  quorum := fill (majority (sentinelReplicas sentinel)) sentinel.quorum
  downAfterMilliseconds := fill 3000 sentinel.downAfterMilliseconds
  failoverTimeout := fill 180000 sentinel.failoverTimeout
  parallelSyncs := fill 1 sentinel.parallelSyncs
  pdb := fill (derivedPDB (sentinelReplicas sentinel)) sentinel.pdb
  resources := stampGuaranteed sentinel.resources
  customLivenessProbe := fill (some sentinelLivenessProbe) sentinel.customLivenessProbe
  customReadinessProbe := fill (some sentinelReadinessProbe) sentinel.customReadinessProbe
  affinity := spread .sentinel crName (sentinelReplicas sentinel) sentinel.affinity

/-- The images with all defaults. -/
def defaultedImage (image : ImageSpec) : ImageSpec where
  valkey := fill defaultValkeyImage image.valkey
  sentinel := fill defaultValkeyImage image.sentinel
  exporter := fill defaultExporterImage image.exporter

/-- The metrics with all defaults. -/
def defaultedMetrics (metrics : MetricsSpec) : MetricsSpec where
  enabled := fill (some false) metrics.enabled
  podMonitor :=
    { enabled := fill (some false) metrics.podMonitor.enabled
      scrapeInterval := fill "30s" metrics.podMonitor.scrapeInterval }

/-- The rollout with all defaults. -/
def defaultedRollout (rollout : RolloutSpec) : RolloutSpec where
  maxUnavailable := fill 1 rollout.maxUnavailable
  failoverGracePeriodSeconds := rollout.failoverGracePeriodSeconds
  replicaReadyTimeoutSeconds := fill 300 rollout.replicaReadyTimeoutSeconds
  maxLagBytes := fill 10000 rollout.maxLagBytes

/-- Each section depends on itself, and the valkey pods on the mode, too. -/
theorem applySpecDefaults_eq (crName : String) (spec : ValkeySpec) :
    applySpecDefaults crName spec =
      { mode := spec.mode
        image := defaultedImage spec.image
        valkey := defaultedValkey crName spec
        sentinel := spec.sentinel.map (defaultedSentinel crName)
        metrics := defaultedMetrics spec.metrics
        rollout := defaultedRollout spec.rollout } := by
  obtain ⟨mode, image, valkey, sentinel, metrics, rollout⟩ := spec
  cases sentinel <;> rfl

private theorem stampGuaranteed_stampGuaranteed (resources : ResourceRequirements) :
    stampGuaranteed (stampGuaranteed resources) = stampGuaranteed resources := by
  obtain ⟨_ | requests, _ | limits⟩ := resources <;> rfl

private theorem spread_spread (component : Component) (crName : String) (replicas : Int32)
    (affinity : Option Affinity) :
    spread component crName replicas (spread component crName replicas affinity) =
      spread component crName replicas affinity := by
  unfold spread
  split_ifs
  · simp [ensureSoftPodAntiAffinity]
  · rfl

/-- A pass's defaults change nothing in a spec defaulted on admission. -/
theorem applySpecDefaults_applySpecDefaults (crName : String) (spec : ValkeySpec) :
    applySpecDefaults crName (applySpecDefaults crName spec) = applySpecDefaults crName spec := by
  have sentinel : defaultedSentinel crName ∘ defaultedSentinel crName =
      defaultedSentinel crName := by
    funext sentinel
    simp [defaultedSentinel, sentinelReplicas, stampGuaranteed_stampGuaranteed, spread_spread]
  rw [applySpecDefaults_eq, applySpecDefaults_eq]
  simp [defaultedImage, defaultedValkey, valkeyReplicas, defaultedMetrics, defaultedRollout,
    spread_spread, sentinel]

/-- The fields that the phases read; the others of them are `rest`'s. -/
def ValkeySpec.onto (spec : ValkeySpec) (rest : Spec) : Spec :=
  { rest with
    mode := spec.mode
    replicas := spec.valkey.replicas.toInt
    image := spec.image.valkey
    masterName := (spec.sentinel.map SentinelPodSpec.masterName).getD ""
    readinessGateEnabled := spec.valkey.readinessGate.enabled
    readinessMaxLagBytes := spec.valkey.readinessGate.maxLagBytes.map Int64.toInt
    replicaReadyTimeoutSeconds := spec.rollout.replicaReadyTimeoutSeconds.toInt
    maxLagBytes := spec.rollout.maxLagBytes.toInt }

private theorem apply_fill {α : Type} [Inhabited α] [DecidableEq α] {number : α → Int}
    (faithful : ∀ first second, number first = number second ↔ first = second)
    (zero : number default = 0) (value field : α) :
    number (fill value field) = if number field = 0 then number value else number field := by
  simp only [← zero, faithful]
  exact apply_ite number _ _ _

private theorem toInt_replicasForMode (mode : Mode) :
    (replicasForMode mode).toInt = mode.defaultReplicas := by
  cases mode <;> rfl

/-- On these fields the full defaults are those of the reconciler. -/
theorem applySpecDefaults_onto (crName : String) (spec : ValkeySpec) (rest : Spec) :
    (applySpecDefaults crName spec).onto rest = Velkir.applySpecDefaults (spec.onto rest) := by
  rw [applySpecDefaults_eq]
  simp only [ValkeySpec.onto, Velkir.applySpecDefaults, Spec.mk.injEq, true_and]
  refine ⟨?replicas, rfl, ?masterName, ?enabled, ?maxLag, ?timeout, ?maxLagBytes⟩
  case replicas =>
    rw [← toInt_replicasForMode]
    exact apply_fill (fun _ _ => Int32.toInt_inj) rfl _ _
  case masterName => cases spec.sentinel <;> rfl
  case enabled =>
    simp only [defaultedValkey]
    cases spec.valkey.readinessGate.enabled <;> rfl
  case maxLag =>
    simp only [defaultedValkey]
    cases spec.valkey.readinessGate.maxLagBytes <;> rfl
  case timeout => exact apply_fill (fun _ _ => Int32.toInt_inj) rfl _ _
  case maxLagBytes => exact apply_fill (fun _ _ => Int64.toInt_inj) rfl _ _

end Defaults

end Velkir
