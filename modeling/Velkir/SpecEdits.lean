import Velkir.SpecDefaults

/-!
# Defaults that were stored

An edit that leaves the filled fields alone is applied with stored defaults and without, and the
results compared.
-/

namespace Velkir

namespace Defaults

open Defaulting

/-- An image has no entry that could be set without touching a default. -/
structure ImageEdit where
  valkey : Option ContainerImage := none
  sentinel : Option ContainerImage := none
  exporter : Option ContainerImage := none

/-- Quantities that are set, or removed. -/
structure QuantityEdit where
  settings : List (String × Option String)

/-- Set or remove one quantity. -/
def QuantityEdit.put (quantities : ResourceList) : String × Option String → ResourceList
  | (name, some quantity) => quantities.insert name quantity
  | (name, none) => quantities.erase name

instance : EntryEdit QuantityEdit ResourceList where
  apply edit quantities := edit.settings.foldl QuantityEdit.put quantities
  Spares edit before after :=
    ∀ setting ∈ edit.settings, after.lookup setting.1 = before.lookup setting.1

/-- An edit of the requests and limits of a container. -/
structure ResourceEdit where
  requests : SectionEdit QuantityEdit ResourceList := .keep
  limits : SectionEdit QuantityEdit ResourceList := .keep

/-- An edit below a disruption budget. -/
structure PDBEdit where
  minAvailable : Option (Option IntOrString) := none
  maxUnavailable : Option (Option IntOrString) := none

instance : EntryEdit PDBEdit PDBSpec where
  apply edit pdb :=
    { minAvailable := edit.minAvailable.getD pdb.minAvailable
      maxUnavailable := edit.maxUnavailable.getD pdb.maxUnavailable }
  Spares edit before after :=
    Leaves edit.minAvailable before.minAvailable after.minAvailable ∧
      Leaves edit.maxUnavailable before.maxUnavailable after.maxUnavailable

/-- An edit below the connection of a probe. -/
structure TCPSocketEdit where
  port : Option IntOrString := none
  host : Option String := none

instance : EntryEdit TCPSocketEdit TCPSocketAction where
  apply edit action := { port := edit.port.getD action.port, host := edit.host.getD action.host }
  Spares edit before after :=
    Leaves edit.port before.port after.port ∧ Leaves edit.host before.host after.host

/-- An edit below a probe; defaults leave an entry of the connection open. -/
structure ProbeEdit where
  exec : Option (Option (List String)) := none
  httpGet : Option (Option HTTPGetAction) := none
  tcpSocket : SectionEdit TCPSocketEdit TCPSocketAction := .keep
  grpc : Option (Option Int32) := none
  initialDelaySeconds : Option Int32 := none
  periodSeconds : Option Int32 := none
  timeoutSeconds : Option Int32 := none
  failureThreshold : Option Int32 := none
  successThreshold : Option Int32 := none
  terminationGracePeriodSeconds : Option (Option Int64) := none

/-- No entry of the probe that differs is set. -/
structure ProbeEdit.Spares (edit : ProbeEdit) (before after : Probe) : Prop where
  exec : Leaves edit.exec before.exec after.exec
  httpGet : Leaves edit.httpGet before.httpGet after.httpGet
  tcpSocket : edit.tcpSocket.Spares before.tcpSocket after.tcpSocket
  grpc : Leaves edit.grpc before.grpc after.grpc
  initialDelaySeconds : Leaves edit.initialDelaySeconds before.initialDelaySeconds
    after.initialDelaySeconds
  periodSeconds : Leaves edit.periodSeconds before.periodSeconds after.periodSeconds
  timeoutSeconds : Leaves edit.timeoutSeconds before.timeoutSeconds after.timeoutSeconds
  failureThreshold : Leaves edit.failureThreshold before.failureThreshold after.failureThreshold
  successThreshold : Leaves edit.successThreshold before.successThreshold after.successThreshold
  terminationGracePeriodSeconds : Leaves edit.terminationGracePeriodSeconds
    before.terminationGracePeriodSeconds after.terminationGracePeriodSeconds

instance : EntryEdit ProbeEdit Probe where
  apply edit probe :=
    { exec := edit.exec.getD probe.exec
      httpGet := edit.httpGet.getD probe.httpGet
      tcpSocket := edit.tcpSocket.apply probe.tcpSocket
      grpc := edit.grpc.getD probe.grpc
      initialDelaySeconds := edit.initialDelaySeconds.getD probe.initialDelaySeconds
      periodSeconds := edit.periodSeconds.getD probe.periodSeconds
      timeoutSeconds := edit.timeoutSeconds.getD probe.timeoutSeconds
      failureThreshold := edit.failureThreshold.getD probe.failureThreshold
      successThreshold := edit.successThreshold.getD probe.successThreshold
      terminationGracePeriodSeconds :=
        edit.terminationGracePeriodSeconds.getD probe.terminationGracePeriodSeconds }
  Spares := ProbeEdit.Spares

/-- An edit below the anti-affinity of a pod set. -/
structure AntiAffinityEdit where
  preferred : Option (List (Int32 × PodAffinityTerm)) := none
  required : Option (List PodAffinityTerm) := none

instance : EntryEdit AntiAffinityEdit PodAntiAffinity where
  apply edit terms :=
    { preferred := edit.preferred.getD terms.preferred
      required := edit.required.getD terms.required }
  Spares edit before after :=
    Leaves edit.preferred before.preferred after.preferred ∧
      Leaves edit.required before.required after.required

/-- An edit below the affinity of a pod set. -/
structure AffinityEdit where
  podAntiAffinity : SectionEdit AntiAffinityEdit PodAntiAffinity := .keep

/-- An edit of the section of the valkey pods. -/
structure ValkeyPodEdit where
  replicas : Option Int32 := none
  resources : ResourceEdit := {}
  customLivenessProbe : SectionEdit ProbeEdit Probe := .keep
  customReadinessProbe : SectionEdit ProbeEdit Probe := .keep
  gateEnabled : Option (Option Bool) := none
  gateMaxLagBytes : Option (Option Int64) := none
  /-- Setting anything below the affinity creates it. -/
  affinity : Option AffinityEdit := none
  pdb : SectionEdit PDBEdit PDBSpec := .keep
  minReplicasToWrite : Option (Option Int32) := none
  minReplicasMaxLag : Option (Option Int32) := none

/-- An edit below the section of the sentinels. -/
structure SentinelPodEdit where
  masterName : Option String := none
  replicas : Option Int32 := none
  quorum : Option Int32 := none
  downAfterMilliseconds : Option Int32 := none
  failoverTimeout : Option Int32 := none
  parallelSyncs : Option Int32 := none
  pdb : SectionEdit PDBEdit PDBSpec := .keep
  resources : ResourceEdit := {}
  customLivenessProbe : SectionEdit ProbeEdit Probe := .keep
  customReadinessProbe : SectionEdit ProbeEdit Probe := .keep
  affinity : Option AffinityEdit := none

/-- An edit of the section of the metrics. -/
structure MetricsEdit where
  enabled : Option (Option Bool) := none
  podMonitorEnabled : Option (Option Bool) := none
  scrapeInterval : Option String := none

/-- An edit of the section of the rollouts. -/
structure RolloutEdit where
  maxUnavailable : Option Int32 := none
  failoverGracePeriodSeconds : Option Int32 := none
  replicaReadyTimeoutSeconds : Option Int32 := none
  maxLagBytes : Option Int64 := none

/-- A user's edit of the spec. -/
structure SpecEdit where
  mode : Option Mode := none
  image : ImageEdit := {}
  valkey : ValkeyPodEdit := {}
  /-- Setting anything below the section creates it. -/
  sentinel : Option SentinelPodEdit := none
  metrics : MetricsEdit := {}
  rollout : RolloutEdit := {}

/-- The images after the edit. -/
def ImageEdit.apply (edit : ImageEdit) (image : ImageSpec) : ImageSpec where
  valkey := edit.valkey.getD image.valkey
  sentinel := edit.sentinel.getD image.sentinel
  exporter := edit.exporter.getD image.exporter

/-- The resources after the edit. -/
def ResourceEdit.apply (edit : ResourceEdit) (resources : ResourceRequirements) :
    ResourceRequirements where
  requests := edit.requests.apply resources.requests
  limits := edit.limits.apply resources.limits

/-- The affinity after the edit. -/
def editAffinity (edit : Option AffinityEdit) (affinity : Option Affinity) : Option Affinity :=
  match edit with
  | none => affinity
  | some edit => some ⟨edit.podAntiAffinity.apply (affinity.getD {}).podAntiAffinity⟩

/-- The section of the valkey pods after the edit. -/
def ValkeyPodEdit.apply (edit : ValkeyPodEdit) (valkey : ValkeyPodSpec) : ValkeyPodSpec where
  replicas := edit.replicas.getD valkey.replicas
  resources := edit.resources.apply valkey.resources
  customLivenessProbe := edit.customLivenessProbe.apply valkey.customLivenessProbe
  customReadinessProbe := edit.customReadinessProbe.apply valkey.customReadinessProbe
  readinessGate :=
    { enabled := edit.gateEnabled.getD valkey.readinessGate.enabled
      maxLagBytes := edit.gateMaxLagBytes.getD valkey.readinessGate.maxLagBytes }
  affinity := editAffinity edit.affinity valkey.affinity
  pdb := edit.pdb.apply valkey.pdb
  minReplicasToWrite := edit.minReplicasToWrite.getD valkey.minReplicasToWrite
  minReplicasMaxLag := edit.minReplicasMaxLag.getD valkey.minReplicasMaxLag

/-- The section of the sentinels after the edit. -/
def SentinelPodEdit.apply (edit : SentinelPodEdit) (sentinel : SentinelPodSpec) :
    SentinelPodSpec where
  masterName := edit.masterName.getD sentinel.masterName
  replicas := edit.replicas.getD sentinel.replicas
  quorum := edit.quorum.getD sentinel.quorum
  downAfterMilliseconds := edit.downAfterMilliseconds.getD sentinel.downAfterMilliseconds
  failoverTimeout := edit.failoverTimeout.getD sentinel.failoverTimeout
  parallelSyncs := edit.parallelSyncs.getD sentinel.parallelSyncs
  pdb := edit.pdb.apply sentinel.pdb
  resources := edit.resources.apply sentinel.resources
  customLivenessProbe := edit.customLivenessProbe.apply sentinel.customLivenessProbe
  customReadinessProbe := edit.customReadinessProbe.apply sentinel.customReadinessProbe
  affinity := editAffinity edit.affinity sentinel.affinity

/-- The section of the metrics after the edit. -/
def MetricsEdit.apply (edit : MetricsEdit) (metrics : MetricsSpec) : MetricsSpec where
  enabled := edit.enabled.getD metrics.enabled
  podMonitor :=
    { enabled := edit.podMonitorEnabled.getD metrics.podMonitor.enabled
      scrapeInterval := edit.scrapeInterval.getD metrics.podMonitor.scrapeInterval }

/-- The section of the rollouts after the edit. -/
def RolloutEdit.apply (edit : RolloutEdit) (rollout : RolloutSpec) : RolloutSpec where
  maxUnavailable := edit.maxUnavailable.getD rollout.maxUnavailable
  failoverGracePeriodSeconds :=
    edit.failoverGracePeriodSeconds.getD rollout.failoverGracePeriodSeconds
  replicaReadyTimeoutSeconds :=
    edit.replicaReadyTimeoutSeconds.getD rollout.replicaReadyTimeoutSeconds
  maxLagBytes := edit.maxLagBytes.getD rollout.maxLagBytes

/-- The spec after the edit. -/
def SpecEdit.apply (edit : SpecEdit) (spec : ValkeySpec) : ValkeySpec where
  mode := edit.mode.getD spec.mode
  image := edit.image.apply spec.image
  valkey := edit.valkey.apply spec.valkey
  sentinel :=
    match edit.sentinel with
    | none => spec.sentinel
    | some change => some (change.apply (spec.sentinel.getD {}))
  metrics := edit.metrics.apply spec.metrics
  rollout := edit.rollout.apply spec.rollout

/-- No image that differs is set. -/
structure ImageEdit.Spares (edit : ImageEdit) (before after : ImageSpec) : Prop where
  valkey : Leaves edit.valkey before.valkey after.valkey
  sentinel : Leaves edit.sentinel before.sentinel after.sentinel
  exporter : Leaves edit.exporter before.exporter after.exporter

/-- No quantity that differs is set. -/
structure ResourceEdit.Spares (edit : ResourceEdit) (before after : ResourceRequirements) :
    Prop where
  requests : edit.requests.Spares before.requests after.requests
  limits : edit.limits.Spares before.limits after.limits

/-- The anti-affinity, if it was given. -/
def antiAffinity (affinity : Option Affinity) : Option PodAntiAffinity :=
  affinity.bind Affinity.podAntiAffinity

/-- The edit leaves the anti-affinity alone where it differs. -/
def SparesAffinity (edit : Option AffinityEdit) (before after : Option Affinity) : Prop :=
  (edit.getD {}).podAntiAffinity.Spares (antiAffinity before) (antiAffinity after)

/-- No field of the valkey pods that differs is set. -/
structure ValkeyPodEdit.Spares (edit : ValkeyPodEdit) (before after : ValkeyPodSpec) : Prop where
  replicas : Leaves edit.replicas before.replicas after.replicas
  resources : edit.resources.Spares before.resources after.resources
  livenessProbe : edit.customLivenessProbe.Spares before.customLivenessProbe
    after.customLivenessProbe
  readinessProbe : edit.customReadinessProbe.Spares before.customReadinessProbe
    after.customReadinessProbe
  gateEnabled : Leaves edit.gateEnabled before.readinessGate.enabled after.readinessGate.enabled
  gateMaxLagBytes : Leaves edit.gateMaxLagBytes before.readinessGate.maxLagBytes
    after.readinessGate.maxLagBytes
  affinity : SparesAffinity edit.affinity before.affinity after.affinity
  pdb : edit.pdb.Spares before.pdb after.pdb
  minReplicasToWrite : Leaves edit.minReplicasToWrite before.minReplicasToWrite
    after.minReplicasToWrite
  minReplicasMaxLag : Leaves edit.minReplicasMaxLag before.minReplicasMaxLag after.minReplicasMaxLag

/-- No field of the sentinels that differs is set. -/
structure SentinelPodEdit.Spares (edit : SentinelPodEdit) (before after : SentinelPodSpec) :
    Prop where
  replicas : Leaves edit.replicas before.replicas after.replicas
  quorum : Leaves edit.quorum before.quorum after.quorum
  downAfter : Leaves edit.downAfterMilliseconds before.downAfterMilliseconds
    after.downAfterMilliseconds
  failoverTimeout : Leaves edit.failoverTimeout before.failoverTimeout after.failoverTimeout
  parallelSyncs : Leaves edit.parallelSyncs before.parallelSyncs after.parallelSyncs
  pdb : edit.pdb.Spares before.pdb after.pdb
  resources : edit.resources.Spares before.resources after.resources
  livenessProbe : edit.customLivenessProbe.Spares before.customLivenessProbe
    after.customLivenessProbe
  readinessProbe : edit.customReadinessProbe.Spares before.customReadinessProbe
    after.customReadinessProbe
  affinity : SparesAffinity edit.affinity before.affinity after.affinity

/-- No field of the metrics that differs is set. -/
structure MetricsEdit.Spares (edit : MetricsEdit) (before after : MetricsSpec) : Prop where
  enabled : Leaves edit.enabled before.enabled after.enabled
  podMonitorEnabled : Leaves edit.podMonitorEnabled before.podMonitor.enabled
    after.podMonitor.enabled
  scrapeInterval : Leaves edit.scrapeInterval before.podMonitor.scrapeInterval
    after.podMonitor.scrapeInterval

/-- No field of the rollouts that differs is set. -/
structure RolloutEdit.Spares (edit : RolloutEdit) (before after : RolloutSpec) : Prop where
  maxUnavailable : Leaves edit.maxUnavailable before.maxUnavailable after.maxUnavailable
  replicaReadyTimeoutSeconds : Leaves edit.replicaReadyTimeoutSeconds
    before.replicaReadyTimeoutSeconds after.replicaReadyTimeoutSeconds
  maxLagBytes : Leaves edit.maxLagBytes before.maxLagBytes after.maxLagBytes

/-- No field that differs between the two specs is set. -/
structure SpecEdit.Spares (edit : SpecEdit) (before after : ValkeySpec) : Prop where
  image : edit.image.Spares before.image after.image
  valkey : edit.valkey.Spares before.valkey after.valkey
  sentinel : ∀ sentinel ∈ before.sentinel, ∀ filled ∈ after.sentinel,
    (edit.sentinel.getD {}).Spares sentinel filled
  metrics : edit.metrics.Spares before.metrics after.metrics
  rollout : edit.rollout.Spares before.rollout after.rollout

/-- A budget that was derived would be derived again. -/
def BudgetStands (given edited : Option PDBSpec) (before after : Int32) : Prop :=
  given = none → 2 ≤ before → edited = none ∧ after = before

/-- An anti-affinity that was filled in would be filled in again. -/
def SpreadStands (given edited : Option Affinity) (before after : Int32) : Prop :=
  antiAffinity given = none → 2 ≤ before → antiAffinity edited = none ∧ 2 ≤ after

/-- Every default filled into the valkey pods would be filled in again. -/
structure ValkeyStands (before after : ValkeySpec) : Prop where
  replicas : before.valkey.replicas = 0 → after.mode = before.mode
  requests : StaysOut before.valkey.resources.requests after.valkey.resources.requests
  limits : StaysOut before.valkey.resources.limits after.valkey.resources.limits
  livenessProbe : StaysOut before.valkey.customLivenessProbe after.valkey.customLivenessProbe
  readinessProbe : StaysOut before.valkey.customReadinessProbe after.valkey.customReadinessProbe
  gate : before.valkey.readinessGate.enabled = none →
    (after.mode = .standalone ↔ before.mode = .standalone)
  toWrite : before.valkey.minReplicasToWrite = none → before.mode ≠ .standalone →
    after.mode ≠ .standalone
  maxLag : before.valkey.minReplicasMaxLag = none → before.mode ≠ .standalone →
    after.mode ≠ .standalone
  budget : BudgetStands before.valkey.pdb after.valkey.pdb (valkeyReplicas before)
    (valkeyReplicas after)
  spread : SpreadStands before.valkey.affinity after.valkey.affinity (valkeyReplicas before)
    (valkeyReplicas after)

/-- A half filled from the other would be filled with the same again. -/
structure HalfStands (given : ResourceList) (half other : Option ResourceList) : Prop where
  left : half = none → other.getD sentinelBaseline = given
  begun : half ≠ none → given = ∅

/-- The resources that were filled in would be filled in again. -/
structure ResourcesStand (before after : ResourceRequirements) : Prop where
  neither : before.requests = none → before.limits = none →
    after.requests = none ∧ after.limits = none
  requests : before.limits = none → ∀ given ∈ before.requests,
    HalfStands given after.limits after.requests
  limits : before.requests = none → ∀ given ∈ before.limits,
    HalfStands given after.requests after.limits

/-- Every default filled into the sentinels would be filled in again. -/
structure SentinelStands (before after : SentinelPodSpec) : Prop where
  quorum : before.quorum = 0 → majority (sentinelReplicas before) ≠ 0 →
    majority (sentinelReplicas after) = majority (sentinelReplicas before)
  resources : ResourcesStand before.resources after.resources
  livenessProbe : StaysOut before.customLivenessProbe after.customLivenessProbe
  readinessProbe : StaysOut before.customReadinessProbe after.customReadinessProbe
  budget : BudgetStands before.pdb after.pdb (sentinelReplicas before) (sentinelReplicas after)
  spread : SpreadStands before.affinity after.affinity (sentinelReplicas before)
    (sentinelReplicas after)

/-- Every default filled into the first spec would be so into the second. -/
structure Stands (before after : ValkeySpec) : Prop where
  valkey : ValkeyStands before after
  sentinel : ∀ first ∈ before.sentinel, ∀ second ∈ after.sentinel, SentinelStands first second

private theorem replicasForMode_ne_zero (mode : Mode) : replicasForMode mode ≠ 0 := by
  cases mode <;> decide

private theorem replicasForMode_inj {first second : Mode} :
    replicasForMode first = replicasForMode second ↔ first = second := by
  cases first <;> cases second <;> decide

variable {replicas : Int32}

private theorem one_le_pred (several : 2 ≤ replicas) : 1 ≤ replicas - 1 := by
  have upper := replicas.toInt_lt
  have one : (1 : Int32).toInt = 1 := rfl
  have two : (2 : Int32).toInt = 2 := rfl
  rw [Int32.le_iff_toInt_le, two] at several
  rw [Int32.le_iff_toInt_le, Int32.toInt_sub, one, Int.bmod_eq_of_le] <;> omega

theorem derivedPDB_of_le (several : 2 ≤ replicas) :
    derivedPDB replicas = some { minAvailable := some (.int (replicas - 1)) } := by
  have all_but_one : max 1 (replicas - 1) = replicas - 1 := if_pos (one_le_pred several)
  rw [derivedPDB, if_pos several, all_but_one]

theorem derivedPDB_ne_none_iff : derivedPDB replicas ≠ none ↔ 2 ≤ replicas := by
  unfold derivedPDB
  split <;> simp_all

private theorem derivedPDB_eq_iff {first second : Int32} (several : 2 ≤ second) :
    derivedPDB first = derivedPDB second ↔ first = second := by
  constructor
  · intro same
    have also : 2 ≤ first := by
      rw [← derivedPDB_ne_none_iff, same]
      exact derivedPDB_ne_none_iff.mpr several
    rw [derivedPDB_of_le several, derivedPDB_of_le also] at same
    simpa using same
  · rintro rfl
    rfl

private theorem PDBSpec.lasting {pdb : PDBSpec} (filled : pdb.minAvailable ≠ none) :
    Lasting PDBEdit pdb :=
  .of_entry PDBSpec.minAvailable PDBEdit.minAvailable (fun _ _ => rfl) And.left filled

private theorem Probe.lasting {probe : Probe} (filled : probe.periodSeconds ≠ 0) :
    Lasting ProbeEdit probe :=
  .of_entry Probe.periodSeconds ProbeEdit.periodSeconds (fun _ _ => rfl)
    ProbeEdit.Spares.periodSeconds filled

private theorem derivedPDB_lasting : ∀ pdb ∈ derivedPDB replicas, Lasting PDBEdit pdb := by
  intro pdb derived
  have several : 2 ≤ replicas := derivedPDB_ne_none_iff.mp (by simp [Option.mem_def.mp derived])
  rw [derivedPDB_of_le several] at derived
  cases derived
  exact PDBSpec.lasting (by simp)

variable {terms : PodAntiAffinity}

private theorem PodAntiAffinity.lasting (filled : terms.preferred ≠ []) :
    Lasting AntiAffinityEdit terms :=
  .of_entry PodAntiAffinity.preferred AntiAffinityEdit.preferred (fun _ _ => rfl) And.left filled

private theorem QuantityEdit.lookup_put {quantities : ResourceList}
    {setting : String × Option String} {name : String} (other : name ≠ setting.1) :
    (put quantities setting).lookup name = quantities.lookup name := by
  obtain ⟨_, _ | quantity⟩ := setting
  · exact Finmap.lookup_erase_ne other
  · exact Finmap.lookup_insert_of_ne quantities other

private theorem QuantityEdit.lookup_apply {edit : QuantityEdit} {name : String}
    (untouched : ∀ setting ∈ edit.settings, name ≠ setting.1) (quantities : ResourceList) :
    (EntryEdit.apply edit quantities).lookup name = quantities.lookup name := by
  obtain ⟨settings⟩ := edit
  induction settings generalizing quantities with
  | nil => rfl
  | cons setting rest induction =>
      rw [List.forall_mem_cons] at untouched
      exact (induction _ untouched.2).trans (lookup_put untouched.1)

/-- No quantity that was filled in gets lost. -/
theorem QuantityEdit.eq_of_apply_eq {edit : QuantityEdit} {before after : ResourceList}
    (spares : EntryEdit.Spares edit before after)
    (same : EntryEdit.apply edit before = EntryEdit.apply edit after) : after = before := by
  refine Finmap.ext_lookup fun name => ?_
  by_cases touched : ∃ setting ∈ edit.settings, name = setting.1
  · obtain ⟨setting, member, rfl⟩ := touched
    exact spares setting member
  · push Not at touched
    rw [← lookup_apply touched after, ← same, lookup_apply touched before]

theorem lasting_of_ne_empty {quantities : ResourceList} (filled : quantities ≠ ∅) :
    Lasting QuantityEdit quantities :=
  fun _ spares same => filled (QuantityEdit.eq_of_apply_eq spares same)

theorem quantities_ne_empty (cpu memory : String) : quantities cpu memory ≠ ∅ := by
  intro empty
  have absent := congrArg (Finmap.lookup "cpu") empty
  simp [quantities] at absent

theorem budget_edit_iff {edit : SectionEdit PDBEdit PDBSpec} {pdb : Option PDBSpec}
    {before after : Int32} (spares : edit.Spares pdb (fill (derivedPDB before) pdb)) :
    fill (derivedPDB after) (edit.apply pdb) =
        fill (derivedPDB after) (edit.apply (fill (derivedPDB before) pdb)) ↔
      BudgetStands pdb (edit.apply pdb) before after := by
  rw [fill_section_iff _ spares derivedPDB_lasting, derivedPDB_ne_none_iff]
  exact forall_congr' fun _ => forall_congr' fun several =>
    and_congr_right fun _ => derivedPDB_eq_iff several

@[simp]
theorem antiAffinity_some (rules : Affinity) : antiAffinity (some rules) = rules.podAntiAffinity :=
  rfl

@[simp]
theorem antiAffinity_edit (edit : Option AffinityEdit) (affinity : Option Affinity) :
    antiAffinity (editAffinity edit affinity) =
      (edit.getD {}).podAntiAffinity.apply (antiAffinity affinity) := by
  cases edit <;> cases affinity <;> rfl

variable {component : Component} {crName : String}

theorem spread_of_several (several : 2 ≤ replicas) (affinity : Option Affinity) :
    spread component crName replicas affinity =
      some ⟨fill (some (softPodAntiAffinity component crName)) (antiAffinity affinity)⟩ := by
  rw [spread, if_pos several]
  cases affinity <;> rfl

theorem spread_of_few (few : ¬2 ≤ replicas) (affinity : Option Affinity) :
    spread component crName replicas affinity = affinity :=
  if_neg few

variable {affinity : Option Affinity}

private theorem spread_of_given (given : antiAffinity affinity = some terms) :
    spread component crName replicas affinity = affinity := by
  by_cases several : 2 ≤ replicas
  · obtain ⟨rules, rfl, present⟩ := Option.bind_eq_some_iff.mp given
    rw [spread_of_several several, given, ← present, fill_of_ne _ (by simp [present])]
  · exact spread_of_few several affinity

private theorem softPodAntiAffinity_lasting (component : Component) (crName : String) :
    Lasting AntiAffinityEdit (softPodAntiAffinity component crName) :=
  PodAntiAffinity.lasting (List.cons_ne_nil _ _)

theorem spread_edit_iff {edit : Option AffinityEdit} {before after : Int32}
    (spares : SparesAffinity edit affinity (spread component crName before affinity)) :
    spread component crName after (editAffinity edit affinity) =
        spread component crName after
          (editAffinity edit (spread component crName before affinity)) ↔
      SpreadStands affinity (editAffinity edit affinity) before after := by
  have lasting := softPodAntiAffinity_lasting component crName
  by_cases several : 2 ≤ before
  · cases given : antiAffinity affinity with
    | some terms => simp [spread_of_given given, SpreadStands, given]
    | none =>
        unfold SparesAffinity at spares
        rw [spread_of_several several, antiAffinity_some, given, fill_none] at spares
        by_cases still : 2 ≤ after
        · have stays := fill_content_iff lasting spares
          simpa [spread_of_several, several, still, given, SpreadStands, StaysOut] using stays
        · refine iff_of_false (fun same => ?_) (fun stands => still (stands given several).2)
          rw [spread_of_few still, spread_of_few still, spread_of_several several] at same
          have terms := congrArg antiAffinity same
          rw [antiAffinity_edit, antiAffinity_edit, antiAffinity_some, given, fill_none] at terms
          exact lasting.apply_ne spares terms
  · simp [spread_of_few several, SpreadStands, several]

variable {given : ResourceList} {limits : Option ResourceList}

/-- One half was filled from the other, which may have been edited since. -/
theorem stampGuaranteed_requests_iff :
    stampGuaranteed ⟨none, limits⟩ = stampGuaranteed ⟨some given, limits⟩ ↔
      limits.getD sentinelBaseline = given := by
  cases limits <;> simp [stampGuaranteed]

variable {requests : Option ResourceList}

private theorem stampGuaranteed_limits_iff :
    stampGuaranteed ⟨requests, none⟩ = stampGuaranteed ⟨requests, some given⟩ ↔
      requests.getD sentinelBaseline = given := by
  cases requests <;> simp [stampGuaranteed]

private theorem stampGuaranteed_requests_inj (first second : ResourceList) :
    stampGuaranteed ⟨some first, limits⟩ = stampGuaranteed ⟨some second, limits⟩ ↔
      first = second := by
  cases limits <;> simp [stampGuaranteed]

private theorem stampGuaranteed_limits_inj (first second : ResourceList) :
    stampGuaranteed ⟨requests, some first⟩ = stampGuaranteed ⟨requests, some second⟩ ↔
      first = second := by
  cases requests <;> simp [stampGuaranteed]

/-- The filled half may have been edited, too. -/
theorem half_edit_iff (stamp : Option ResourceList → ResourceRequirements)
    {edit : SectionEdit QuantityEdit ResourceList} {other : Option ResourceList}
    (filled : stamp none = stamp (some given) ↔ other.getD sentinelBaseline = given)
    (begun : ∀ first second, stamp (some first) = stamp (some second) ↔ first = second)
    (spares : edit.Spares none (some given)) :
    stamp (edit.apply none) = stamp (edit.apply (some given)) ↔
      HalfStands given (edit.apply none) other := by
  cases edit with
  | keep =>
      exact filled.trans ⟨fun same => ⟨fun _ => same, by simp [SectionEdit.apply]⟩,
        fun stands => stands.left rfl⟩
  | set replacement => simp [SectionEdit.Spares] at spares
  | below change =>
      refine (begun _ _).trans
        ⟨fun same => ⟨by simp [SectionEdit.apply], fun _ => ?_⟩, fun stands => ?_⟩
      · exact QuantityEdit.eq_of_apply_eq spares same
      · rw [stands.begun (by simp [SectionEdit.apply])]
        rfl

private theorem baseline_edit_iff {requests limits : SectionEdit QuantityEdit ResourceList}
    (sparesRequests : requests.Spares none (some sentinelBaseline))
    (sparesLimits : limits.Spares none (some sentinelBaseline)) :
    stampGuaranteed ⟨requests.apply none, limits.apply none⟩ =
        stampGuaranteed
          ⟨requests.apply (some sentinelBaseline), limits.apply (some sentinelBaseline)⟩ ↔
      requests.apply none = none ∧ limits.apply none = none := by
  have lasting : Lasting QuantityEdit sentinelBaseline :=
    lasting_of_ne_empty (quantities_ne_empty _ _)
  cases requests with
  | set replacement => simp [SectionEdit.Spares] at sparesRequests
  | keep =>
      cases limits with
      | set replacement => simp [SectionEdit.Spares] at sparesLimits
      | keep => simp [SectionEdit.apply, stampGuaranteed]
      | below change =>
          have shows := lasting change sparesLimits
          simpa [SectionEdit.apply, stampGuaranteed] using fun _ => shows
  | below first =>
      have shows := lasting first sparesRequests
      cases limits with
      | set replacement => simp [SectionEdit.Spares] at sparesLimits
      | keep => simpa [SectionEdit.apply, stampGuaranteed] using fun same => absurd same shows
      | below second =>
          simpa [SectionEdit.apply, stampGuaranteed] using fun same => absurd same shows

private theorem stampGuaranteed_edit_iff {edit : ResourceEdit} {resources : ResourceRequirements}
    (spares : edit.Spares resources (stampGuaranteed resources)) :
    stampGuaranteed (edit.apply resources) =
        stampGuaranteed (edit.apply (stampGuaranteed resources)) ↔
      ResourcesStand resources (edit.apply resources) := by
  obtain ⟨requests, limits⟩ := resources
  obtain ⟨sparesRequests, sparesLimits⟩ := spares
  cases requests with
  | none =>
      cases limits with
      | none =>
          refine (baseline_edit_iff sparesRequests sparesLimits).trans
            ⟨fun out => ⟨fun _ _ => out, by simp, by simp⟩, fun stands => stands.neither rfl rfl⟩
      | some given =>
          refine (half_edit_iff (fun half => stampGuaranteed ⟨half, edit.limits.apply (some given)⟩)
            stampGuaranteed_requests_iff stampGuaranteed_requests_inj sparesRequests).trans
            ⟨fun half => ⟨by simp, by simp, ?_⟩, fun stands => stands.limits rfl given rfl⟩
          rintro - _ ⟨⟩
          exact half
  | some given =>
      cases limits with
      | none =>
          refine (half_edit_iff
            (fun half => stampGuaranteed ⟨edit.requests.apply (some given), half⟩)
            stampGuaranteed_limits_iff stampGuaranteed_limits_inj sparesLimits).trans
            ⟨fun half => ⟨by simp, ?_, by simp⟩, fun stands => stands.requests rfl given rfl⟩
          rintro - _ ⟨⟩
          exact half
      | some limit => exact iff_of_true rfl ⟨by simp, by simp, by simp⟩

private theorem quantities_edit_iff {edit : SectionEdit QuantityEdit ResourceList}
    {cpu memory : String} {given : Option ResourceList}
    (spares : edit.Spares given (fill (some (quantities cpu memory)) given)) :
    fill (some (quantities cpu memory)) (edit.apply given) =
        fill (some (quantities cpu memory))
          (edit.apply (fill (some (quantities cpu memory)) given)) ↔
      StaysOut given (edit.apply given) :=
  fill_content_iff (lasting_of_ne_empty (quantities_ne_empty cpu memory)) spares

theorem probe_edit_iff {edit : SectionEdit ProbeEdit Probe} {probe : Probe} {given : Option Probe}
    (filled : probe.periodSeconds ≠ 0) (spares : edit.Spares given (fill (some probe) given)) :
    fill (some probe) (edit.apply given) =
        fill (some probe) (edit.apply (fill (some probe) given)) ↔
      StaysOut given (edit.apply given) :=
  fill_content_iff (Probe.lasting filled) spares

section Sections

variable {crName : String}

private theorem defaultedSentinel_edit_iff {edit : SentinelPodEdit} {before : SentinelPodSpec}
    (spares : edit.Spares before (defaultedSentinel crName before)) :
    defaultedSentinel crName (edit.apply before) =
        defaultedSentinel crName (edit.apply (defaultedSentinel crName before)) ↔
      SentinelStands before (edit.apply before) := by
  have replicas : sentinelReplicas (edit.apply before) =
      sentinelReplicas (edit.apply (defaultedSentinel crName before)) := fill_edit spares.replicas
  refine (SentinelPodSpec.mk.injEq ..).to_iff.trans ?_
  rw [← replicas]
  constructor
  · rintro ⟨-, -, quorum, -, -, -, pdb, resources, liveness, readiness, affinity⟩
    exact {
      quorum := (fill_edit_iff _ spares.quorum).mp quorum
      resources := (stampGuaranteed_edit_iff spares.resources).mp resources
      livenessProbe := (probe_edit_iff (by decide) spares.livenessProbe).mp liveness
      readinessProbe := (probe_edit_iff (by decide) spares.readinessProbe).mp readiness
      budget := (budget_edit_iff spares.pdb).mp pdb
      spread := (spread_edit_iff spares.affinity).mp affinity }
  · intro stands
    exact ⟨rfl, rfl, (fill_edit_iff _ spares.quorum).mpr stands.quorum,
      fill_edit spares.downAfter, fill_edit spares.failoverTimeout, fill_edit spares.parallelSyncs,
      (budget_edit_iff spares.pdb).mpr stands.budget,
      (stampGuaranteed_edit_iff spares.resources).mpr stands.resources,
      (probe_edit_iff (by decide) spares.livenessProbe).mpr stands.livenessProbe,
      (probe_edit_iff (by decide) spares.readinessProbe).mpr stands.readinessProbe,
      (spread_edit_iff spares.affinity).mpr stands.spread⟩

private theorem replicas_edit_iff {edit : Option Int32} {before after : Mode}
    (spares : Leaves edit replicas (fill (replicasForMode before) replicas)) :
    fill (replicasForMode after) (edit.getD replicas) =
        fill (replicasForMode after) (edit.getD (fill (replicasForMode before) replicas)) ↔
      (replicas = 0 → after = before) := by
  rw [fill_edit_iff _ spares]
  refine forall_congr' fun _ => ?_
  simp only [replicasForMode_inj]
  exact ⟨fun same => same (replicasForMode_ne_zero before), fun same _ => same⟩

private theorem gate_edit_iff {edit : Option (Option Bool)} {before after : Mode}
    {enabled : Option Bool}
    (spares : Leaves edit enabled (fill (some (decide (before ≠ .standalone))) enabled)) :
    fill (some (decide (after ≠ .standalone))) (edit.getD enabled) =
        fill (some (decide (after ≠ .standalone)))
          (edit.getD (fill (some (decide (before ≠ .standalone))) enabled)) ↔
      (enabled = none → (after = .standalone ↔ before = .standalone)) := by
  rw [fill_edit_iff _ spares]
  refine forall_congr' fun _ => ?_
  cases before <;> cases after <;> decide

private theorem floor_edit_iff {edit : Option (Option Int32)} {before after : Mode}
    {given : Option Int32} {floor : Int32}
    (spares : Leaves edit given (fill (writeFloor before floor) given)) :
    fill (writeFloor after floor) (edit.getD given) =
        fill (writeFloor after floor) (edit.getD (fill (writeFloor before floor) given)) ↔
      (given = none → before ≠ .standalone → after ≠ .standalone) := by
  rw [fill_edit_iff _ spares]
  refine forall_congr' fun _ => ?_
  rw [show (default : Option Int32) = none from rfl]
  cases before <;> cases after <;> simp [writeFloor]

private theorem defaultedValkey_edit_iff {edit : SpecEdit} {before stored : ValkeySpec}
    (mode : stored.mode = before.mode) (filled : stored.valkey = defaultedValkey crName before)
    (spares : edit.valkey.Spares before.valkey stored.valkey) :
    defaultedValkey crName (edit.apply before) = defaultedValkey crName (edit.apply stored) ↔
      ValkeyStands before (edit.apply before) := by
  obtain ⟨_, image, _, sentinel, metrics, rollout⟩ := stored
  subst mode filled
  refine (ValkeyPodSpec.mk.injEq ..).to_iff.trans ?_
  rw [ResourceRequirements.mk.injEq, ReadinessGateSpec.mk.injEq]
  constructor
  · rintro ⟨replicas, ⟨requests, limits⟩, liveness, readiness, ⟨gate, -⟩, affinity, pdb, toWrite,
      maxLag⟩
    rw [← replicas] at affinity pdb
    exact {
      replicas := (replicas_edit_iff spares.replicas).mp replicas
      requests := (quantities_edit_iff spares.resources.requests).mp requests
      limits := (quantities_edit_iff spares.resources.limits).mp limits
      livenessProbe := (probe_edit_iff (by decide) spares.livenessProbe).mp liveness
      readinessProbe := (probe_edit_iff (by decide) spares.readinessProbe).mp readiness
      gate := (gate_edit_iff spares.gateEnabled).mp gate
      toWrite := (floor_edit_iff spares.minReplicasToWrite).mp toWrite
      maxLag := (floor_edit_iff spares.minReplicasMaxLag).mp maxLag
      budget := (budget_edit_iff spares.pdb).mp pdb
      spread := (spread_edit_iff spares.affinity).mp affinity }
  · intro stands
    have replicas : valkeyReplicas (edit.apply before) = valkeyReplicas (edit.apply
        ⟨before.mode, image, defaultedValkey crName before, sentinel, metrics, rollout⟩) :=
      (replicas_edit_iff spares.replicas).mpr stands.replicas
    rw [← replicas]
    exact ⟨rfl, ⟨(quantities_edit_iff spares.resources.requests).mpr stands.requests,
        (quantities_edit_iff spares.resources.limits).mpr stands.limits⟩,
      (probe_edit_iff (by decide) spares.livenessProbe).mpr stands.livenessProbe,
      (probe_edit_iff (by decide) spares.readinessProbe).mpr stands.readinessProbe,
      ⟨(gate_edit_iff spares.gateEnabled).mpr stands.gate, fill_edit spares.gateMaxLagBytes⟩,
      (spread_edit_iff spares.affinity).mpr stands.spread,
      (budget_edit_iff spares.pdb).mpr stands.budget,
      (floor_edit_iff spares.minReplicasToWrite).mpr stands.toWrite,
      (floor_edit_iff spares.minReplicasMaxLag).mpr stands.maxLag⟩

private theorem defaultedImage_edit {edit : ImageEdit} {before : ImageSpec}
    (spares : edit.Spares before (defaultedImage before)) :
    defaultedImage (edit.apply before) = defaultedImage (edit.apply (defaultedImage before)) := by
  refine (ImageSpec.mk.injEq ..).mpr ?_
  exact ⟨fill_edit spares.valkey, fill_edit spares.sentinel, fill_edit spares.exporter⟩

private theorem defaultedMetrics_edit {edit : MetricsEdit} {before : MetricsSpec}
    (spares : edit.Spares before (defaultedMetrics before)) :
    defaultedMetrics (edit.apply before) =
      defaultedMetrics (edit.apply (defaultedMetrics before)) := by
  refine (MetricsSpec.mk.injEq ..).mpr ⟨fill_edit spares.enabled, ?_⟩
  refine (PodMonitorSpec.mk.injEq ..).mpr ?_
  exact ⟨fill_edit spares.podMonitorEnabled, fill_edit spares.scrapeInterval⟩

private theorem defaultedRollout_edit {edit : RolloutEdit} {before : RolloutSpec}
    (spares : edit.Spares before (defaultedRollout before)) :
    defaultedRollout (edit.apply before) =
      defaultedRollout (edit.apply (defaultedRollout before)) := by
  refine (RolloutSpec.mk.injEq ..).mpr ?_
  exact ⟨fill_edit spares.maxUnavailable, rfl, fill_edit spares.replicaReadyTimeoutSeconds,
    fill_edit spares.maxLagBytes⟩

private theorem SpecEdit.apply_sentinel (edit : SpecEdit) {spec : ValkeySpec}
    {sentinel : SentinelPodSpec} (present : spec.sentinel = some sentinel) :
    (edit.apply spec).sentinel = some ((edit.sentinel.getD {}).apply sentinel) := by
  unfold SpecEdit.apply
  cases edit.sentinel with
  | none => exact present
  | some change => rw [present]; rfl

private theorem SpecEdit.apply_sentinel_congr (edit : SpecEdit) {first second : ValkeySpec}
    (same : first.sentinel = second.sentinel) :
    (edit.apply first).sentinel = (edit.apply second).sentinel := by
  unfold SpecEdit.apply
  rw [same]

private theorem sentinel_edit_iff {edit : SpecEdit} {before stored : ValkeySpec}
    (filled : stored.sentinel = before.sentinel.map (defaultedSentinel crName))
    (spares : ∀ sentinel ∈ before.sentinel, ∀ after ∈ stored.sentinel,
      (edit.sentinel.getD {}).Spares sentinel after) :
    (edit.apply before).sentinel.map (defaultedSentinel crName) =
        (edit.apply stored).sentinel.map (defaultedSentinel crName) ↔
      ∀ first ∈ before.sentinel, ∀ second ∈ (edit.apply before).sentinel,
        SentinelStands first second := by
  cases present : before.sentinel with
  | none =>
      rw [present] at filled
      rw [edit.apply_sentinel_congr (present.trans filled.symm)]
      simp
  | some sentinel =>
      rw [present] at filled
      have stands := defaultedSentinel_edit_iff (spares sentinel present _ filled)
      rw [edit.apply_sentinel present, edit.apply_sentinel filled]
      simpa using stands

end Sections

/-- Stored defaults do not show if every derived one would be derived again. -/
theorem applySpecDefaults_edit_iff (crName : String) (spec : ValkeySpec) (edit : SpecEdit)
    (spares : edit.Spares spec (applySpecDefaults crName spec)) :
    applySpecDefaults crName (edit.apply spec) =
        applySpecDefaults crName (edit.apply (applySpecDefaults crName spec)) ↔
      Stands spec (edit.apply spec) := by
  rw [applySpecDefaults_eq crName spec] at spares ⊢
  rw [applySpecDefaults_eq, applySpecDefaults_eq, ValkeySpec.mk.injEq]
  constructor
  · rintro ⟨-, -, valkey, sentinel, -, -⟩
    exact ⟨(defaultedValkey_edit_iff (by rfl) (by rfl) spares.valkey).mp valkey,
      (sentinel_edit_iff rfl spares.sentinel).mp sentinel⟩
  · rintro ⟨valkey, sentinel⟩
    exact ⟨rfl, defaultedImage_edit spares.image,
      (defaultedValkey_edit_iff (by rfl) (by rfl) spares.valkey).mpr valkey,
      (sentinel_edit_iff rfl spares.sentinel).mpr sentinel, defaultedMetrics_edit spares.metrics,
      defaultedRollout_edit spares.rollout⟩

/-- The replicas were given, and the budget of the valkey pods. -/
def counted : ValkeySpec where
  mode := .sentinel
  valkey := { replicas := 3, pdb := some { maxUnavailable := some (.int 1) } }
  sentinel := some { masterName := "cache", replicas := 3 }

def scale (valkey sentinel : Option Int32) : SpecEdit where
  valkey := { replicas := valkey }
  sentinel := some { replicas := sentinel }

theorem scale_spares (valkey sentinel : Option Int32) (crName : String) :
    (scale valkey sentinel).Spares counted (applySpecDefaults crName counted) := by
  rw [applySpecDefaults_eq]
  refine ⟨?image, ?valkey, ?sentinel, ?metrics, ?rollout⟩
  case image => exact ⟨fun _ => rfl, fun _ => rfl, fun _ => rfl⟩
  case valkey =>
    exact ⟨fun changed => absurd rfl changed, ⟨trivial, trivial⟩, trivial, trivial, fun _ => rfl,
      fun _ => rfl, trivial, trivial, fun _ => rfl, fun _ => rfl⟩
  case sentinel =>
    rintro _ ⟨⟩ _ ⟨⟩
    exact ⟨fun changed => absurd rfl changed, fun _ => rfl, fun _ => rfl, fun _ => rfl,
      fun _ => rfl, trivial, ⟨trivial, trivial⟩, trivial, trivial, trivial⟩
  case metrics => exact ⟨fun _ => rfl, fun _ => rfl, fun _ => rfl⟩
  case rollout => exact ⟨fun _ => rfl, fun _ => rfl, fun _ => rfl⟩

theorem applySpecDefaults_edit_iff_four :
    applySpecDefaults "cache" ((scale (some 4) none).apply counted) =
      applySpecDefaults "cache"
        ((scale (some 4) none).apply (applySpecDefaults "cache" counted)) := by
  refine (applySpecDefaults_edit_iff "cache" counted (scale (some 4) none)
    (scale_spares (some 4) none "cache")).mpr ⟨?valkey, ?sentinel⟩
  case valkey =>
    exact ⟨fun _ => rfl, fun _ => rfl, fun _ => rfl, fun _ => rfl, fun _ => rfl, fun _ => Iff.rfl,
      fun _ several => several, fun _ several => several, nofun, fun _ _ => ⟨rfl, by decide⟩⟩
  case sentinel =>
    rintro _ ⟨⟩ _ ⟨⟩
    exact ⟨fun _ _ => rfl, ⟨fun _ _ => ⟨rfl, rfl⟩, fun _ => nofun, fun _ => nofun⟩, fun _ => rfl,
      fun _ => rfl, fun _ _ => ⟨rfl, rfl⟩, fun _ several => ⟨rfl, several⟩⟩

/-- Five sentinels keep the quorum of three. -/
theorem applySpecDefaults_keeps_quorum :
    (scale none (some 5)).Spares counted (applySpecDefaults "cache" counted) ∧
      (applySpecDefaults "cache" ((scale none (some 5)).apply counted)).sentinel.map
        SentinelPodSpec.quorum = some 3 ∧
      (applySpecDefaults "cache" ((scale none (some 5)).apply
        (applySpecDefaults "cache" counted))).sentinel.map SentinelPodSpec.quorum = some 2 :=
  ⟨scale_spares none (some 5) "cache", by decide, by decide_cbv⟩

end Defaults

end Velkir
