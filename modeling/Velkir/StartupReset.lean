import Velkir.SentinelSurgery

/-!
# The surgery at startup

A new leader registers the master at sentinels without peers, with neither of the gates of the
surgery.
-/

namespace Velkir

namespace Surgery.Startup

/-- The client port of a valkey pod. -/
def defaultPort : Nat := 6379

def valkeyAddr (ip : String) : String := GoText.joinHostPort ip (toString defaultPort)

/-- What a startup pass finds; `none` stands for a failed list. -/
structure Cluster where
  masterName : String := "mymaster"
  endpoints : List Endpoint
  quorum : Nat := 2
  password : String := ""
  /-- The resource configures its own timeouts. -/
  tuned : Bool := true
  /-- The addresses of the pods labelled as primary, empty for a pod without one. -/
  primaryPods : Option (List String)
  allPods : Option (List String)
  /-- The role that an address reports in `INFO replication`. -/
  info : String → Option String
  replies : Replies

/-- What a pass sends. `master` asks for the flags in front of the surgery. -/
inductive Command
  | info (addr : String)
  | sentinels (endpoint : Endpoint)
  | master (endpoint : Endpoint)
  | remove (endpoint : Endpoint)
  | monitor (command : MonitorCommand)
  | tune (endpoint : Endpoint)
  /-- The password is set and read back. -/
  | authPass (endpoint : Endpoint)
  deriving DecidableEq

variable (cluster : Cluster)

/-- The address of the first labelled pod that has one. -/
def labelledIP : Option String := do
  (← cluster.primaryPods).find? (· ≠ "")

/-- The addresses asked for their role when no labelled pod has an address. -/
def dialed : List String :=
  match cluster.primaryPods, labelledIP cluster, cluster.allPods with
  | some _, none, some pods => pods.filter (· ≠ "")
  | _, _, _ => []

/-- The master's address, if it can be told, and the probes it took. -/
def observedMasterIP : String × List Command :=
  match cluster.primaryPods with
  | none => ("", [])
  | some _ =>
      match labelledIP cluster with
      | some ip => (ip, [])
      | none =>
          -- two pods that call themselves master leave the question open
          let masters := (dialed cluster).filter fun ip =>
            cluster.info (valkeyAddr ip) = some "master"
          (match masters with
            | [ip] => ip
            | _ => "",
            (dialed cluster).map fun ip => .info (valkeyAddr ip))

/-- An error is an error here, also that no such master is known. -/
def unrecovered (replies : Replies) : Replies :=
  { replies with
    peers := fun endpoint =>
      match replies.peers endpoint with
      | .peers ips => .peers ips
      | .noSuchMaster | .failed => .failed }

/-- The peerless sentinels. -/
def classified : StrandedClassification :=
  classifyStrandedSentinels (unrecovered cluster.replies) cluster.endpoints []

/-- The targets of a name whose entry was removed. -/
def successfulEndpoints : List Endpoint :=
  let recoverTargets := (classified cluster).targets
  let successByName := (recoverTargets.filter cluster.replies.removes).map Endpoint.name
  recoverTargets.filter fun endpoint => endpoint.name ∈ successByName

/-- Register the master. -/
def monitorCommand (masterIP : String) (endpoint : Endpoint) : Command :=
  .monitor ⟨endpoint, cluster.masterName, masterIP, defaultPort, cluster.quorum⟩

/-- Reset the peerless sentinels. -/
def runInitialReset (masterIP : String) : List Command :=
  if cluster.endpoints = [] then []
  else if masterIP = "" then []
  else
    cluster.endpoints.map .sentinels ++
      if (classified cluster).targets = [] then []
      else if !(classified cluster).quorumReachable then []
      else
        (classified cluster).targets.map .remove ++
        (successfulEndpoints cluster).map (monitorCommand cluster masterIP) ++
        (if cluster.tuned then (successfulEndpoints cluster).map .tune else []) ++
        (if cluster.password = "" then [] else cluster.endpoints.map .authPass)

/-- The commands of a startup pass. -/
def startupPass : List Command :=
  (observedMasterIP cluster).2 ++ runInitialReset cluster (observedMasterIP cluster).1

/-- It answered with a peer list that is not empty. -/
def Gossips (endpoint : Endpoint) : Prop :=
  ∃ ip ips, cluster.replies.peers endpoint = .peers (ip :: ips)

/-- A master is registered after it answered and no failover showed. -/
def ObeysGates : Prop :=
  ∀ command, .monitor command ∈ startupPass cluster →
    (∃ addr, addr = GoText.joinHostPort command.masterIP (toString command.port) ∧
      .info addr ∈ startupPass cluster ∧ (cluster.info addr).isSome) ∧
    ∀ endpoint ∈ cluster.endpoints, Gossips cluster endpoint →
      .master endpoint ∈ startupPass cluster ∧
        ∀ flags ∈ cluster.replies.survivorFlags endpoint,
          GoText.contains flags "failover_in_progress" = false

/-- A peerless sentinel lets go, a quorum answers, a master is known. -/
structure Due : Prop where
  resolved : (observedMasterIP cluster).1 ≠ ""
  quorum : (classified cluster).quorumReachable = true
  stranded : ∃ endpoint ∈ cluster.endpoints, cluster.replies.peers endpoint = .peers [] ∧
    cluster.replies.removes endpoint = true

variable {cluster}

theorem mem_targets {endpoint : Endpoint} :
    endpoint ∈ (classified cluster).targets ↔
      endpoint ∈ cluster.endpoints ∧ cluster.replies.peers endpoint = .peers [] := by
  simp only [classified, classifyStrandedSentinels, List.mem_filter, unrecovered]
  refine and_congr_right fun _ => ?_
  cases cluster.replies.peers endpoint with
  | peers ips => simp [PeerReply.stranded]
  | noSuchMaster => simp [PeerReply.stranded]
  | failed => simp [PeerReply.stranded]

theorem successfulEndpoints_ne_nil :
    successfulEndpoints cluster ≠ [] ↔
      ∃ endpoint ∈ cluster.endpoints, cluster.replies.peers endpoint = .peers [] ∧
        cluster.replies.removes endpoint = true := by
  constructor
  · intro nonempty
    obtain ⟨endpoint, mem⟩ := List.exists_mem_of_ne_nil _ nonempty
    obtain ⟨-, named⟩ := List.mem_filter.mp mem
    obtain ⟨removed, ok, -⟩ := List.mem_map.mp (of_decide_eq_true named)
    obtain ⟨target, removes⟩ := List.mem_filter.mp ok
    obtain ⟨listed, empty⟩ := mem_targets.mp target
    exact ⟨removed, listed, empty, removes⟩
  · rintro ⟨endpoint, listed, empty, removes⟩
    have target := mem_targets.mpr ⟨listed, empty⟩
    refine List.ne_nil_of_mem (List.mem_filter.mpr ⟨target, decide_eq_true ?_⟩)
    exact List.mem_map_of_mem (List.mem_filter.mpr ⟨target, removes⟩)

theorem observedMasterIP_probes :
    (observedMasterIP cluster).2 = (dialed cluster).map fun ip => .info (valkeyAddr ip) := by
  unfold observedMasterIP
  cases listed : cluster.primaryPods with
  | none => simp [dialed, listed]
  | some pods =>
      cases labelled : labelledIP cluster with
      | none => rfl
      | some ip => simp [dialed, listed, labelled]

variable {masterIP : String} {command : MonitorCommand}

theorem monitor_mem_reset :
    .monitor command ∈ runInitialReset cluster masterIP ↔
      (masterIP ≠ "" ∧ (classified cluster).quorumReachable = true) ∧
        .monitor command ∈ (successfulEndpoints cluster).map (monitorCommand cluster masterIP) := by
  have registered : .monitor command ∈ (successfulEndpoints cluster).map
      (monitorCommand cluster masterIP) → cluster.endpoints ≠ [] ∧
        (classified cluster).targets ≠ [] := by
    intro mem
    obtain ⟨endpoint, successful, -⟩ := List.mem_map.mp mem
    have target := (List.mem_filter.mp successful).1
    exact ⟨List.ne_nil_of_mem (mem_targets.mp target).1, List.ne_nil_of_mem target⟩
  unfold runInitialReset
  split_ifs with empty unknown none_stranded minority <;> simp_all

private theorem reset_reads_no_flags (endpoint : Endpoint) :
    .master endpoint ∉ runInitialReset cluster masterIP := by
  unfold runInitialReset
  split_ifs <;> simp [monitorCommand]

private theorem reset_probes_nothing {addr : String} :
    .info addr ∉ runInitialReset cluster masterIP := by
  unfold runInitialReset
  split_ifs <;> simp [monitorCommand]

private theorem master_not_mem (endpoint : Endpoint) : .master endpoint ∉ startupPass cluster := by
  rw [startupPass, observedMasterIP_probes, List.mem_append, not_or]
  exact ⟨by simp, reset_reads_no_flags endpoint⟩

theorem info_mem_iff {addr : String} :
    .info addr ∈ startupPass cluster ↔ ∃ ip ∈ dialed cluster, valkeyAddr ip = addr := by
  rw [startupPass, observedMasterIP_probes, List.mem_append,
    or_iff_left reset_probes_nothing]
  simp

theorem monitor_mem_iff :
    .monitor command ∈ startupPass cluster ↔
      .monitor command ∈ runInitialReset cluster (observedMasterIP cluster).1 := by
  rw [startupPass, observedMasterIP_probes, List.mem_append]
  exact or_iff_right (by simp)

private theorem due_of_monitor (sent : .monitor command ∈ startupPass cluster) :
    Due cluster ∧ command.masterIP = (observedMasterIP cluster).1 ∧
      command.port = defaultPort := by
  obtain ⟨⟨resolved, quorum⟩, registered⟩ := monitor_mem_reset.mp (monitor_mem_iff.mp sent)
  obtain ⟨endpoint, successful, same⟩ := List.mem_map.mp registered
  cases same
  exact ⟨⟨resolved, quorum, successfulEndpoints_ne_nil.mp (List.ne_nil_of_mem successful)⟩,
    rfl, rfl⟩

private theorem Due.monitor (due : Due cluster) :
    ∃ command, .monitor command ∈ startupPass cluster ∧
      command.masterIP = (observedMasterIP cluster).1 ∧ command.port = defaultPort := by
  obtain ⟨endpoint, successful⟩ :=
    List.exists_mem_of_ne_nil _ (successfulEndpoints_ne_nil.mpr due.stranded)
  refine ⟨⟨endpoint, cluster.masterName, (observedMasterIP cluster).1, defaultPort,
    cluster.quorum⟩, ?_, rfl, rfl⟩
  refine monitor_mem_iff.mpr (monitor_mem_reset.mpr ⟨⟨due.resolved, due.quorum⟩, ?_⟩)
  exact List.mem_map_of_mem successful

private theorem observedMasterIP_probed (unlabelled : labelledIP cluster = none)
    (resolved : (observedMasterIP cluster).1 ≠ "") :
    (observedMasterIP cluster).1 ∈ dialed cluster ∧
      (cluster.info (valkeyAddr (observedMasterIP cluster).1)).isSome = true := by
  unfold observedMasterIP at resolved ⊢
  cases listed : cluster.primaryPods with
  | none => simp [listed] at resolved
  | some pods =>
      simp only [listed, unlabelled] at resolved ⊢
      split at resolved
      next ip masters =>
        have mem : ip ∈ (dialed cluster).filter fun ip =>
            cluster.info (valkeyAddr ip) = some "master" := by
          rw [masters]
          exact List.mem_singleton_self ip
        obtain ⟨dialed, role⟩ := List.mem_filter.mp mem
        exact ⟨dialed, by rw [of_decide_eq_true role]; rfl⟩
      next => exact absurd rfl resolved

/-- The gates are obeyed if nothing is registered or was there to ask. -/
theorem startupPass_obeysGates_iff (cluster : Cluster) :
    ObeysGates cluster ↔
      (Due cluster → labelledIP cluster = none ∧
        ∀ endpoint ∈ cluster.endpoints, ¬ Gossips cluster endpoint) := by
  constructor
  · intro obeys due
    obtain ⟨command, sent, masterIP, port⟩ := due.monitor
    obtain ⟨⟨addr, -, probed, -⟩, asked⟩ := obeys command sent
    refine ⟨?_, ?_⟩
    · obtain ⟨ip, dialed, -⟩ := info_mem_iff.mp probed
      cases labelled : labelledIP cluster with
      | none => rfl
      | some ip => simp [Startup.dialed, labelled] at dialed
    · intro endpoint listed gossips
      exact master_not_mem endpoint (asked endpoint listed gossips).1
  · intro condition command sent
    obtain ⟨due, masterIP, port⟩ := due_of_monitor sent
    obtain ⟨unlabelled, silent⟩ := condition due
    obtain ⟨dialed, answered⟩ := observedMasterIP_probed unlabelled due.resolved
    refine ⟨⟨_, rfl, ?_, ?_⟩, ?_⟩
    · rw [masterIP, port]
      exact info_mem_iff.mpr ⟨_, dialed, rfl⟩
    · rw [masterIP, port]
      exact answered
    · intro endpoint listed gossips
      exact absurd gossips (silent endpoint listed)

/-- A pod that is down, and two sentinels in the middle of a failover. -/
def restarted : Cluster where
  endpoints := [sentinel "s0" "10.0.1.0", sentinel "s1" "10.0.1.1", sentinel "s2" "10.0.1.2"]
  primaryPods := some ["10.0.0.1"]
  allPods := some ["10.0.0.1", "10.0.0.2"]
  info addr := if addr = "10.0.0.2:6379" then some "slave" else none
  replies :=
    { peers := fun endpoint =>
        if endpoint.name = "s0" then .peers [] else .peers ["10.0.1.1", "10.0.1.2"]
      probe := fun _ => none
      replicas := fun _ => none
      ping := fun _ => false
      survivorFlags := fun _ => some "master,o_down,failover_in_progress"
      targetFlags := fun _ => none
      cohort := fun _ => none
      removes := fun _ => true
      monitors := fun _ => true }

/-- The dead pod is registered without a probe, in the middle of the failover. -/
theorem startupPass_skips_gates :
    startupPass restarted =
        restarted.endpoints.map .sentinels ++
          [.remove (sentinel "s0" "10.0.1.0"),
            .monitor ⟨sentinel "s0" "10.0.1.0", "mymaster", "10.0.0.1", 6379, 2⟩,
            .tune (sentinel "s0" "10.0.1.0")] ∧
      ¬ ObeysGates restarted := by
  refine ⟨by decide, fun obeys => ?_⟩
  obtain ⟨⟨addr, -, probed, -⟩, -⟩ := obeys _
    (show .monitor ⟨sentinel "s0" "10.0.1.0", "mymaster", "10.0.0.1", 6379, 2⟩ ∈
      startupPass restarted by decide)
  obtain ⟨ip, dialed, -⟩ := info_mem_iff.mp probed
  revert dialed
  simp [Startup.dialed, labelledIP, restarted]

end Surgery.Startup

end Velkir
