import Mathlib.Data.List.MinMax
import Velkir.EpochFrontier

/-!
# Surgery on stranded sentinels

A pass asks the sentinels for peers, masters and replicas, and re-registers those that cannot
recover on their own.
-/

namespace Velkir

namespace Surgery

open EpochFrontier hiding classifyRepointTargets

/-- How long a peer must have been absent before its holder is reaped. -/
def ghostReapDebounce : Nat := 30 * second

/-- The answer to `SENTINEL SENTINELS`. -/
inductive PeerReply
  /-- The addresses of the peers it knows. -/
  | peers (ips : List String)
  | noSuchMaster
  | failed
  deriving DecidableEq

/-- The answer of a sentinel on the master, read before the surgery. -/
structure CohortMasterRead where
  flags : Option String := none
  epoch : Option Int := none
  deriving DecidableEq

/-- What the wire answers in one pass; `none` stands for an error. -/
structure Replies where
  peers : Endpoint → PeerReply
  probe : Endpoint → Option ProbeReply
  /-- The addresses in the replica table. -/
  replicas : Endpoint → Option (List String)
  /-- Whether an address answers `PING`. -/
  ping : String → Bool
  survivorFlags : Endpoint → Option String
  targetFlags : Endpoint → Option String
  cohort : Endpoint → Option CohortMasterRead
  removes : Endpoint → Bool
  monitors : Endpoint → Bool

/-- `InitialResetTarget` without the credentials and the tuning. -/
structure Target where
  masterName : String := "mymaster"
  endpoints : List Endpoint := []
  masterIP : String := ""
  port : Nat := 6379
  quorum : Nat := 2
  allowGhostReap : Bool := false
  liveValkeyIPs : List String := []
  allowStaleEpochRepoint : Bool := false
  skipStrandedAddrs : List String := []

/-! ### The peer probe -/

/-- The hosts of the sentinels. -/
def liveSentinelIPSet (endpoints : List Endpoint) : List String :=
  endpoints.filterMap fun endpoint => hostOf endpoint.addr

/-- The sentinel answered, if only to say that it knows no such master. -/
def PeerReply.answered : PeerReply → Bool
  | .peers _ | .noSuchMaster => true
  | .failed => false

/-- The sentinel knows no peers. -/
def PeerReply.stranded : PeerReply → Bool
  | .peers ips => ips = []
  | .noSuchMaster => true
  | .failed => false

/-- A sentinel with the ghosts it knows. -/
structure GhostHolder where
  endpoint : Endpoint
  ghostIPs : List String

/-- The peers it knows at an address where no sentinel runs. -/
def PeerReply.ghosts (live : List String) : PeerReply → List String
  | .peers ips => ips.filter fun ip => ip ≠ "" ∧ ip ∉ live
  | .noSuchMaster | .failed => []

/-- The sentinels that know a ghost. -/
def ghostHolders (replies : Replies) (endpoints : List Endpoint) (live : List String) :
    List GhostHolder :=
  if live = [] then []
  else
    endpoints.filterMap fun endpoint =>
      let ghosts := (replies.peers endpoint).ghosts live
      if ghosts = [] then none else some ⟨endpoint, ghosts⟩

/-- What the peer lists show. -/
structure StrandedClassification where
  targets : List Endpoint
  reachable : Nat
  quorumReachable : Bool
  ghostHolders : List GhostHolder

/-- Find the sentinels without peers. -/
def classifyStrandedSentinels (replies : Replies) (endpoints : List Endpoint)
    (live : List String) : StrandedClassification :=
  let reachable := endpoints.countP fun endpoint => (replies.peers endpoint).answered
  { targets := endpoints.filter fun endpoint => (replies.peers endpoint).stranded
    reachable
    quorumReachable := quorumThreshold endpoints.length ≤ reachable
    ghostHolders := ghostHolders replies endpoints live }

/-- The targets that are not paced. -/
structure Partition where
  resetTargets : List Endpoint
  skippedNames : List String
  beingWiped : List String

/-- Paced sentinels are not wiped, but no later class may select them either. -/
def partitionEmptyPeerClass (targets : List Endpoint) (skip : List String) : Partition :=
  { resetTargets := targets.filter fun endpoint => endpoint.addr ∉ skip
    skippedNames := (targets.filter fun endpoint => endpoint.addr ∈ skip).map Endpoint.name
    beingWiped := targets.map Endpoint.name }

section Probe

variable (replies : Replies)

/-- The host that a sentinel monitors. -/
def monitoredHost (endpoint : Endpoint) : Option String := do
  let reply ← replies.probe endpoint
  if reply.addr = "" then none else hostOf reply.addr

/-- The epoch that a sentinel reports. -/
def probedEpoch (endpoint : Endpoint) : Option Int := do
  (← replies.probe endpoint).epoch

/-- The probe of one sentinel. -/
def probeOf (endpoint : Endpoint) : Probe :=
  ⟨endpoint, replies.probe endpoint⟩

/-- The re-point targets of a surgery. -/
def classifyRepointTargets (target : Target) : RepointClassification :=
  EpochFrontier.classifyRepointTargets target.liveValkeyIPs target.masterIP
    target.allowStaleEpochRepoint (target.endpoints.map (probeOf replies))

/-- No replica in the table is alive. -/
def replicaTableDoomed (table liveValkeyIPs : List String) : Bool :=
  table.all fun ip => ip ∉ liveValkeyIPs

/-- No replica it knows is alive; an unread table proves nothing. -/
def doomed (target : Target) (endpoint : Endpoint) : Bool :=
  match replies.replicas endpoint with
  | some table => replicaTableDoomed table target.liveValkeyIPs
  | none => false

/-- The re-point targets not being wiped. -/
def selectRepointTargets (target : Target) (beingWiped : List String) : RepointClassification :=
  if target.liveValkeyIPs = [] then {}
  else
    let classified := classifyRepointTargets replies target
    { classified with
      staleEpoch := classified.staleEpoch.filter fun endpoint => endpoint.name ∉ beingWiped
      deadMaster := classified.deadMaster.filter fun endpoint =>
        endpoint.name ∉ beingWiped ∧ doomed replies target endpoint }

end Probe

/-! ### The ghost-reap class -/

/-- Ghosts that are still absent keep their time, new ones are stamped. -/
def refreshGhostSeen (now : Nat) (detected live : List String) (seen : Stamps) : Stamps :=
  let kept := seen.filter fun entry => entry.1 ∉ live ∧ entry.1 ∈ detected
  kept ++ (detected.dedup.filter fun ip => ip ∉ kept.map Prod.fst).map fun ip => (ip, now)

/-- A ghost was absent long enough. -/
def GhostHolder.reapable (now : Nat) (seen : Stamps) (holder : GhostHolder) : Bool :=
  holder.ghostIPs.any fun ip =>
    match seen.lookup ip with
    | some time => ghostReapDebounce ≤ now - time
    | none => false

/-- The one survivor to reap, and what is remembered of the ghosts. -/
def selectGhostReapTarget (now : Nat) (holders : List GhostHolder) (live : List String)
    (allow : Bool) (ghostSeen : Stamps) : Option Endpoint × Stamps :=
  let seen := refreshGhostSeen now (holders.flatMap GhostHolder.ghostIPs) live ghostSeen
  if !allow then (none, seen)
  else
    let reapable := (holders.filter (GhostHolder.reapable now seen)).map GhostHolder.endpoint
    -- The lowest name, and the first holder among several of that name.
    (reapable.argmin Endpoint.name, seen)

/-! ### The last look before the surgery -/

/-- The sentinels that the surgery spares. -/
def untouchedSurvivors (replies : Replies) (endpoints : List Endpoint) (ghost : Option Endpoint)
    (beingWiped : List String) : List Endpoint :=
  endpoints.filter fun endpoint =>
    (replies.peers endpoint).answered ∧ !(replies.peers endpoint).stranded ∧
      ghost.map Endpoint.name ≠ some endpoint.name ∧ endpoint.name ∉ beingWiped

/-- Sentinels that do not answer cannot veto. -/
def anyFailoverInProgress (replies : Replies) (endpoints : List Endpoint) : Bool :=
  endpoints.any fun endpoint =>
    match replies.survivorFlags endpoint with
    | some flags => GoText.contains flags "failover_in_progress"
    | none => false

/-- The flags were read and show no election. -/
def flagsQuiet : Option String → Bool
  | some flags => !flagsIndicateElection flags
  | none => false

/-- The targets without an election. -/
def recheckElectionQuiet (replies : Replies) (targets : List Endpoint) : List Endpoint :=
  targets.filter fun endpoint => flagsQuiet (replies.targetFlags endpoint)

/-- The epoch read last. -/
def freshEpoch (replies : Replies) (endpoint : Endpoint) : Option Int := do
  (← replies.cohort endpoint).epoch

/-- The master's sentinels are quiet. -/
def destinationCohortQuiet (replies : Replies) (cohort : List Endpoint) (agreeEpoch : Int) :
    Bool :=
  -- Every member must be quiet, but only the largest epoch must hold the frontier. An empty cohort
  -- has no largest epoch.
  (cohort.all fun endpoint =>
    match replies.cohort endpoint with
    | some read => flagsQuiet read.flags
    | none => false) &&
  match (cohort.filterMap (freshEpoch replies)).max? with
  | some maxEpoch => agreeEpoch ≤ maxEpoch
  | none => false

/-- The stale targets that are dropped. -/
def droppedNames (staleEpochTargets quiet : List Endpoint) : List String :=
  (staleEpochTargets.map Endpoint.name).filter fun name => name ∉ quiet.map Endpoint.name

/-- The stale targets that may still be wiped. -/
def stillQuiet (replies : Replies) (repoint : RepointClassification) : List Endpoint :=
  let quiet := recheckElectionQuiet replies repoint.staleEpoch
  if quiet ≠ [] ∧ !destinationCohortQuiet replies repoint.staleEpochCohort repoint.agreeEpoch then
    []
  else quiet

/-- The reset targets and the reported stale targets without those dropped. -/
def dropElectingStaleTargets (replies : Replies) (repoint : RepointClassification)
    (resetTargets : List Endpoint) (reported : List String) : List Endpoint × List String :=
  let dropped := droppedNames repoint.staleEpoch (stillQuiet replies repoint)
  (resetTargets.filter fun endpoint => endpoint.name ∉ dropped,
    reported.filter fun name => name ∉ dropped)

/-! ### The pass -/

/-- Whether a command succeeded. -/
structure WireResult where
  name : String
  ok : Bool
  deriving DecidableEq

/-- `StrandedRecoveryResult` without the outcome of the password commands. -/
structure StrandedRecoveryResult where
  stranded : List String := []
  emptyPeerStranded : List String := []
  skippedStranded : List String := []
  repointed : List String := []
  staleEpochRepointed : List String := []
  resetResults : List WireResult := []
  monitorResults : List WireResult := []
  healthy : Bool := false
  probed : Bool := false
  deriving DecidableEq

/-- `SENTINEL MONITOR` as it is sent to one sentinel. -/
structure MonitorCommand where
  endpoint : Endpoint
  masterName : String
  masterIP : String
  port : Nat
  quorum : Nat
  deriving DecidableEq

/-- What a pass returns, removes, registers, and remembers of the ghosts. -/
structure Outcome where
  result : StrandedRecoveryResult := {}
  removed : List Endpoint := []
  monitored : List MonitorCommand := []
  ghostSeen : Stamps := []
  deriving DecidableEq

/-- The `SENTINEL REMOVE` and `SENTINEL MONITOR` commands of a pass. -/
def fire (target : Target) (replies : Replies) (resetTargets : List Endpoint)
    (result : StrandedRecoveryResult) (ghostSeen : Stamps) : Outcome :=
  let resetResults := resetTargets.map fun endpoint => ⟨endpoint.name, replies.removes endpoint⟩
  let successByName := (resetResults.filter WireResult.ok).map WireResult.name
  let successful := resetTargets.filter fun endpoint => endpoint.name ∈ successByName
  { result :=
      { result with
        resetResults
        monitorResults := successful.map fun endpoint =>
          ⟨endpoint.name, replies.monitors endpoint⟩ }
    removed := resetTargets
    monitored := successful.map fun endpoint =>
      ⟨endpoint, target.masterName, target.masterIP, target.port, target.quorum⟩
    ghostSeen }

/-- The classes of one pass. -/
structure Selection where
  quorumReachable : Bool
  emptyPeer : Partition
  repoint : RepointClassification
  beingWiped : List String
  ghost : Option Endpoint
  ghostSeen : Stamps

/-- All targets of a reset. -/
def Selection.resetTargets (selection : Selection) : List Endpoint :=
  selection.emptyPeer.resetTargets ++ selection.repoint.deadMaster ++
    selection.repoint.staleEpoch

/-- The classification in front of the gates. -/
def select (target : Target) (now : Nat) (replies : Replies) (ghostSeen : Stamps) : Selection :=
  let live := liveSentinelIPSet target.endpoints
  let classified := classifyStrandedSentinels replies target.endpoints live
  let emptyPeer := partitionEmptyPeerClass classified.targets target.skipStrandedAddrs
  let repoint := selectRepointTargets replies target emptyPeer.beingWiped
  -- Both re-point classes join the wiped names.
  let beingWiped := emptyPeer.beingWiped ++ repoint.deadMaster.map Endpoint.name ++
    repoint.staleEpoch.map Endpoint.name
  let reap :=
    if live = [] then (none, ghostSeen)
    else selectGhostReapTarget now classified.ghostHolders live target.allowGhostReap ghostSeen
  { quorumReachable := classified.quorumReachable
    emptyPeer, repoint, beingWiped
    ghost := reap.1.filter fun endpoint => endpoint.name ∉ beingWiped
    ghostSeen := reap.2 }

/-- The report of a pass before the gates. -/
def Selection.report (selection : Selection) : StrandedRecoveryResult :=
  let wipedNames := selection.emptyPeer.resetTargets.map Endpoint.name
  { stranded := wipedNames
    emptyPeerStranded := wipedNames
    skippedStranded := selection.emptyPeer.skippedNames
    repointed := selection.repoint.deadMaster.map Endpoint.name
    staleEpochRepointed := selection.repoint.staleEpoch.map Endpoint.name
    probed := true }

/-- The end of a pass: the last look, and the commands if any. -/
def operate (target : Target) (replies : Replies) (selection : Selection) : Outcome :=
  let (resetTargets, staleEpochRepointed) := dropElectingStaleTargets replies
    selection.repoint selection.resetTargets selection.report.staleEpochRepointed
  let result := { selection.report with staleEpochRepointed }
  match selection.ghost with
  | none =>
      if resetTargets = [] then { result, ghostSeen := selection.ghostSeen }
      else fire target replies resetTargets result selection.ghostSeen
  | some ghost =>
      fire target replies (resetTargets ++ [ghost])
        { result with stranded := result.stranded ++ [ghost.name] } selection.ghostSeen

/-- `deferred` is the answer of the deferral predicate. -/
def recoverStrandedSentinels (target : Target) (deferred bypassQuorumDeferral : Bool) (now : Nat)
    (replies : Replies) (ghostSeen : Stamps) : Outcome :=
  if target.endpoints = [] ∨ target.masterIP = "" then { ghostSeen }
  else if deferred ∧ !bypassQuorumDeferral then { ghostSeen }
  else
    let selection := select target now replies ghostSeen
    let ghostSeen := selection.ghostSeen
    if selection.resetTargets = [] ∧ selection.ghost = none then
      if selection.report.skippedStranded ≠ [] then { result := selection.report, ghostSeen }
      else
        { result := { selection.report with healthy := selection.quorumReachable }, ghostSeen }
    else if !selection.quorumReachable then { result := { probed := true }, ghostSeen }
    else if !replies.ping (GoText.joinHostPort target.masterIP (toString target.port)) then
      { result := { probed := true }, ghostSeen }
    else if anyFailoverInProgress replies
        (untouchedSurvivors replies target.endpoints selection.ghost selection.beingWiped) then
      { result := { probed := true }, ghostSeen }
    else operate target replies selection

/-! ### What makes a sentinel a target -/

section Scope

variable (target : Target) (replies : Replies) (now : Nat) (ghostSeen : Stamps)

/-- It answered that it knows no peers, or not even the master. -/
def Stranded (endpoint : Endpoint) : Prop :=
  replies.peers endpoint = .peers [] ∨ replies.peers endpoint = .noSuchMaster

/-- It monitors a dead master, and every replica it knows is dead. -/
structure Orphaned (endpoint : Endpoint) : Prop where
  dead : ∃ host, monitoredHost replies endpoint = some host ∧ host ≠ target.masterIP ∧
    host ∉ target.liveValkeyIPs
  doomed : ∃ table, replies.replicas endpoint = some table ∧
    ∀ ip ∈ table, ip ∉ target.liveValkeyIPs

/-- Some sentinel on the resolved master has an epoch above the given one. -/
def Overtaken (read : Endpoint → Option Int) (epoch : Int) : Prop :=
  ∃ member ∈ target.endpoints, monitoredHost replies member = some target.masterIP ∧
    ∃ higher, read member = some higher ∧ epoch < higher

/-- It monitors a live pod other than the resolved master, at an older epoch. -/
structure Lagging (endpoint : Endpoint) : Prop where
  other : ∃ host, monitoredHost replies endpoint = some host ∧ host ≠ target.masterIP ∧
    host ∈ target.liveValkeyIPs
  /-- The maximum is taken over the last answers before the surgery. Over the answers to the probe
  it is above as well, if the epoch is one a sentinel can have. -/
  older : ∃ epoch, probedEpoch replies endpoint = some epoch ∧
    Overtaken target replies (freshEpoch replies) epoch ∧
    (0 ≤ epoch → Overtaken target replies (probedEpoch replies) epoch)

/-- It knows a peer where no sentinel runs, seen absent long enough. -/
def Haunted (endpoint : Endpoint) : Prop :=
  ∃ ips, replies.peers endpoint = .peers ips ∧
    ∃ ip ∈ ips, ip ≠ "" ∧ ip ∉ liveSentinelIPSet target.endpoints ∧
      ∃ time, ghostSeen.lookup ip = some time ∧ ghostReapDebounce ≤ now - time

/-- The lowest name among the haunted sentinels. -/
structure ReapTarget (endpoint : Endpoint) : Prop where
  allowed : target.allowGhostReap = true
  haunted : Haunted target replies now ghostSeen endpoint
  lowest : ∀ other ∈ target.endpoints, Haunted target replies now ghostSeen other →
    endpoint.name ≤ other.name

/-- One of the four reasons to touch a sentinel. -/
inductive Broken (endpoint : Endpoint) : Prop
  | stranded (stranded : Stranded replies endpoint)
      (unpaced : endpoint.addr ∉ target.skipStrandedAddrs)
  | orphaned (orphaned : Orphaned target replies endpoint)
  | lagging (lagging : Lagging target replies endpoint)
  | reaped (reap : ReapTarget target replies now ghostSeen endpoint)

/-- What a pass that removes anything keeps to. -/
structure Scoped (outcome : Outcome) : Prop where
  quorum : outcome.removed ≠ [] → quorumThreshold target.endpoints.length ≤
    target.endpoints.countP fun endpoint => (replies.peers endpoint).answered
  alive : outcome.removed ≠ [] →
    replies.ping (GoText.joinHostPort target.masterIP (toString target.port)) = true
  once : (outcome.removed.map Endpoint.name).Nodup
  known : outcome.removed ⊆ target.endpoints
  broken : ∀ endpoint ∈ outcome.removed, Broken target replies now ghostSeen endpoint
  single : ∀ first ∈ outcome.removed, ∀ second ∈ outcome.removed,
    ReapTarget target replies now ghostSeen first →
      ReapTarget target replies now ghostSeen second → first = second
  paced : ∀ endpoint ∈ outcome.removed, Stranded replies endpoint →
    endpoint.addr ∉ target.skipStrandedAddrs
  monitored : outcome.monitored = (outcome.removed.filter replies.removes).map fun endpoint =>
    ⟨endpoint, target.masterName, target.masterIP, target.port, target.quorum⟩

end Scope

variable {target : Target} {replies : Replies} {now : Nat} {ghostSeen : Stamps}

/-! ### Sentinels without peers -/

variable {endpoint : Endpoint}

theorem stranded_iff : (replies.peers endpoint).stranded = true ↔ Stranded replies endpoint := by
  unfold Stranded
  cases replies.peers endpoint with
  | peers ips => simp [PeerReply.stranded]
  | noSuchMaster => simp [PeerReply.stranded]
  | failed => simp [PeerReply.stranded]

theorem mem_emptyPeer :
    endpoint ∈ (select target now replies ghostSeen).emptyPeer.resetTargets ↔
      endpoint ∈ target.endpoints ∧ Stranded replies endpoint ∧
        endpoint.addr ∉ target.skipStrandedAddrs := by
  simp [select, partitionEmptyPeerClass, classifyStrandedSentinels, stranded_iff, and_assoc,
    and_comm]

theorem mem_seeded {endpoint : Endpoint} (listed : endpoint ∈ target.endpoints)
    (stranded : Stranded replies endpoint) :
    endpoint.name ∈ (select target now replies ghostSeen).emptyPeer.beingWiped :=
  List.mem_map_of_mem (List.mem_filter.2 ⟨listed, stranded_iff.2 stranded⟩)

/-! ### Re-point targets -/

private theorem onDeadMaster_iff :
    onDeadMaster target.liveValkeyIPs target.masterIP (probeOf replies endpoint) = true ↔
      ∃ host, monitoredHost replies endpoint = some host ∧ host ≠ target.masterIP ∧
        host ∉ target.liveValkeyIPs := by
  have host : (probeOf replies endpoint).host = monitoredHost replies endpoint := rfl
  unfold onDeadMaster
  rw [host]
  cases monitoredHost replies endpoint with
  | none => simp
  | some host => simp

private theorem doomed_iff :
    doomed replies target endpoint = true ↔
      ∃ table, replies.replicas endpoint = some table ∧
        ∀ ip ∈ table, ip ∉ target.liveValkeyIPs := by
  unfold doomed
  cases replies.replicas endpoint with
  | none => simp
  | some table => simp [replicaTableDoomed]

/-- What the re-point selection promises. -/
structure Repoints (target : Target) (replies : Replies) (beingWiped : List String)
    (repoint : RepointClassification) : Prop where
  deadSublist : repoint.deadMaster.Sublist target.endpoints
  staleSublist : repoint.staleEpoch.Sublist target.endpoints
  dead : ∀ endpoint ∈ repoint.deadMaster,
    endpoint.name ∉ beingWiped ∧ Orphaned target replies endpoint
  stale : ∀ endpoint ∈ repoint.staleEpoch, endpoint.name ∉ beingWiped ∧
    selects target.liveValkeyIPs target.masterIP repoint.agreeEpoch (probeOf replies endpoint)
  cohort : ∀ member ∈ repoint.staleEpochCohort,
    member ∈ target.endpoints ∧ monitoredHost replies member = some target.masterIP
  agree : repoint.agreeEpoch = 0 ∨ ∃ member ∈ repoint.staleEpochCohort,
    probedEpoch replies member = some repoint.agreeEpoch

private theorem endpoints_filter_probeOf (keep : Probe → Bool) (endpoints : List Endpoint) :
    ((endpoints.map (probeOf replies)).filter keep).map Probe.endpoint =
      endpoints.filter fun endpoint => keep (probeOf replies endpoint) := by
  rw [List.filter_map, List.map_map]
  exact List.map_id _

private theorem classifyRepointTargets_repoints (target : Target) (replies : Replies) :
    (classifyRepointTargets replies target).deadMaster.Sublist (target.endpoints.filter
        (onDeadMaster target.liveValkeyIPs target.masterIP <| probeOf replies ·)) ∧
      Repoints target replies []
        { classifyRepointTargets replies target with deadMaster := [] } := by
  have nothing : Repoints target replies [] {} :=
    ⟨List.nil_sublist _, List.nil_sublist _, by simp, by simp, by simp, .inl rfl⟩
  unfold classifyRepointTargets EpochFrontier.classifyRepointTargets
  rw [endpoints_filter_probeOf]
  split_ifs with off allowed
  · exact ⟨List.nil_sublist _, nothing⟩
  · refine ⟨List.Sublist.refl _, ?_⟩
    by_cases armed : Armed target.masterIP (target.endpoints.map (probeOf replies))
    · rw [classifyStaleEpochTargets_armed armed, onMaster, endpoints_filter_probeOf,
        endpoints_filter_probeOf]
      refine ⟨List.nil_sublist _, List.filter_sublist, by simp, fun endpoint mem =>
        ⟨List.not_mem_nil, (List.mem_filter.1 mem).2⟩, fun member mem => ?_, ?_⟩
      · obtain ⟨listed, host⟩ := List.mem_filter.1 mem
        exact ⟨listed, of_decide_eq_true host⟩
      · refine (foldl_max_mem 0 _).imp_right fun mem => ?_
        obtain ⟨probe, cohort, -, read⟩ := mem_epochs.1 mem
        rw [List.filter_map] at cohort
        obtain ⟨member, kept, rfl⟩ := List.mem_map.1 cohort
        exact ⟨member, kept, read⟩
    · rw [classifyStaleEpochTargets_disarmed armed]
      exact nothing
  · exact ⟨List.Sublist.refl _, nothing⟩

/-- The selection keeps re-point classes apart from the peerless. -/
theorem selectRepointTargets_repoints (target : Target) (replies : Replies)
    (beingWiped : List String) :
    Repoints target replies beingWiped (selectRepointTargets replies target beingWiped) := by
  unfold selectRepointTargets
  split_ifs with off
  · exact ⟨List.nil_sublist _, List.nil_sublist _, by simp, by simp, by simp, .inl rfl⟩
  obtain ⟨deadSub, classified⟩ := classifyRepointTargets_repoints target replies
  refine ⟨(List.filter_sublist.trans deadSub).trans List.filter_sublist,
    List.filter_sublist.trans classified.staleSublist, fun endpoint mem => ?_,
    fun endpoint mem => ?_, classified.cohort, classified.agree⟩
  · obtain ⟨dead, kept⟩ := List.mem_filter.1 mem
    obtain ⟨fresh, doomed⟩ := of_decide_eq_true kept
    have onDead := (List.mem_filter.1 (deadSub.subset dead)).2
    exact ⟨fresh, onDeadMaster_iff.1 onDead, doomed_iff.1 doomed⟩
  · obtain ⟨stale, fresh⟩ := List.mem_filter.1 mem
    exact ⟨of_decide_eq_true fresh, (classified.stale endpoint stale).2⟩

/-! ### Stale targets that stay -/

/-- A cohort that is quiet still holds the frontier. -/
theorem destinationCohortQuiet_epoch {cohort : List Endpoint} {agreeEpoch : Int}
    (quiet : destinationCohortQuiet replies cohort agreeEpoch = true) :
    ∃ member ∈ cohort, ∃ epoch, freshEpoch replies member = some epoch ∧ agreeEpoch ≤ epoch := by
  unfold destinationCohortQuiet at quiet
  obtain ⟨-, frontier⟩ := Bool.and_eq_true_iff.1 quiet
  cases largest : (cohort.filterMap (freshEpoch replies)).max? with
  | none => simp [largest] at frontier
  | some maxEpoch =>
      rw [largest] at frontier
      obtain ⟨member, mem, read⟩ := List.mem_filterMap.1 (List.max?_mem largest)
      exact ⟨member, mem, maxEpoch, read, of_decide_eq_true frontier⟩

theorem stillQuiet_sublist (repoint : RepointClassification) :
    (stillQuiet replies repoint).Sublist repoint.staleEpoch := by
  unfold stillQuiet
  dsimp only
  split_ifs
  · exact List.nil_sublist _
  · exact List.filter_sublist

variable {repoint : RepointClassification}

private theorem stillQuiet_cohort (quiet : endpoint ∈ stillQuiet replies repoint) :
    destinationCohortQuiet replies repoint.staleEpochCohort repoint.agreeEpoch = true := by
  unfold stillQuiet at quiet
  dsimp only at quiet
  split_ifs at quiet with disarmed
  · exact absurd quiet List.not_mem_nil
  · have left : recheckElectionQuiet replies repoint.staleEpoch ≠ [] := List.ne_nil_of_mem quiet
    by_contra moved
    exact disarmed ⟨left, by simpa using moved⟩

variable {beingWiped : List String}

/-- A stale target that stays is below an epoch on the resolved master. -/
theorem Repoints.lagging (repoints : Repoints target replies beingWiped repoint)
    (quiet : endpoint ∈ stillQuiet replies repoint) : Lagging target replies endpoint := by
  have stale := (stillQuiet_sublist repoint).subset quiet
  obtain ⟨host, live, monitored, other, ⟨epoch, read, less⟩, -⟩ :=
    selects_iff.1 (repoints.stale endpoint stale).2
  obtain ⟨member, mem, higher, fresh, holds⟩ :=
    destinationCohortQuiet_epoch (stillQuiet_cohort quiet)
  obtain ⟨listed, resolved⟩ := repoints.cohort member mem
  refine ⟨⟨host, monitored, other, live⟩, epoch, read,
    ⟨member, listed, resolved, higher, fresh, by omega⟩, fun nonnegative => ?_⟩
  rcases repoints.agree with zero | ⟨first, mem, probed⟩
  · omega
  · obtain ⟨listed, host⟩ := repoints.cohort first mem
    exact ⟨first, listed, host, repoint.agreeEpoch, probed, less⟩

/-! ### The ghost-reap target -/

theorem lookup_filter_key {keep : String → Bool} {ip : String} (kept : keep ip = true)
    (seen : Stamps) : (seen.filter fun entry => keep entry.1).lookup ip = seen.lookup ip := by
  induction seen with
  | nil => rfl
  | cons entry seen ih =>
      obtain ⟨key, time⟩ := entry
      by_cases same : ip = key
      · subst same
        simp [kept]
      · have differs : (ip == key) = false := by simp [same]
        by_cases keeps : keep key
        · simp [keeps, List.lookup_cons, ih]
        · simp [keeps, List.lookup_cons, differs, ih]

theorem lookup_stamped {ip : String} {time : Nat} {ips : List String}
    (stamped : (ips.map fun ip => (ip, now)).lookup ip = some time) : time = now := by
  induction ips with
  | nil => simp at stamped
  | cons first ips ih =>
      rw [List.map_cons, List.lookup_cons] at stamped
      split at stamped
      · exact (Option.some.inj stamped).symm
      · exact ih stamped

variable {live : List String}

private theorem refreshGhostSeen_old {detected : List String} {ip : String} (absent : ip ∉ live)
    (found : ip ∈ detected) :
    (∃ time, (refreshGhostSeen now detected live ghostSeen).lookup ip = some time ∧
        ghostReapDebounce ≤ now - time) ↔
      ∃ time, ghostSeen.lookup ip = some time ∧ ghostReapDebounce ≤ now - time := by
  have kept := @lookup_filter_key (fun key => decide (key ∉ live ∧ key ∈ detected)) ip
    (decide_eq_true ⟨absent, found⟩) ghostSeen
  unfold refreshGhostSeen
  dsimp only
  rw [List.lookup_append, kept]
  cases before : ghostSeen.lookup ip with
  | some time => simp
  | none =>
      rw [Option.none_or]
      constructor
      · rintro ⟨time, stamped, old⟩
        -- A ghost stamped in this pass is not old.
        rw [lookup_stamped stamped, Nat.sub_self] at old
        exact absurd old (by decide)
      · rintro ⟨time, missing, _⟩
        cases missing

theorem mem_ghosts {reply : PeerReply} {ip : String} :
    ip ∈ reply.ghosts live ↔ ∃ ips, reply = .peers ips ∧ ip ∈ ips ∧ ip ≠ "" ∧ ip ∉ live := by
  cases reply with
  | peers ips => simp [PeerReply.ghosts]
  | noSuchMaster => simp [PeerReply.ghosts]
  | failed => simp [PeerReply.ghosts]

variable {endpoints : List Endpoint} {holder : GhostHolder}

theorem mem_ghostHolders (mem : holder ∈ ghostHolders replies endpoints live) :
    holder.endpoint ∈ endpoints ∧
      holder.ghostIPs = (replies.peers holder.endpoint).ghosts live := by
  unfold ghostHolders at mem
  split_ifs at mem with unknown
  · cases mem
  · obtain ⟨endpoint, listed, held⟩ := List.mem_filterMap.1 mem
    dsimp only at held
    split_ifs at held
    cases held
    exact ⟨listed, rfl⟩

private theorem exists_ghostHolder {ip : String} (known : live ≠ []) (listed : endpoint ∈ endpoints)
    (ghost : ip ∈ (replies.peers endpoint).ghosts live) :
    ⟨endpoint, (replies.peers endpoint).ghosts live⟩ ∈ ghostHolders replies endpoints live := by
  unfold ghostHolders
  rw [if_neg known]
  refine List.mem_filterMap.2 ⟨endpoint, listed, ?_⟩
  exact if_neg (List.ne_nil_of_mem ghost)

private theorem reapable_iff (mem : holder ∈ ghostHolders replies endpoints live) :
    holder.reapable now (refreshGhostSeen now ((ghostHolders replies endpoints live).flatMap
        GhostHolder.ghostIPs) live ghostSeen) = true ↔
      ∃ ip ∈ holder.ghostIPs,
        ∃ time, ghostSeen.lookup ip = some time ∧ ghostReapDebounce ≤ now - time := by
  unfold GhostHolder.reapable
  rw [List.any_eq_true]
  refine exists_congr fun ip => and_congr_right fun ghost => ?_
  have detected : ip ∈ (ghostHolders replies endpoints live).flatMap GhostHolder.ghostIPs :=
    List.mem_flatMap.2 ⟨holder, mem, ghost⟩
  have absent : ip ∉ live := by
    rw [(mem_ghostHolders mem).2] at ghost
    obtain ⟨-, -, -, -, absent⟩ := mem_ghosts.1 ghost
    exact absent
  rw [← refreshGhostSeen_old absent detected]
  split
  · rename_i time stamped
    simp [stamped]
  · rename_i missing
    simp [missing]

/-- The holder of an old ghost, as the code finds it, is a haunted sentinel. -/
theorem haunted_iff :
    Haunted target replies now ghostSeen endpoint ↔
      ∃ ip ∈ (replies.peers endpoint).ghosts (liveSentinelIPSet target.endpoints),
        ∃ time, ghostSeen.lookup ip = some time ∧ ghostReapDebounce ≤ now - time := by
  constructor
  · rintro ⟨ips, peers, ip, mem, named, absent, old⟩
    exact ⟨ip, mem_ghosts.2 ⟨ips, peers, mem, named, absent⟩, old⟩
  · rintro ⟨ip, ghost, old⟩
    obtain ⟨ips, peers, mem, named, absent⟩ := mem_ghosts.1 ghost
    exact ⟨ips, peers, ip, mem, named, absent, old⟩

theorem select_ghost (chosen : (select target now replies ghostSeen).ghost = some endpoint) :
    endpoint ∈ target.endpoints ∧ ReapTarget target replies now ghostSeen endpoint ∧
      endpoint.name ∉ (select target now replies ghostSeen).beingWiped := by
  obtain ⟨reaped, apart⟩ := Option.filter_eq_some_iff.1 chosen
  by_cases known : liveSentinelIPSet target.endpoints = []
  · simp [known] at reaped
  rw [if_neg known] at reaped
  unfold selectGhostReapTarget at reaped
  dsimp only at reaped
  split_ifs at reaped with forbidden
  have allowed : target.allowGhostReap = true := by simpa using forbidden
  obtain ⟨holder, reapable, rfl⟩ := List.mem_map.1 (List.argmin_mem reaped)
  obtain ⟨held, old⟩ := List.mem_filter.1 reapable
  obtain ⟨listed, ghosts⟩ := mem_ghostHolders held
  have haunted : Haunted target replies now ghostSeen holder.endpoint := by
    rw [haunted_iff, ← ghosts]
    exact (reapable_iff held).1 old
  refine ⟨listed, ⟨allowed, haunted, fun other otherListed otherHaunted => ?_⟩,
    of_decide_eq_true apart⟩
  obtain ⟨ip, ghost, otherOld⟩ := haunted_iff.1 otherHaunted
  have otherHeld := exists_ghostHolder known otherListed ghost
  exact List.le_of_mem_argmin (List.mem_map_of_mem (List.mem_filter.2
    ⟨otherHeld, (reapable_iff otherHeld).2 ⟨ip, ghost, otherOld⟩⟩)) reaped

/-! ### The sentinels a pass removes -/

theorem select_repoints (target : Target) (now : Nat) (replies : Replies) (ghostSeen : Stamps) :
    Repoints target replies (select target now replies ghostSeen).emptyPeer.beingWiped
      (select target now replies ghostSeen).repoint :=
  selectRepointTargets_repoints target replies _

theorem select_beingWiped :
    (select target now replies ghostSeen).beingWiped =
      (select target now replies ghostSeen).emptyPeer.beingWiped ++
        (select target now replies ghostSeen).repoint.deadMaster.map Endpoint.name ++
        (select target now replies ghostSeen).repoint.staleEpoch.map Endpoint.name := rfl

/-- The reset targets of a pass that fires. -/
def firing (replies : Replies) (selection : Selection) : List Endpoint :=
  (dropElectingStaleTargets replies selection.repoint selection.resetTargets
    selection.report.staleEpochRepointed).1 ++ selection.ghost.toList

private theorem operate_cases (target : Target) (replies : Replies) (selection : Selection) :
    ((operate target replies selection).removed = [] ∧
        (operate target replies selection).monitored = []) ∨
      ∃ result, operate target replies selection =
        fire target replies (firing replies selection) result selection.ghostSeen := by
  unfold operate firing
  dsimp only
  cases selection.ghost with
  | none =>
      dsimp only
      split_ifs with pruned
      · exact .inl ⟨rfl, rfl⟩
      · rw [Option.toList_none, List.append_nil]
        exact .inr ⟨_, rfl⟩
  | some survivor => exact .inr ⟨_, rfl⟩

/-- A pass touches nothing, or it has passed the gates and fires. -/
theorem recoverStrandedSentinels_cases (deferred bypass : Bool) :
    let outcome := recoverStrandedSentinels target deferred bypass now replies ghostSeen
    let selection := select target now replies ghostSeen
    (outcome.removed = [] ∧ outcome.monitored = []) ∨
      (selection.quorumReachable = true ∧
        replies.ping (GoText.joinHostPort target.masterIP (toString target.port)) = true ∧
        anyFailoverInProgress replies (untouchedSurvivors replies target.endpoints
          selection.ghost selection.beingWiped) = false ∧
        ∃ result, outcome = fire target replies (firing replies selection) result
          selection.ghostSeen) := by
  intro outcome selection
  unfold outcome recoverStrandedSentinels
  dsimp only
  split_ifs with empty deferred idle paced minority down electing
  · exact .inl ⟨rfl, rfl⟩
  · exact .inl ⟨rfl, rfl⟩
  · exact .inl ⟨rfl, rfl⟩
  · exact .inl ⟨rfl, rfl⟩
  · exact .inl ⟨rfl, rfl⟩
  · exact .inl ⟨rfl, rfl⟩
  · exact .inl ⟨rfl, rfl⟩
  · refine (operate_cases target replies _).imp_right fun fires => ⟨?_, ?_, ?_, fires⟩
    · simpa using minority
    · simpa using down
    · simpa using electing

section Distinct

variable (distinct : (target.endpoints.map Endpoint.name).Nodup)

include distinct in
/-- A reset target kept is stranded, orphaned, or stale and quiet. -/
theorem mem_firing {endpoint : Endpoint}
    (mem : endpoint ∈ firing replies (select target now replies ghostSeen)) :
    endpoint ∈ (select target now replies ghostSeen).emptyPeer.resetTargets ∨
      endpoint ∈ (select target now replies ghostSeen).repoint.deadMaster ∨
      endpoint ∈ stillQuiet replies (select target now replies ghostSeen).repoint ∨
      (select target now replies ghostSeen).ghost = some endpoint := by
  rcases List.mem_append.1 mem with reset | ghost
  · obtain ⟨selected, undropped⟩ := List.mem_filter.1 reset
    rcases List.mem_append.1 selected with front | stale
    · rcases List.mem_append.1 front with wiped | dead
      · exact .inl wiped
      · exact .inr (.inl dead)
    · refine .inr (.inr (.inl ?_))
      by_contra electing
      refine of_decide_eq_true undropped (List.mem_filter.2 ⟨List.mem_map_of_mem stale, ?_⟩)
      refine decide_eq_true fun quietName => ?_
      obtain ⟨quiet, mem, same⟩ := List.mem_map.1 quietName
      have repoints := select_repoints target now replies ghostSeen
      have listed := repoints.staleSublist.subset ((stillQuiet_sublist _).subset mem)
      rw [List.inj_on_of_nodup_map distinct listed (repoints.staleSublist.subset stale) same] at mem
      exact electing mem
  · exact .inr (.inr (.inr (Option.mem_toList.1 ghost)))

include distinct in
theorem firing_broken {endpoint : Endpoint}
    (mem : endpoint ∈ firing replies (select target now replies ghostSeen)) :
    endpoint ∈ target.endpoints ∧ Broken target replies now ghostSeen endpoint := by
  have repoints := select_repoints target now replies ghostSeen
  rcases mem_firing distinct mem with wiped | dead | quiet | ghost
  · obtain ⟨listed, stranded, unpaced⟩ := mem_emptyPeer.1 wiped
    exact ⟨listed, .stranded stranded unpaced⟩
  · exact ⟨repoints.deadSublist.subset dead, .orphaned (repoints.dead endpoint dead).2⟩
  · exact ⟨repoints.staleSublist.subset ((stillQuiet_sublist _).subset quiet),
      .lagging (repoints.lagging quiet)⟩
  · obtain ⟨listed, reap, -⟩ := select_ghost ghost
    exact ⟨listed, .reaped reap⟩

include distinct in
private theorem firing_paced {endpoint : Endpoint}
    (mem : endpoint ∈ firing replies (select target now replies ghostSeen))
    (stranded : Stranded replies endpoint) : endpoint.addr ∉ target.skipStrandedAddrs := by
  have repoints := select_repoints target now replies ghostSeen
  have seeded := @mem_seeded target replies now ghostSeen endpoint (firing_broken distinct mem).1
    stranded
  rcases mem_firing distinct mem with wiped | dead | quiet | ghost
  · exact (mem_emptyPeer.1 wiped).2.2
  · exact absurd seeded (repoints.dead endpoint dead).1
  · exact absurd seeded (repoints.stale endpoint ((stillQuiet_sublist _).subset quiet)).1
  · obtain ⟨-, -, apart⟩ := select_ghost ghost
    rw [select_beingWiped] at apart
    exact absurd (List.mem_append_left _ (List.mem_append_left _ seeded)) apart

private theorem Repoints.disjoint (repoints : Repoints target replies beingWiped repoint)
    (dead : endpoint ∈ repoint.deadMaster) : endpoint ∉ repoint.staleEpoch := by
  intro stale
  obtain ⟨host, monitored, -, gone⟩ := (repoints.dead endpoint dead).2.dead
  obtain ⟨other, live, monitored', -⟩ := selects_iff.1 (repoints.stale endpoint stale).2
  cases Option.some.inj (monitored.symm.trans monitored')
  exact gone live

include distinct in
private theorem select_resetTargets_nodup :
    (select target now replies ghostSeen).resetTargets.Nodup := by
  have repoints := select_repoints target now replies ghostSeen
  have endpoints : target.endpoints.Nodup := distinct.of_map
  have seeded : ∀ endpoint ∈ (select target now replies ghostSeen).emptyPeer.resetTargets,
      endpoint.name ∈ (select target now replies ghostSeen).emptyPeer.beingWiped := by
    intro endpoint wiped
    obtain ⟨listed, stranded, -⟩ := mem_emptyPeer.1 wiped
    exact mem_seeded listed stranded
  have wiped : (select target now replies ghostSeen).emptyPeer.resetTargets.Nodup :=
    (endpoints.filter _).filter _
  refine List.nodup_append.2 ⟨List.nodup_append.2 ⟨wiped, endpoints.sublist repoints.deadSublist,
    ?_⟩, endpoints.sublist repoints.staleSublist, ?_⟩
  · rintro endpoint stranded _ dead rfl
    exact (repoints.dead endpoint dead).1 (seeded endpoint stranded)
  · rintro endpoint front _ stale rfl
    rcases List.mem_append.1 front with stranded | dead
    · exact (repoints.stale endpoint stale).1 (seeded endpoint stranded)
    · exact repoints.disjoint dead stale

theorem select_wiped (mem : endpoint ∈ (select target now replies ghostSeen).resetTargets) :
    endpoint.name ∈ (select target now replies ghostSeen).beingWiped := by
  rw [select_beingWiped]
  rcases List.mem_append.1 mem with front | stale
  · refine List.mem_append_left _ ?_
    rcases List.mem_append.1 front with wiped | dead
    · obtain ⟨listed, stranded, -⟩ := mem_emptyPeer.1 wiped
      exact List.mem_append_left _ (mem_seeded listed stranded)
    · exact List.mem_append_right _ (List.mem_map_of_mem dead)
  · exact List.mem_append_right _ (List.mem_map_of_mem stale)

include distinct in
private theorem firing_nodup :
    ((firing replies (select target now replies ghostSeen)).map Endpoint.name).Nodup := by
  refine List.Nodup.map_on (fun first firstMem second secondMem same => ?_) ?_
  · exact List.inj_on_of_nodup_map distinct (firing_broken distinct firstMem).1
      (firing_broken distinct secondMem).1 same
  · refine List.nodup_append.2 ⟨(select_resetTargets_nodup distinct).filter _, ?_, ?_⟩
    · cases (select target now replies ghostSeen).ghost with
      | none => exact List.nodup_nil
      | some survivor => exact List.nodup_singleton survivor
    · rintro endpoint reset _ ghost rfl
      obtain ⟨-, -, apart⟩ := select_ghost (Option.mem_toList.1 ghost)
      exact apart (select_wiped (List.mem_filter.1 reset).1)

include distinct in
private theorem ReapTarget.unique {first second : Endpoint} (firstListed : first ∈ target.endpoints)
    (secondListed : second ∈ target.endpoints)
    (firstReap : ReapTarget target replies now ghostSeen first)
    (secondReap : ReapTarget target replies now ghostSeen second) : first = second :=
  List.inj_on_of_nodup_map distinct firstListed secondListed
    (le_antisymm (firstReap.lowest second secondListed secondReap.haunted)
      (secondReap.lowest first firstListed firstReap.haunted))

end Distinct

/-! ### The commands -/

/-- With distinct names, exactly the removed are registered. -/
theorem fire_monitored {resetTargets : List Endpoint} {result : StrandedRecoveryResult}
    (once : (resetTargets.map Endpoint.name).Nodup) :
    (fire target replies resetTargets result ghostSeen).monitored =
      (resetTargets.filter replies.removes).map fun endpoint =>
        ⟨endpoint, target.masterName, target.masterIP, target.port, target.quorum⟩ := by
  unfold fire
  dsimp only
  refine congrArg (List.map _) (List.filter_congr fun endpoint mem => ?_)
  rw [Bool.eq_iff_iff, decide_eq_true_iff]
  constructor
  · intro named
    obtain ⟨entry, ok, same⟩ := List.mem_map.1 named
    obtain ⟨sent, succeeded⟩ := List.mem_filter.1 ok
    obtain ⟨other, otherMem, rfl⟩ := List.mem_map.1 sent
    rw [← List.inj_on_of_nodup_map once otherMem mem same]
    exact succeeded
  · intro succeeded
    refine List.mem_map.2 ⟨⟨endpoint.name, replies.removes endpoint⟩, ?_, rfl⟩
    exact List.mem_filter.2 ⟨List.mem_map_of_mem mem, succeeded⟩

/-- Surgery touches only sentinels that are broken, whatever they answer. -/
theorem recoverStrandedSentinels_scoped (target : Target) (deferred bypass : Bool) (now : Nat)
    (replies : Replies) (ghostSeen : Stamps)
    (distinct : (target.endpoints.map Endpoint.name).Nodup) :
    Scoped target replies now ghostSeen
      (recoverStrandedSentinels target deferred bypass now replies ghostSeen) := by
  rcases @recoverStrandedSentinels_cases target replies now ghostSeen deferred bypass with
    ⟨untouched, silent⟩ | ⟨quorum, alive, -, result, fires⟩
  · constructor <;> simp [untouched, silent]
  · rw [fires]
    have once := @firing_nodup target replies now ghostSeen distinct
    exact {
      quorum := fun _ => of_decide_eq_true quorum
      alive := fun _ => alive
      once
      known := fun endpoint mem => (firing_broken distinct mem).1
      broken := fun endpoint mem => (firing_broken distinct mem).2
      single := fun first firstMem second secondMem =>
        ReapTarget.unique distinct (firing_broken distinct firstMem).1
          (firing_broken distinct secondMem).1
      paced := fun endpoint mem => firing_paced distinct mem
      monitored := fire_monitored once }

def sentinel (name : String) (host : String) : Endpoint := ⟨name, host ++ ":26379"⟩

/-- Five sentinels, one of each class and one to leave alone. -/
def fiveTargets : Target where
  endpoints := [sentinel "s0" "10.0.1.0", sentinel "s1" "10.0.1.1", sentinel "s2" "10.0.1.2",
    sentinel "s3" "10.0.1.3", sentinel "s4" "10.0.1.4"]
  masterIP := "10.0.0.1"
  allowGhostReap := true
  liveValkeyIPs := ["10.0.0.1", "10.0.0.2"]
  allowStaleEpochRepoint := true

def fiveReplies : Replies where
  peers endpoint :=
    if endpoint.name = "s1" then .peers []
    else if endpoint.name = "s4" then .peers ["10.0.1.0", "10.0.1.9"]
    else .peers ["10.0.1.1"]
  probe endpoint :=
    if endpoint.name = "s2" then some ⟨"10.0.0.7:6379", some 3, "master"⟩
    else if endpoint.name = "s3" then some ⟨"10.0.0.2:6379", some 4, "master"⟩
    else some ⟨"10.0.0.1:6379", some 5, "master"⟩
  replicas _ := some ["10.0.0.8"]
  ping addr := addr = "10.0.0.1:6379"
  survivorFlags _ := some "master"
  targetFlags _ := some "master"
  cohort _ := some ⟨some "master", some 5⟩
  removes endpoint := endpoint.name ≠ "s2"
  monitors _ := true

theorem recoverStrandedSentinels_scoped_five :
    ((recoverStrandedSentinels fiveTargets false false (40 * second) fiveReplies
        [("10.0.1.9", 0)]).removed.map Endpoint.name = ["s1", "s2", "s3", "s4"] ∧
      (recoverStrandedSentinels fiveTargets false false (40 * second) fiveReplies
        [("10.0.1.9", 0)]).monitored.map (fun command => command.endpoint.name) =
          ["s1", "s3", "s4"]) ∧
      Scoped fiveTargets fiveReplies (40 * second) [("10.0.1.9", 0)]
        (recoverStrandedSentinels fiveTargets false false (40 * second) fiveReplies
          [("10.0.1.9", 0)]) :=
  ⟨by decide, recoverStrandedSentinels_scoped fiveTargets false false _ fiveReplies _
    (by decide)⟩

end Surgery

end Velkir
