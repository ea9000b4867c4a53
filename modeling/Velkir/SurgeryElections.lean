import Velkir.SentinelSurgery

/-!
# Elections and epochs around the surgery

A pass asks the survivors, the stale targets and the cohort about elections. What it reads elsewhere
stops nothing.
-/

namespace Velkir

namespace Surgery

section Reads

instance (replies : Replies) (endpoint : Endpoint) : Decidable (Stranded replies endpoint) :=
  instDecidableOr

variable (target : Target) (replies : Replies) (selection : Selection)

/-- A stale target is asked first, then the master's sentinels. -/
def recheckedFlags (endpoint : Endpoint) : List String :=
  (if endpoint ∈ selection.repoint.staleEpoch then (replies.targetFlags endpoint).toList
    else []) ++
  (if recheckElectionQuiet replies selection.repoint.staleEpoch ≠ [] ∧
      endpoint ∈ selection.repoint.staleEpochCohort then
    ((replies.cohort endpoint).bind CohortMasterRead.flags).toList
    else [])

/-- The sentinel is asked whether a failover is in progress. -/
def vetoes (endpoint : Endpoint) : Prop :=
  endpoint ∈ untouchedSurvivors replies target.endpoints selection.ghost selection.beingWiped

instance (endpoint : Endpoint) : Decidable (vetoes target replies selection endpoint) :=
  List.instDecidableMemOfLawfulBEq _ _

/-- The flags a sentinel answers in a pass that fires, in order. -/
def masterReads (endpoint : Endpoint) : List String :=
  (if target.liveValkeyIPs = [] then [] else ((replies.probe endpoint).map ProbeReply.flags).toList)
    ++
  (if vetoes target replies selection endpoint then (replies.survivorFlags endpoint).toList
    else []) ++
  recheckedFlags replies selection endpoint

def failoverInProgress (flags : String) : Bool := GoText.contains flags "failover_in_progress"

/-- A dead-master target that is not dropped with a stale target of its name. -/
def condemned (endpoint : Endpoint) : Prop :=
  endpoint ∈ selection.repoint.deadMaster ∧
    endpoint.name ∉ droppedNames selection.repoint.staleEpoch (stillQuiet replies selection.repoint)

instance (endpoint : Endpoint) : Decidable (condemned replies selection endpoint) :=
  instDecidableAnd

/-- The last answer shows no failover, dead-master targets apart. -/
def Unraced (removed : List Endpoint) : Prop :=
  ∀ endpoint ∈ target.endpoints, ¬ Stranded replies endpoint →
    ¬ (endpoint ∈ selection.repoint.deadMaster ∧ endpoint ∈ removed) →
      ∀ flags ∈ (masterReads target replies selection endpoint).getLast?,
        failoverInProgress flags = false

instance (removed : List Endpoint) : Decidable (Unraced target replies selection removed) :=
  inferInstanceAs (Decidable (∀ endpoint ∈ target.endpoints, _))

/-- No failover shows where the veto does not look. -/
structure Calm : Prop where
  /-- Not in the last look at a stale target or at a sentinel on the resolved master. -/
  rechecked : ∀ endpoint ∈ target.endpoints, ¬ Stranded replies endpoint →
    ¬ condemned replies selection endpoint →
      ∀ flags ∈ (recheckedFlags replies selection endpoint).getLast?,
        failoverInProgress flags = false
  /-- Not in the first probe of a sentinel that answered nothing since: the ghost-reap target, one
  that failed the peer probe, or a survivor that does not answer the question. -/
  probed : ∀ endpoint ∈ target.endpoints, ¬ Stranded replies endpoint →
    ¬ condemned replies selection endpoint → recheckedFlags replies selection endpoint = [] →
      (vetoes target replies selection endpoint → replies.survivorFlags endpoint = none) →
        target.liveValkeyIPs ≠ [] → ∀ reply ∈ replies.probe endpoint,
          failoverInProgress reply.flags = false

end Reads

variable {target : Target} {replies : Replies} {now : Nat} {ghostSeen : Stamps}

variable {endpoint : Endpoint}

section Firing

variable {deferred bypass : Bool}

theorem recoverStrandedSentinels_fires
    (fires : (recoverStrandedSentinels target deferred bypass now replies ghostSeen).removed ≠ []) :
    (recoverStrandedSentinels target deferred bypass now replies ghostSeen).removed =
        firing replies (select target now replies ghostSeen) ∧
      anyFailoverInProgress replies (untouchedSurvivors replies target.endpoints
        (select target now replies ghostSeen).ghost
        (select target now replies ghostSeen).beingWiped) = false := by
  rcases @recoverStrandedSentinels_cases target replies now ghostSeen deferred bypass with
    ⟨untouched, -⟩ | ⟨-, -, veto, result, outcome⟩
  · exact absurd untouched fires
  · refine ⟨?_, veto⟩
    rw [outcome]
    rfl

theorem mem_firing_iff :
    endpoint ∈ firing replies (select target now replies ghostSeen) ↔
      (endpoint ∈ (select target now replies ghostSeen).resetTargets ∧
        endpoint.name ∉ droppedNames (select target now replies ghostSeen).repoint.staleEpoch
          (stillQuiet replies (select target now replies ghostSeen).repoint)) ∨
      (select target now replies ghostSeen).ghost = some endpoint := by
  simp [firing, dropElectingStaleTargets]

private theorem condemned_iff :
    condemned replies (select target now replies ghostSeen) endpoint ↔
      endpoint ∈ (select target now replies ghostSeen).repoint.deadMaster ∧
        endpoint ∈ firing replies (select target now replies ghostSeen) := by
  rw [condemned, mem_firing_iff]
  refine and_congr_right fun dead => ?_
  have reset : endpoint ∈ (select target now replies ghostSeen).resetTargets :=
    List.mem_append_left _ (List.mem_append_right _ dead)
  constructor
  · intro undropped
    exact .inl ⟨reset, undropped⟩
  · rintro (⟨-, undropped⟩ | ghost)
    · exact undropped
    · obtain ⟨-, -, apart⟩ := select_ghost ghost
      exact absurd (select_wiped reset) apart

end Firing

section Latest

variable {selection : Selection} {endpoint : Endpoint} {flags : String}

private theorem latest_of_rechecked (rechecked : recheckedFlags replies selection endpoint ≠ []) :
    (masterReads target replies selection endpoint).getLast? =
      (recheckedFlags replies selection endpoint).getLast? := by
  rw [masterReads, List.getLast?_append_of_ne_nil _ rechecked]

private theorem latest_of_veto (unread : recheckedFlags replies selection endpoint = [])
    (asked : vetoes target replies selection endpoint)
    (answered : replies.survivorFlags endpoint = some flags) :
    (masterReads target replies selection endpoint).getLast? = some flags := by
  simp [masterReads, unread, asked, answered]

private theorem latest_of_probe (unread : recheckedFlags replies selection endpoint = [])
    (silent : vetoes target replies selection endpoint → replies.survivorFlags endpoint = none) :
    (masterReads target replies selection endpoint).getLast? =
      if target.liveValkeyIPs = [] then none
      else (replies.probe endpoint).map ProbeReply.flags := by
  have nothing : (if vetoes target replies selection endpoint then
      (replies.survivorFlags endpoint).toList else []) = [] := by
    split
    next asked => rw [silent asked]; rfl
    next => rfl
  rw [masterReads, unread, nothing, List.append_nil, List.append_nil]
  split
  next => rfl
  next => cases replies.probe endpoint <;> rfl

end Latest

/-- A pass has raced no election it saw exactly when none shows where its veto is blind. -/
theorem recoverStrandedSentinels_unraced_iff (target : Target) (deferred bypass : Bool) (now : Nat)
    (replies : Replies) (ghostSeen : Stamps)
    (fires : (recoverStrandedSentinels target deferred bypass now replies ghostSeen).removed ≠ []) :
    Unraced target replies (select target now replies ghostSeen)
        (recoverStrandedSentinels target deferred bypass now replies ghostSeen).removed ↔
      Calm target replies (select target now replies ghostSeen) := by
  obtain ⟨removed_eq, veto⟩ := recoverStrandedSentinels_fires fires
  rw [removed_eq]
  constructor
  · intro unraced
    refine ⟨?_, ?_⟩
    · intro endpoint listed gossips spared flags last
      refine unraced endpoint listed gossips (fun dead => spared (condemned_iff.mpr dead)) flags ?_
      rw [latest_of_rechecked]
      · exact last
      intro unread
      rw [unread] at last
      cases last
    · intro endpoint listed gossips spared unread silent armed reply answered
      refine unraced endpoint listed gossips (fun dead => spared (condemned_iff.mpr dead)) _ ?_
      rw [latest_of_probe unread silent, if_neg armed, answered]
      exact rfl
  · intro calm endpoint listed gossips kept flags last
    have spared : ¬ condemned replies (select target now replies ghostSeen) endpoint :=
      fun dead => kept (condemned_iff.mp dead)
    by_cases unread : recheckedFlags replies (select target now replies ghostSeen) endpoint = []
    · by_cases silent : vetoes target replies (select target now replies ghostSeen) endpoint →
          replies.survivorFlags endpoint = none
      · rw [latest_of_probe unread silent] at last
        split at last
        next => cases last
        next armed =>
          obtain ⟨reply, answered, rfl⟩ := Option.map_eq_some_iff.mp last
          exact calm.probed endpoint listed gossips spared unread silent armed reply answered
      · -- the survivor answered the veto, which found nothing
        obtain ⟨asked, answered⟩ := Classical.not_imp.mp silent
        obtain ⟨shown, answer⟩ := Option.ne_none_iff_exists'.mp answered
        rw [latest_of_veto unread asked answer] at last
        cases last
        have quiet := List.any_eq_false.mp veto endpoint asked
        rw [answer] at quiet
        exact Bool.eq_false_iff.mpr quiet
    · rw [latest_of_rechecked unread] at last
      exact calm.rechecked endpoint listed gossips spared flags last

/-- One sentinel without peers, one behind, one on the master. -/
def threeTargets : Target where
  endpoints := [sentinel "s0" "10.0.1.0", sentinel "s1" "10.0.1.1", sentinel "s2" "10.0.1.2"]
  masterIP := "10.0.0.1"
  allowGhostReap := true
  liveValkeyIPs := ["10.0.0.1", "10.0.0.2"]
  allowStaleEpochRepoint := true

/-- The second sentinel starts a failover between the probe and the last look. -/
def failoverReplies : Replies where
  peers endpoint := if endpoint.name = "s0" then .peers [] else .peers ["10.0.1.0"]
  probe endpoint :=
    if endpoint.name = "s1" then some ⟨"10.0.0.2:6379", some 4, "master"⟩
    else some ⟨"10.0.0.1:6379", some 5, "master"⟩
  replicas _ := some ["10.0.0.2"]
  ping addr := addr = "10.0.0.1:6379"
  survivorFlags _ := some "master"
  targetFlags _ := some "master,failover_in_progress"
  cohort _ := some ⟨some "master", some 5⟩
  removes _ := true
  monitors _ := true

/-- The second sentinel drives a failover and knows a peer that is long gone. -/
def hauntedReplies : Replies :=
  { failoverReplies with
    peers := fun _ => .peers ["10.0.1.0", "10.0.1.9"]
    probe := fun endpoint =>
      if endpoint.name = "s0" then some ⟨"10.0.0.1:6379", some 5, "master,failover_in_progress"⟩
      else some ⟨"10.0.0.1:6379", some 5, "master"⟩ }

/-- A dropped target does not stop the others, and the ghost's is removed in its own failover. -/
theorem recoverStrandedSentinels_races :
    ((recoverStrandedSentinels threeTargets false false 0 failoverReplies []).removed =
        [sentinel "s0" "10.0.1.0"] ∧
      ¬ Unraced threeTargets failoverReplies (select threeTargets 0 failoverReplies [])
        (recoverStrandedSentinels threeTargets false false 0 failoverReplies []).removed) ∧
    (recoverStrandedSentinels threeTargets false false (40 * second) hauntedReplies
        [("10.0.1.9", 0)]).removed = [sentinel "s0" "10.0.1.0"] ∧
      ¬ Unraced threeTargets hauntedReplies
        (select threeTargets (40 * second) hauntedReplies [("10.0.1.9", 0)])
        (recoverStrandedSentinels threeTargets false false (40 * second) hauntedReplies
          [("10.0.1.9", 0)]).removed := by
  decide

theorem recoverStrandedSentinels_unraced_five :
    (recoverStrandedSentinels fiveTargets false false (40 * second) fiveReplies
        [("10.0.1.9", 0)]).removed ≠ [] ∧
      Unraced fiveTargets fiveReplies
        (select fiveTargets (40 * second) fiveReplies [("10.0.1.9", 0)])
        (recoverStrandedSentinels fiveTargets false false (40 * second) fiveReplies
          [("10.0.1.9", 0)]).removed := by
  have fires : (recoverStrandedSentinels fiveTargets false false (40 * second) fiveReplies
      [("10.0.1.9", 0)]).removed ≠ [] := by
    decide
  exact ⟨fires, (recoverStrandedSentinels_unraced_iff fiveTargets false false _ fiveReplies _
    fires).mpr ⟨by decide, by decide⟩⟩

/-- It monitored the resolved master, at an epoch not below the frontier. -/
def HoldsFrontier (target : Target) (replies : Replies) (frontier : Int) (endpoint : Endpoint) :
    Prop :=
  monitoredHost replies endpoint = some target.masterIP ∧
    ∃ epoch, (probedEpoch replies endpoint = some epoch ∨
      freshEpoch replies endpoint = some epoch) ∧ frontier ≤ epoch

/-- On the master only those without peers or with a ghost go. -/
theorem mem_firing_of_master (listed : endpoint ∈ target.endpoints)
    (onMaster : monitoredHost replies endpoint = some target.masterIP) :
    endpoint ∈ firing replies (select target now replies ghostSeen) ↔
      (Stranded replies endpoint ∧ endpoint.addr ∉ target.skipStrandedAddrs) ∨
        (select target now replies ghostSeen).ghost = some endpoint := by
  have repoints := select_repoints target now replies ghostSeen
  rw [mem_firing_iff]
  refine or_congr_left ?_
  constructor
  · rintro ⟨reset, -⟩
    rcases List.mem_append.mp reset with front | stale
    · rcases List.mem_append.mp front with wiped | dead
      · exact (mem_emptyPeer.mp wiped).2
      · obtain ⟨host, monitored, other, -⟩ := (repoints.dead endpoint dead).2.dead
        rw [onMaster] at monitored
        cases monitored
        exact absurd rfl other
    · obtain ⟨host, -, monitored, other, -⟩ :=
        EpochFrontier.selects_iff.mp (repoints.stale endpoint stale).2
      exact absurd (Option.some.inj (monitored.symm.trans onMaster)) other
  · rintro ⟨stranded, unpaced⟩
    refine ⟨List.mem_append_left _ (List.mem_append_left _
      (mem_emptyPeer.mpr ⟨listed, stranded, unpaced⟩)), ?_⟩
    -- no stale target has the name of a sentinel without peers
    intro dropped
    obtain ⟨other, stale, same⟩ := List.mem_map.mp (List.mem_of_mem_filter dropped)
    have apart := (repoints.stale other stale).1
    rw [same] at apart
    exact apart (mem_seeded listed stranded)

/-- A witness of the frontier is kept exactly when one has peers, or is paced, and no ghost. -/
theorem recoverStrandedSentinels_keeps_frontier_iff (target : Target) (deferred bypass : Bool)
    (now : Nat) (replies : Replies) (ghostSeen : Stamps)
    (repoints : ∃ endpoint ∈ (select target now replies ghostSeen).repoint.staleEpoch,
      endpoint ∈ (recoverStrandedSentinels target deferred bypass now replies ghostSeen).removed) :
    (∃ witness ∈ target.endpoints,
        HoldsFrontier target replies (select target now replies ghostSeen).repoint.agreeEpoch
          witness ∧
        witness ∉
          (recoverStrandedSentinels target deferred bypass now replies ghostSeen).removed) ↔
      ∃ witness ∈ target.endpoints,
        HoldsFrontier target replies (select target now replies ghostSeen).repoint.agreeEpoch
          witness ∧
        (Stranded replies witness → witness.addr ∈ target.skipStrandedAddrs) ∧
        (select target now replies ghostSeen).ghost ≠ some witness := by
  obtain ⟨stale, -, fired⟩ := repoints
  obtain ⟨removed_eq, -⟩ := recoverStrandedSentinels_fires (List.ne_nil_of_mem fired)
  rw [removed_eq]
  refine exists_congr fun witness => and_congr_right fun listed => and_congr_right fun holds => ?_
  rw [mem_firing_of_master listed holds.1, not_or, not_and_not_right]

/-- The sentinel on the master has no peers, the third is silent. -/
def lonelyReplies : Replies :=
  { failoverReplies with
    peers := fun endpoint =>
      if endpoint.name = "s0" then .peers [] else if endpoint.name = "s1" then .peers ["10.0.1.0"]
      else .failed
    probe := fun endpoint => if endpoint.name = "s2" then none else failoverReplies.probe endpoint
    targetFlags := fun _ => some "master" }

/-- The last sentinel that knows the newest epoch is wiped, too. -/
theorem recoverStrandedSentinels_loses_frontier :
    (recoverStrandedSentinels threeTargets false false 0 lonelyReplies []).removed =
        [sentinel "s0" "10.0.1.0", sentinel "s1" "10.0.1.1"] ∧
      sentinel "s1" "10.0.1.1" ∈ (select threeTargets 0 lonelyReplies []).repoint.staleEpoch ∧
      ¬ ∃ witness ∈ threeTargets.endpoints,
        HoldsFrontier threeTargets lonelyReplies
          (select threeTargets 0 lonelyReplies []).repoint.agreeEpoch witness ∧
        witness ∉ (recoverStrandedSentinels threeTargets false false 0 lonelyReplies
          []).removed := by
  have removed : (recoverStrandedSentinels threeTargets false false 0 lonelyReplies []).removed =
      [sentinel "s0" "10.0.1.0", sentinel "s1" "10.0.1.1"] := by
    decide
  have all : ∀ endpoint ∈ threeTargets.endpoints,
      monitoredHost lonelyReplies endpoint = some threeTargets.masterIP →
        endpoint ∈ [sentinel "s0" "10.0.1.0", sentinel "s1" "10.0.1.1"] := by
    decide
  rw [removed]
  refine ⟨rfl, by decide, ?_⟩
  rintro ⟨witness, listed, ⟨onMaster, -⟩, kept⟩
  exact kept (all witness listed onMaster)

theorem recoverStrandedSentinels_keeps_frontier_five :
    sentinel "s3" "10.0.1.3" ∈ (recoverStrandedSentinels fiveTargets false false (40 * second)
        fiveReplies [("10.0.1.9", 0)]).removed ∧
      ∃ witness ∈ fiveTargets.endpoints,
        HoldsFrontier fiveTargets fiveReplies
          (select fiveTargets (40 * second) fiveReplies [("10.0.1.9", 0)]).repoint.agreeEpoch
          witness ∧
        witness ∉ (recoverStrandedSentinels fiveTargets false false (40 * second) fiveReplies
          [("10.0.1.9", 0)]).removed := by
  have run : sentinel "s3" "10.0.1.3" ∈ (recoverStrandedSentinels fiveTargets false false
        (40 * second) fiveReplies [("10.0.1.9", 0)]).removed ∧
      sentinel "s3" "10.0.1.3" ∈ (select fiveTargets (40 * second) fiveReplies
        [("10.0.1.9", 0)]).repoint.staleEpoch ∧
      (select fiveTargets (40 * second) fiveReplies [("10.0.1.9", 0)]).repoint.agreeEpoch ≤ 5 ∧
      (select fiveTargets (40 * second) fiveReplies [("10.0.1.9", 0)]).ghost ≠
        some (sentinel "s0" "10.0.1.0") := by
    decide
  obtain ⟨removed, stale, frontier, notGhost⟩ := run
  refine ⟨removed, ?_⟩
  rw [recoverStrandedSentinels_keeps_frontier_iff fiveTargets false false _ fiveReplies _
    ⟨_, stale, removed⟩]
  exact ⟨sentinel "s0" "10.0.1.0", by decide,
    ⟨by decide, 5, .inl (by decide), frontier⟩, by decide, notGhost⟩

end Surgery

end Velkir
