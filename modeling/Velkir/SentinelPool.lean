import Mathlib.Data.List.Sort
import Velkir.Observer

/-!
# The observer of a sentinel pool

Phase 11 ensures an observer for the listed sentinel pods with an address. Its majority is counted
over these.
-/

namespace Velkir

def defaultSentinelPort : String := "26379"

/-- Pods without an address are skipped. -/
def sentinelEndpointsFromPodList (pods : List Pod) : List Endpoint :=
  pods.filterMap fun pod =>
    if pod.podIP = "" then none
    else some ⟨pod.name, GoText.joinHostPort pod.podIP defaultSentinelPort⟩

/-- What `Ensure` refuses with. -/
inductive EnsureError
  | masterNameRequired
  | noEndpoints
  | managerNotStarted
  deriving DecidableEq

/-- The observer need not be replaced. -/
def observerConfigEqual (observer : Observer) (masterName password : String)
    (endpoints : List Endpoint) : Bool :=
  observer.masterName = masterName ∧ observer.password = password ∧
    observer.endpoints = endpoints

/-- The observer that runs afterwards; `managed` is the one before. -/
def ensure (started : Bool) (masterName password : String) (endpoints : List Endpoint) (now : Nat)
    (managed : Option Observer) : Except EnsureError Observer :=
  if masterName = "" then .error .masterNameRequired
  else if endpoints = [] then .error .noEndpoints
  else
    let sorted := endpoints.insertionSort fun left right => left.name ≤ right.name
    if !started then .error .managerNotStarted
    else
      match managed with
      | some observer =>
          -- A live observer with the same configuration keeps its state.
          if observerConfigEqual observer masterName password sorted then .ok observer
          else .ok (newObserver masterName password sorted now)
      | none => .ok (newObserver masterName password sorted now)

/-- What Phase 11 finds. -/
structure EnsureInput where
  wired : Bool := true
  started : Bool := true
  /-- The listed sentinel pods; absent if the list failed. -/
  pods : Option (List Pod) := some []
  password : String := ""
  now : Nat := 0

/-- The head of Phase 11: the observer for the listed pods, if any. -/
def ensureObserver (spec : Spec) (input : EnsureInput) (managed : Option Observer) :
    Option Observer :=
  if !spec.hasSentinel ∨ !input.wired then none
  else
    match input.pods with
    | none => none
    | some pods =>
        let endpoints := sentinelEndpointsFromPodList pods
        if pods = [] ∨ endpoints = [] then none
        else
          (ensure input.started spec.masterName input.password endpoints input.now managed).toOption

private theorem sentinelEndpointsFromPodList_length (pods : List Pod) :
    (sentinelEndpointsFromPodList pods).length = pods.countP fun pod => pod.podIP ≠ "" := by
  induction pods with
  | nil => rfl
  | cons pod pods ih =>
      unfold sentinelEndpointsFromPodList at ih ⊢
      by_cases empty : pod.podIP = ""
      · simp [empty, ih]
      · simp [empty, ih]

variable {observer : Observer} {managed : Option Observer}

private theorem ensure_endpoints {started : Bool} {masterName password : String}
    {endpoints : List Endpoint}
    {now : Nat} (ok : ensure started masterName password endpoints now managed = .ok observer) :
    observer.endpoints.length = endpoints.length ∧ endpoints ≠ [] := by
  unfold ensure at ok
  dsimp only at ok
  split_ifs at ok with unnamed empty stopped
  refine ⟨?_, empty⟩
  have fresh : (newObserver masterName password (endpoints.insertionSort
      fun left right => left.name ≤ right.name) now).endpoints.length = endpoints.length :=
    List.length_insertionSort _ _
  cases managed with
  | none =>
      cases ok
      exact fresh
  | some live =>
      dsimp only at ok
      split_ifs at ok with same
      · cases ok
        rw [(of_decide_eq_true same).2.2]
        exact List.length_insertionSort _ _
      · cases ok
        exact fresh

private theorem ensureObserver_endpoints {spec : Spec} {input : EnsureInput} {pods : List Pod}
    (listed : input.pods = some pods)
    (ensured : ensureObserver spec input managed = some observer) :
    observer.endpoints.length = (pods.countP fun pod => pod.podIP ≠ "") ∧
      0 < observer.endpoints.length := by
  unfold ensureObserver at ensured
  rw [listed] at ensured
  dsimp only at ensured
  split_ifs at ensured with skipped missing
  cases result : ensure input.started spec.masterName input.password
      (sentinelEndpointsFromPodList pods) input.now managed with
  | error error =>
      rw [result] at ensured
      cases ensured
  | ok live =>
      rw [result] at ensured
      cases ensured
      obtain ⟨length, some⟩ := ensure_endpoints result
      rw [length]
      exact ⟨sentinelEndpointsFromPodList_length pods, List.length_pos_iff.mpr some⟩

namespace Observer

/-- The first sentinels answer alike. -/
def firstAnswer (count : Nat) (reply : SentinelReply) : Replies :=
  fun i => if i < count then some reply else none

private theorem reached_firstAnswer {count : Nat} (observer : Observer) (reply : SentinelReply)
    (enough : count ≤ observer.endpoints.length) :
    observer.reached (firstAnswer count reply) = List.replicate count reply := by
  have split : List.range observer.endpoints.length = List.range count ++
      (List.range (observer.endpoints.length - count)).map (count + ·) := by
    rw [← List.range_add, Nat.add_sub_cancel' enough]
  have heard : (List.range count).filterMap (firstAnswer count reply) =
      List.replicate count reply := by
    rw [List.eq_replicate_iff]
    constructor
    · rw [List.filterMap_length_eq_length.mpr]
      · exact List.length_range
      · intro i mem
        simp [firstAnswer, List.mem_range.mp mem]
    · intro answer mem
      obtain ⟨i, inside, answered⟩ := List.mem_filterMap.mp mem
      simpa [firstAnswer, List.mem_range.mp inside, eq_comm] using answered
  have silent : ((List.range (observer.endpoints.length - count)).map (count + ·)).filterMap
      (firstAnswer count reply) = [] := by
    rw [List.filterMap_eq_nil_iff]
    intro i mem
    obtain ⟨j, _, rfl⟩ := List.mem_map.mp mem
    simp [firstAnswer]
  rw [reached, split, List.filterMap_append, heard, silent, List.append_nil]

private theorem winner_replicate {count : Nat} (pos : 0 < count) (incumbent : String)
    {reply : SentinelReply} (named : reply.addr ≠ "") :
    winner incumbent (List.replicate count reply) = reply.addr := by
  have nonzero : count ≠ 0 := Nat.pos_iff_ne_zero.mp pos
  simp [winner, addrCount, named, nonzero, List.replicate_dedup, Plurality.leader,
    Plurality.better, pos]

/-- Answers of a majority of the endpoints are enough. -/
theorem pollOnce_firstAnswer (pos : 0 < observer.endpoints.length) (reply : SentinelReply)
    (named : reply.addr ≠ "") (passes : reply.quorumOK = true) (now : Nat) :
    let replies := firstAnswer (quorumThreshold observer.endpoints.length) reply
    (observer.pollOnce replies now).snapshot.quorumOK = true ∧
      addrQuorumCount (observer.reached replies) (observer.pollOnce replies now).snapshot.addr =
        quorumThreshold observer.endpoints.length := by
  intro replies
  have answers := reached_firstAnswer observer reply
    (quorumThreshold_le observer.endpoints.length)
  have won := winner_replicate (quorumThreshold_pos pos) observer.snapshot.addr named
  have count : addrQuorumCount (observer.reached replies) reply.addr =
      quorumThreshold observer.endpoints.length := by
    rw [answers]
    simp [addrQuorumCount, List.countP_replicate, named, passes]
  rw [answers] at count
  have published : (observer.pollOnce replies now).snapshot.quorumOK = true ∧
      (observer.pollOnce replies now).snapshot.addr = reply.addr := by
    simp [pollOnce, replies, answers, won, count, publishLocked]
  rw [published.2, answers]
  exact ⟨published.1, count⟩

/-- Agreement after a poll is that of a majority of this pool. -/
def PollsMajority (observer : Observer) (pool : Nat) : Prop :=
  ∀ acts replies now,
    ((observer.run acts).pollOnce replies now).snapshot.quorumOK = true →
      quorumThreshold pool ≤ addrQuorumCount (observer.reached replies)
        ((observer.run acts).pollOnce replies now).snapshot.addr

private theorem pollsMajority_iff (pos : 0 < observer.endpoints.length) (pool : Nat) :
    observer.PollsMajority pool ↔
      quorumThreshold pool ≤ quorumThreshold observer.endpoints.length := by
  constructor
  · intro polls
    obtain ⟨ok, count⟩ := pollOnce_firstAnswer pos { addr := "a", quorumOK := true }
      (by decide) rfl 0
    exact (polls [] _ 0 ok).trans_eq count
  · intro enough acts replies now ok
    have agree := pollOnce_agree ((pollOnce_quorumOK replies now _).mp ok)
    rw [run_endpoints, reached_of_endpoints (run_endpoints acts observer)] at agree
    exact enough.trans agree

end Observer

/-- Agreement is the pool's exactly if both majorities are the same. -/
theorem ensureObserver_pollsMajority_iff {spec : Spec} {input : EnsureInput}
    {managed : Option Observer} {observer : Observer} {pods : List Pod}
    (listed : input.pods = some pods)
    (ensured : ensureObserver spec input managed = some observer) (replicas : Nat) :
    observer.PollsMajority replicas ↔
      quorumThreshold replicas ≤ quorumThreshold (pods.countP fun pod => pod.podIP ≠ "") := by
  obtain ⟨length, pos⟩ := ensureObserver_endpoints listed ensured
  rw [Observer.pollsMajority_iff pos, length]

/-- Three sentinel pods, of which one has an address. -/
def oneAddressable : List Pod :=
  [{ name := "s-0", podIP := "10.0.0.1" }, { name := "s-1" }, { name := "s-2" }]

def sentinelSpec : Spec := { mode := .sentinel, masterName := "m" }

def oneAddressableInput : EnsureInput := { pods := some oneAddressable, now := 1 }

def oneSentinelObserver : Observer :=
  newObserver "m" "" [⟨"s-0", "10.0.0.1:26379"⟩] 1

/-- One sentinel of a pool of three is published as agreement. -/
theorem ensureObserver_polls_one :
    ensureObserver sentinelSpec oneAddressableInput none = some oneSentinelObserver ∧
      (oneSentinelObserver.pollOnce
        (Observer.firstAnswer 1 { addr := "10.0.1.1:6379", quorumOK := true }) 2).snapshot.quorumOK
          = true ∧
      Observer.addrQuorumCount (oneSentinelObserver.reached
        (Observer.firstAnswer 1 { addr := "10.0.1.1:6379", quorumOK := true }))
          "10.0.1.1:6379" = 1 ∧
      quorumThreshold 3 = 2 := by
  decide

def allAddressable : List Pod :=
  [{ name := "s-0", podIP := "10.0.0.1" }, { name := "s-1", podIP := "10.0.0.2" },
    { name := "s-2", podIP := "10.0.0.3" }]

def allAddressableInput : EnsureInput := { pods := some allAddressable, now := 1 }

/-- With all three pods addressable the pool's majority is asked for. -/
theorem ensureObserver_pollsMajority_all :
    ensureObserver sentinelSpec allAddressableInput none =
        some (newObserver "m" "" Observer.threeSentinels 1) ∧
      (newObserver "m" "" Observer.threeSentinels 1).PollsMajority 3 := by
  have ensured : ensureObserver sentinelSpec allAddressableInput none =
      some (newObserver "m" "" Observer.threeSentinels 1) := by
    decide
  have listed : allAddressableInput.pods = some allAddressable := rfl
  exact ⟨ensured, (ensureObserver_pollsMajority_iff listed ensured 3).mpr (by decide)⟩

end Velkir
