import Mathlib.Data.List.Dedup
import Mathlib.Data.String.Basic
import Velkir.Machine
import Velkir.Plurality
import Velkir.QuorumGate
import Velkir.World

/-!
# The sentinel observer

A poll asks every endpoint and counts the answers, frames arrive in between, and both publish a
snapshot.
-/

namespace Velkir

/-- A sentinel by name and address. -/
structure Endpoint where
  name : String
  addr : String
  deriving DecidableEq

/-- How an address reached the snapshot. -/
inductive Source
  | none
  | pubsub
  | poll
  | merge
  deriving DecidableEq

/-- Markers in the `flags` field of one sentinel's reply. -/
structure MasterFlags where
  sDown : Bool := false
  oDown : Bool := false
  deriving DecidableEq

/-- What one endpoint answers to a poll. -/
structure SentinelReply where
  addr : String := ""
  epoch : Int := 0
  quorumOK : Bool := false
  /-- Absent if the field could not be read. -/
  flags : Option MasterFlags := none
  deriving DecidableEq

/-- The answers to one poll by endpoint; `none` stands for an error. -/
abbrev Replies := Nat → Option SentinelReply

/-- A decoded frame of a subscription. -/
inductive EventFrame
  | switchMaster (masterName oldAddr newAddr : String)
  | odown (masterName : String)
  | odownClear (masterName : String)
  /-- The end of a failover, with or without a timeout. -/
  | failoverEnd (masterName addr : String)
  /-- Only counted. -/
  | other
  deriving DecidableEq

/-- The address a frame carries. -/
def EventFrame.carried : EventFrame → Option String
  | .switchMaster _ _ newAddr => some newAddr
  | .failoverEnd _ addr => some addr
  | .odown _ | .odownClear _ | .other => none

/-- Times by sentinel name. -/
abbrev Stamps := List (String × Nat)

/-- Forget the stamp of a name. -/
def removeStamp (name : String) (stamps : Stamps) : Stamps :=
  stamps.filter fun entry => entry.1 ≠ name

/-- Stamp a name. -/
def setStamp (name : String) (time : Nat) (stamps : Stamps) : Stamps :=
  (name, time) :: removeStamp name stamps

/-- What the observer publishes. -/
structure ObserverSnapshot where
  addr : String := ""
  epoch : Int := 0
  quorum : QuorumStatus := .unknown
  quorumOK : Bool := false
  updatedAt : Nat := 0
  lastPolledAt : Nat := 0
  source : Source := .none
  odown : Stamps := []
  odownPull : Stamps := []
  deriving DecidableEq

/-- The part of a snapshot that a pass reads. -/
def ObserverSnapshot.observed (snapshot : ObserverSnapshot) : ObservedPrimary :=
  { addr := snapshot.addr
    epoch := snapshot.epoch
    quorumOK := snapshot.quorumOK
    lastPolledAt := snapshot.lastPolledAt }

/-- The state of an observer. -/
structure Observer where
  masterName : String
  password : String := ""
  endpoints : List Endpoint
  snapshot : ObserverSnapshot := {}
  odown : Stamps := []
  odownPull : Stamps := []
  deriving DecidableEq

/-- A started observer has published a placeholder. -/
def newObserver (masterName password : String) (endpoints : List Endpoint) (now : Nat) :
    Observer :=
  { masterName, password, endpoints, snapshot := { updatedAt := now } }

/-- Majority of a pool; small pools must agree in full. -/
def quorumThreshold (n : Nat) : Nat :=
  if n ≤ 2 then n else n / 2 + 1

/-- Prefer the incumbent, and otherwise the smaller address. -/
def breakAddrTie (x y incumbent : String) : String :=
  Plurality.prefer incumbent x y

/-- What one poll read of one endpoint's down markers. -/
structure ODownPullObs where
  name : String
  flags : Option MasterFlags

/-- Fold polled down markers into the stamps. -/
def reconcileODownPull (observations : List ODownPullObs) (now : Nat) (stamps : Stamps) : Stamps :=
  observations.foldl (fun stamps observation =>
    match observation.flags with
    | none => stamps
    | some flags =>
        if flags.oDown then
          -- The stamp is that of the first sighting.
          if observation.name ∈ stamps.map Prod.fst then stamps
          else setStamp observation.name now stamps
        else removeStamp observation.name stamps) stamps

namespace Observer

/-- Up to two endpoints push frames. -/
def subscriptions (observer : Observer) : List Endpoint :=
  observer.endpoints.take 2

/-- Publish a snapshot under the lock. -/
def publishLocked (quorum : QuorumStatus) (addr : String) (epoch : Int) (source : Source)
    (lastPolledAt now : Nat) (observer : Observer) : Observer :=
  { observer with
    snapshot :=
      { addr, epoch, quorum, lastPolledAt, source
        quorumOK := quorum = .ok
        updatedAt := now
        odown := observer.odown
        odownPull := observer.odownPull } }

/-- Publish an address and a source; the rest is left to a poll. -/
def republish (addr : String) (source : Source) (now : Nat) (observer : Observer) : Observer :=
  let prev := observer.snapshot
  observer.publishLocked prev.quorum addr prev.epoch source prev.lastPolledAt now

/-- Handle a pushed frame. -/
def dispatch (endpoint : Endpoint) (frame : EventFrame) (now : Nat) (observer : Observer) :
    Observer :=
  let prev := observer.snapshot
  match frame with
  | .switchMaster masterName oldAddr newAddr =>
      if masterName ≠ observer.masterName then observer
      -- A frame that does not chain from the current address is dropped.
      else if prev.addr ≠ "" ∧ oldAddr ≠ prev.addr then observer
      else observer.republish newAddr .pubsub now
  | .odown masterName =>
      if masterName ≠ observer.masterName then observer
      else { observer with odown := setStamp endpoint.name now observer.odown }.republish
        prev.addr prev.source now
  | .odownClear masterName =>
      if masterName ≠ observer.masterName then observer
      else { observer with odown := removeStamp endpoint.name observer.odown }.republish
        prev.addr prev.source now
  | .failoverEnd masterName addr =>
      if masterName ≠ observer.masterName then observer
      else observer.republish addr .pubsub now
  | .other => observer

/-- The answers that arrived. -/
def reached (replies : Replies) (observer : Observer) : List SentinelReply :=
  (List.range observer.endpoints.length).filterMap replies

/-- The addresses that were reported, with their votes. -/
def addrCount (reached : List SentinelReply) : List (String × Nat) :=
  let reported := (reached.map SentinelReply.addr).filter (· ≠ "")
  reported.dedup.map fun addr => (addr, reported.count addr)

/-- The answers that report this address and pass the quorum check. -/
def addrQuorumCount (reached : List SentinelReply) (addr : String) : Nat :=
  reached.countP fun reply => reply.addr ≠ "" ∧ reply.addr = addr ∧ reply.quorumOK

/-- The highest epoch among the replies. -/
def maxEpoch (reached : List SentinelReply) : Int :=
  reached.foldl (fun highest reply => if highest < reply.epoch then reply.epoch else highest) 0

/-- The address with the most votes. -/
def winner (incumbent : String) (reached : List SentinelReply) : String :=
  Plurality.leader (fun x y => breakAddrTie x y incumbent) "" (addrCount reached)

/-- Down markers read by this poll, one entry for each endpoint. -/
def odownObs (replies : Replies) (observer : Observer) : List ODownPullObs :=
  observer.endpoints.mapIdx fun i endpoint =>
    { name := endpoint.name, flags := (replies i).bind SentinelReply.flags }

/-- Poll every sentinel once. -/
def pollOnce (replies : Replies) (now : Nat) (observer : Observer) : Observer :=
  let reached := observer.reached replies
  let threshold := quorumThreshold observer.endpoints.length
  let prev := observer.snapshot
  let epoch := max prev.epoch (maxEpoch reached)
  let observer := { observer with
    odownPull := reconcileODownPull (observer.odownObs replies) now observer.odownPull }
  if reached.length < threshold then observer.publishLocked .unknown prev.addr epoch .poll now now
  else
    let winner := winner prev.addr reached
    let quorumOK := threshold ≤ addrQuorumCount reached winner
    let source := if prev.addr ≠ "" ∧ prev.addr = winner then .merge else .poll
    observer.publishLocked (if quorumOK then .ok else .lost)
      (if quorumOK then winner else prev.addr) epoch source now now

end Observer

/-- One critical section of the observer. -/
inductive ObserverAct
  | poll (replies : Replies) (now : Nat)
  | frame (subscription : Nat) (frame : EventFrame) (now : Nat)

def ObserverAct.isPoll : ObserverAct → Bool
  | .poll .. => true
  | .frame .. => false

namespace Observer

/-- One act of an observer. -/
def step : ObserverAct → Observer → Observer
  | .poll replies now, observer => observer.pollOnce replies now
  | .frame subscription frame now, observer =>
      match observer.subscriptions[subscription]? with
      | some endpoint => observer.dispatch endpoint frame now
      | none => observer

/-- The observer after these acts. -/
def run (acts : List ObserverAct) (observer : Observer) : Observer :=
  Machine.run step acts observer

theorem winner_perm (incumbent : String) (reached : List SentinelReply)
    {counts : List (String × Nat)} (perm : counts.Perm (addrCount reached)) :
    Plurality.leader (fun x y => breakAddrTie x y incumbent) "" counts =
      winner incumbent reached :=
  Plurality.leader_perm (Plurality.prefer_comm incumbent) (Plurality.prefer_assoc incumbent) perm

private theorem addrQuorumCount_empty (reached : List SentinelReply) :
    addrQuorumCount reached "" = 0 := by
  unfold addrQuorumCount
  rw [List.countP_eq_zero]
  intro reply _
  simp
  tauto

theorem quorumThreshold_pos {n : Nat} (pos : 0 < n) : 0 < quorumThreshold n := by
  unfold quorumThreshold
  split <;> omega

theorem quorumThreshold_le (n : Nat) : quorumThreshold n ≤ n := by
  unfold quorumThreshold
  split <;> omega

/-- A frame may change the address, the source and the pushed down markers. -/
structure Pushed (before after : Observer) : Prop where
  masterName : after.masterName = before.masterName
  endpoints : after.endpoints = before.endpoints
  quorum : after.snapshot.quorum = before.snapshot.quorum
  epoch : after.snapshot.epoch = before.snapshot.epoch
  lastPolledAt : after.snapshot.lastPolledAt = before.snapshot.lastPolledAt
  odownPull : after.odownPull = before.odownPull

theorem Pushed.refl (observer : Observer) : Pushed observer observer :=
  ⟨rfl, rfl, rfl, rfl, rfl, rfl⟩

/-- A frame is ignored, or publishes its address or another down marker. -/
theorem dispatch_cases (endpoint : Endpoint) (frame : EventFrame) (now : Nat)
    (observer : Observer) :
    observer.dispatch endpoint frame now = observer ∨
      (∃ addr, frame.carried = some addr ∧
        observer.dispatch endpoint frame now = observer.republish addr .pubsub now) ∨
      ∃ odown, (odown = setStamp endpoint.name now observer.odown ∨
          odown = removeStamp endpoint.name observer.odown) ∧
        observer.dispatch endpoint frame now = { observer with odown }.republish
          observer.snapshot.addr observer.snapshot.source now := by
  unfold dispatch
  cases frame with
  | switchMaster masterName oldAddr newAddr =>
      dsimp only
      split_ifs
      · exact .inl rfl
      · exact .inl rfl
      · exact .inr (.inl ⟨newAddr, rfl, rfl⟩)
  | odown masterName =>
      dsimp only
      split_ifs
      · exact .inl rfl
      · exact .inr (.inr ⟨_, .inl rfl, rfl⟩)
  | odownClear masterName =>
      dsimp only
      split_ifs
      · exact .inl rfl
      · exact .inr (.inr ⟨_, .inr rfl, rfl⟩)
  | failoverEnd masterName addr =>
      dsimp only
      split_ifs
      · exact .inl rfl
      · exact .inr (.inl ⟨addr, rfl, rfl⟩)
  | other => exact .inl rfl

theorem dispatch_pushed (endpoint : Endpoint) (frame : EventFrame) (now : Nat)
    (observer : Observer) : Pushed observer (observer.dispatch endpoint frame now) := by
  rcases dispatch_cases endpoint frame now observer with same | ⟨addr, -, eq⟩ | ⟨odown, -, eq⟩
  · rw [same]
    exact .refl observer
  · rw [eq]
    exact ⟨rfl, rfl, rfl, rfl, rfl, rfl⟩
  · rw [eq]
    exact ⟨rfl, rfl, rfl, rfl, rfl, rfl⟩

@[simp]
theorem pollOnce_endpoints (replies : Replies) (now : Nat) (observer : Observer) :
    (observer.pollOnce replies now).endpoints = observer.endpoints := by
  unfold pollOnce
  dsimp only
  split_ifs <;> rfl

@[simp]
theorem step_endpoints (act : ObserverAct) (observer : Observer) :
    (step act observer).endpoints = observer.endpoints := by
  cases act with
  | poll replies now => exact pollOnce_endpoints replies now observer
  | frame subscription frame now =>
      unfold step
      dsimp only
      cases observer.subscriptions[subscription]? with
      | none => rfl
      | some endpoint => exact (dispatch_pushed endpoint frame now observer).endpoints

theorem run_endpoints (acts : List ObserverAct) (observer : Observer) :
    (observer.run acts).endpoints = observer.endpoints :=
  Machine.run_invariant (fun middle => middle.endpoints = observer.endpoints)
    (fun act middle same => (step_endpoints act middle).trans same) acts rfl

/-- The act is a frame that publishes the address it carries. -/
def Applies (observer : Observer) (act : ObserverAct) (addr : String) : Prop :=
  ∃ subscription frame now, act = .frame subscription frame now ∧ frame.carried = some addr ∧
    subscription < observer.subscriptions.length ∧
    step act observer = observer.republish addr .pubsub now

/-- The last poll agreed on an address; that or a later frame's is published. -/
structure Rests (start : Observer) (before : List ObserverAct) (replies : Replies) (now : Nat)
    (after : List ObserverAct) (addr : String) : Prop where
  last : ∀ act ∈ after, act.isPoll = false
  nonempty : addr ≠ ""
  agree : quorumThreshold start.endpoints.length ≤ addrQuorumCount (start.reached replies) addr
  published : (start.run (before ++ .poll replies now :: after)).snapshot.addr = addr ∨
    ∃ earlier act later, after = earlier ++ act :: later ∧
      (start.run (before ++ .poll replies now :: earlier)).Applies act
        (start.run (before ++ .poll replies now :: after)).snapshot.addr

/-- The published snapshot rests on the last poll. -/
def Justified (start : Observer) (acts : List ObserverAct) : Prop :=
  ∃ before replies now after addr, acts = before ++ .poll replies now :: after ∧
    Rests start before replies now after addr

private theorem dispatch_addr (endpoint : Endpoint) (frame : EventFrame) (now : Nat)
    (observer : Observer) :
    (observer.dispatch endpoint frame now).snapshot.addr = observer.snapshot.addr ∨
      ∃ addr, frame.carried = some addr ∧
        observer.dispatch endpoint frame now = observer.republish addr .pubsub now := by
  rcases dispatch_cases endpoint frame now observer with same | carries | ⟨odown, -, eq⟩
  · exact .inl (by rw [same])
  · exact .inr carries
  · exact .inl (by rw [eq]; rfl)

private theorem step_frame_addr (subscription : Nat) (frame : EventFrame) (now : Nat)
    (observer : Observer) :
    (step (.frame subscription frame now) observer).snapshot.addr = observer.snapshot.addr ∨
      observer.Applies (.frame subscription frame now)
        (step (.frame subscription frame now) observer).snapshot.addr := by
  cases sends : observer.subscriptions[subscription]? with
  | none =>
      left
      simp [step, sends]
  | some endpoint =>
      have dispatched : step (.frame subscription frame now) observer =
          observer.dispatch endpoint frame now := by
        simp [step, sends]
      have known : subscription < observer.subscriptions.length :=
        (List.getElem?_eq_some_iff.mp sends).1
      rcases dispatch_addr endpoint frame now observer with same | ⟨addr, carried, eq⟩
      · left
        rw [dispatched, same]
      · right
        have published : step (.frame subscription frame now) observer =
            observer.republish addr .pubsub now := dispatched.trans eq
        rw [published]
        exact ⟨subscription, frame, now, rfl, carried, known, published⟩

theorem step_frame_pushed (subscription : Nat) (frame : EventFrame) (now : Nat)
    (observer : Observer) :
    Pushed observer (step (.frame subscription frame now) observer) := by
  unfold step
  dsimp only
  cases observer.subscriptions[subscription]? with
  | none => exact .refl observer
  | some endpoint => exact dispatch_pushed endpoint frame now observer

variable {observer : Observer} {replies : Replies} {now : Nat}

theorem pollOnce_agree (ok : (observer.pollOnce replies now).snapshot.quorum = .ok) :
    quorumThreshold observer.endpoints.length ≤ addrQuorumCount (observer.reached replies)
      (observer.pollOnce replies now).snapshot.addr := by
  by_cases few : (observer.reached replies).length < quorumThreshold observer.endpoints.length
  · simp [pollOnce, few, publishLocked] at ok
  · by_cases agree : quorumThreshold observer.endpoints.length ≤ addrQuorumCount
        (observer.reached replies) (winner observer.snapshot.addr (observer.reached replies))
    · simp [pollOnce, few, publishLocked, agree]
    · simp [pollOnce, few, publishLocked, agree] at ok

private theorem pollOnce_epoch (replies : Replies) (now : Nat) (observer : Observer) :
    observer.snapshot.epoch ≤ (observer.pollOnce replies now).snapshot.epoch := by
  unfold pollOnce
  dsimp only
  split_ifs <;> exact le_max_left _ _

/-- The flag follows the status; down markers are of subscribed endpoints. -/
structure Consistent (observer : Observer) : Prop where
  quorumOK : observer.snapshot.quorumOK = true ↔ observer.snapshot.quorum = .ok
  published : observer.snapshot.odown = observer.odown
  odown : ∀ entry ∈ observer.odown, ∃ endpoint ∈ observer.subscriptions, endpoint.name = entry.1

theorem publishLocked_quorumOK (observer : Observer) (quorum : QuorumStatus) (addr : String)
    (epoch : Int) (source : Source) (lastPolledAt now : Nat) :
    (observer.publishLocked quorum addr epoch source lastPolledAt now).snapshot.quorumOK = true ↔
      (observer.publishLocked quorum addr epoch source lastPolledAt now).snapshot.quorum = .ok :=
  decide_eq_true_iff

theorem pollOnce_quorumOK (replies : Replies) (now : Nat) (observer : Observer) :
    (observer.pollOnce replies now).snapshot.quorumOK = true ↔
      (observer.pollOnce replies now).snapshot.quorum = .ok := by
  unfold pollOnce
  dsimp only
  split_ifs <;> exact publishLocked_quorumOK _ _ _ _ _ _ _

theorem publishLocked_consistent (quorum : QuorumStatus) (addr : String) (epoch : Int)
    (source : Source) (lastPolledAt now : Nat)
    (named : ∀ entry ∈ observer.odown, ∃ endpoint ∈ observer.subscriptions,
      endpoint.name = entry.1) :
    (observer.publishLocked quorum addr epoch source lastPolledAt now).Consistent :=
  ⟨publishLocked_quorumOK observer quorum addr epoch source lastPolledAt now, rfl, named⟩

private theorem removeStamp_subset (name : String) (stamps : Stamps) :
    ∀ entry ∈ removeStamp name stamps, entry ∈ stamps :=
  fun _ mem => (List.mem_filter.mp mem).1

private theorem pollOnce_consistent (replies : Replies) (now : Nat)
    (consistent : observer.Consistent) : (observer.pollOnce replies now).Consistent := by
  unfold pollOnce
  dsimp only
  split_ifs <;> exact publishLocked_consistent _ _ _ _ _ _ consistent.odown

private theorem dispatch_consistent {endpoint : Endpoint} (frame : EventFrame) (now : Nat)
    (subscribed : endpoint ∈ observer.subscriptions) (consistent : observer.Consistent) :
    (observer.dispatch endpoint frame now).Consistent := by
  have kept : ∀ entry ∈ removeStamp endpoint.name observer.odown,
      ∃ endpoint ∈ observer.subscriptions, endpoint.name = entry.1 :=
    fun entry mem => consistent.odown entry (removeStamp_subset _ _ entry mem)
  rcases dispatch_cases endpoint frame now observer with
    same | ⟨addr, -, eq⟩ | ⟨odown, rfl | rfl, eq⟩
  · rwa [same]
  · rw [eq]
    exact publishLocked_consistent _ _ _ _ _ _ consistent.odown
  · rw [eq]
    exact publishLocked_consistent _ _ _ _ _ _
      (List.forall_mem_cons.mpr ⟨⟨endpoint, subscribed, rfl⟩, kept⟩)
  · rw [eq]
    exact publishLocked_consistent _ _ _ _ _ _ kept

theorem step_consistent (act : ObserverAct) (observer : Observer)
    (consistent : observer.Consistent) : (step act observer).Consistent := by
  cases act with
  | poll replies now => exact pollOnce_consistent replies now consistent
  | frame subscription frame now =>
      unfold step
      dsimp only
      cases sends : observer.subscriptions[subscription]? with
      | none => exact consistent
      | some endpoint =>
          exact dispatch_consistent frame now (List.mem_of_getElem? sends) consistent

theorem newObserver_consistent (masterName password : String) (endpoints : List Endpoint)
    (now : Nat) : (newObserver masterName password endpoints now).Consistent :=
  ⟨by simp [newObserver], rfl, by simp [newObserver]⟩

variable {start : Observer}

theorem run_consistent (consistent : start.Consistent) (acts : List ObserverAct) :
    (start.run acts).Consistent :=
  Machine.run_invariant Consistent step_consistent acts consistent

@[simp]
theorem run_concat (acts : List ObserverAct) (act : ObserverAct) (start : Observer) :
    start.run (acts ++ [act]) = step act (start.run acts) :=
  Machine.run_concat acts act start

private theorem Rests.frame {before after : List ObserverAct} {addr : String}
    (rests : Rests start before replies now after addr) (subscription : Nat) (frame : EventFrame)
    (moment : Nat) :
    Rests start before replies now (after ++ [.frame subscription frame moment]) addr := by
  have extended : before ++ .poll replies now :: (after ++ [.frame subscription frame moment]) =
      (before ++ .poll replies now :: after) ++ [.frame subscription frame moment] := by
    simp
  refine ⟨?_, rests.nonempty, rests.agree, ?_⟩
  · intro act mem
    rcases List.mem_append.mp mem with old | new
    · exact rests.last act old
    · rw [List.mem_singleton.mp new]
      rfl
  · rw [extended, run_concat]
    rcases step_frame_addr subscription frame moment
      (start.run (before ++ .poll replies now :: after)) with same | applied
    · rw [same]
      rcases rests.published with polled | ⟨earlier, act, later, split, applies⟩
      · exact .inl polled
      · exact .inr ⟨earlier, act, later ++ [.frame subscription frame moment], by simp [split],
          applies⟩
    · exact .inr ⟨after, _, [], rfl, applied⟩

theorem reached_of_endpoints {left right : Observer} (same : left.endpoints = right.endpoints)
    (replies : Replies) : left.reached replies = right.reached replies := by
  simp [reached, same]

private theorem run_justified (unknown : start.snapshot.quorum ≠ .ok) (some : start.endpoints ≠ [])
    (acts : List ObserverAct) : (start.run acts).snapshot.quorum = .ok → start.Justified acts := by
  refine Machine.run_history (fun past (observer : Observer) => observer.snapshot.quorum = .ok →
    start.Justified past) (fun ok => absurd ok unknown) ?_ acts
  intro past act justified ok
  change (step act (start.run past)).snapshot.quorum = .ok at ok
  cases act with
  | poll replies now =>
      have agree := pollOnce_agree ok
      rw [run_endpoints, reached_of_endpoints (run_endpoints past start)] at agree
      have pos := quorumThreshold_pos (List.length_pos_iff.mpr some)
      refine ⟨past, replies, now, [], _, rfl, by simp, ?_, agree, ?_⟩
      · intro empty
        rw [empty, addrQuorumCount_empty] at agree
        omega
      · exact .inl (by rw [run_concat]; rfl)
  | frame subscription frame now =>
      rw [(step_frame_pushed subscription frame now (start.run past)).quorum] at ok
      obtain ⟨before, replies, polledAt, after, addr, rfl, rests⟩ := justified ok
      exact ⟨before, replies, polledAt, _, addr, by simp, rests.frame subscription frame now⟩

/-- What holds of the published snapshot and of the next one. -/
structure SnapshotSound (start : Observer) (acts : List ObserverAct) : Prop where
  quorumOK_iff : (start.run acts).snapshot.quorumOK = true ↔
    (start.run acts).snapshot.quorum = .ok
  justified : (start.run acts).snapshot.quorumOK = true → start.Justified acts
  epoch_le : ∀ act, (start.run acts).snapshot.epoch ≤ (start.run (acts ++ [act])).snapshot.epoch
  lastPolledAt : ∀ act, act.isPoll = false →
    (start.run (acts ++ [act])).snapshot.lastPolledAt = (start.run acts).snapshot.lastPolledAt
  odown : ∀ entry ∈ (start.run acts).snapshot.odown,
    ∃ endpoint ∈ start.subscriptions, endpoint.name = entry.1

/-- Every snapshot an observer publishes is sound. -/
theorem newObserver_sound (masterName password : String) {endpoints : List Endpoint}
    (some : endpoints ≠ []) (started : Nat) (acts : List ObserverAct) :
    SnapshotSound (newObserver masterName password endpoints started) acts := by
  have consistent := run_consistent
    (newObserver_consistent masterName password endpoints started) acts
  refine ⟨consistent.quorumOK, fun ok => ?_, ?_, ?_, ?_⟩
  · exact run_justified (by simp [newObserver]) some acts (consistent.quorumOK.mp ok)
  · intro act
    rw [run_concat]
    cases act with
    | poll replies now => exact pollOnce_epoch replies now _
    | frame subscription frame now => exact (step_frame_pushed subscription frame now _).epoch.ge
  · intro act pushed
    rw [run_concat]
    cases act with
    | poll replies now => cases pushed
    | frame subscription frame now =>
        exact (step_frame_pushed subscription frame now _).lastPolledAt
  · intro entry mem
    rw [consistent.published] at mem
    obtain ⟨endpoint, subscribed, named⟩ := consistent.odown entry mem
    rw [subscriptions, run_endpoints] at subscribed
    exact ⟨endpoint, subscribed, named⟩

/-- Two of three sentinels agree; later a frame moves the address. -/
def agreeingActs : List ObserverAct :=
  [.poll (fun i => if i < 2 then some { addr := "a:6379", epoch := 1, quorumOK := true } else none)
      10,
    .frame 1 (.switchMaster "m" "a:6379" "b:6379") 12]

def threeSentinels : List Endpoint :=
  [⟨"s-0", "10.0.0.1:26379"⟩, ⟨"s-1", "10.0.0.2:26379"⟩, ⟨"s-2", "10.0.0.3:26379"⟩]

/-- After the frame the snapshot claims agreement on the frame's address. -/
theorem newObserver_sound_agreeing :
    ((newObserver "m" "" threeSentinels 0).run agreeingActs).snapshot.quorumOK = true ∧
      ((newObserver "m" "" threeSentinels 0).run agreeingActs).snapshot.addr = "b:6379" ∧
      SnapshotSound (newObserver "m" "" threeSentinels 0) agreeingActs :=
  ⟨by decide, rfl, newObserver_sound "m" "" (by decide) 0 agreeingActs⟩

end Observer

end Velkir
