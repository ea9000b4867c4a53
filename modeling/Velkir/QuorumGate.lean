import Velkir.History
import Velkir.Resource

/-!
# The quorum trackers

Every pass feeds the snapshot to three trackers: disagreement, completed failover, and suppressed
commands.
-/

namespace Velkir

open History

/-- What sentinels say about quorum. -/
inductive QuorumStatus
  | unknown
  | ok
  | lost
  deriving DecidableEq

/-- What the observer has published about the primary. -/
structure QuorumReading where
  addr : String := ""
  quorum : QuorumStatus := .unknown
  /-- The last live poll, zero before the first one. -/
  lastPolledAt : Nat := 0
  deriving DecidableEq

/-- Derived from `quorum` when the reading is published. -/
def QuorumReading.quorumOK (reading : QuorumReading) : Bool :=
  reading.quorum = .ok

namespace Aggregation

/-- `time.Time.Sub`, which saturates. -/
def timeSub (now t : Int) : Int := max (-2 ^ 63) (min (2 ^ 63 - 1) (now - t))

end Aggregation

namespace SplitBrain

open Aggregation

/-- How long an episode lasts without a newer poll. -/
def splitBrainConfirmationStaleness : Int := (2 * topologyObservationFreshnessWindow : Nat)

/-- The tracker; a zero time is one that is not set. -/
structure Tracker where
  splitBrainSince : Option Int := none
  splitBrainPollAt : Int := 0
  splitBrainConfirmedAt : Int := 0
  splitBrainExpiredPollAt : Int := 0
  deriving DecidableEq

/-- What a reconcile reads. -/
structure Sighting where
  present : Bool
  quorum : QuorumStatus
  polledAt : Int
  now : Int
  deriving DecidableEq

/-- What the tracker returns; the gauge is in nanoseconds. -/
structure Reading where
  gauge : Int := 0
  episodeStarted : Bool := false
  deriving DecidableEq

/-- Note a newer poll of the episode. -/
def Tracker.advanceSplitBrainConfirmation (polledAt now : Int) (tracker : Tracker) : Tracker :=
  if tracker.splitBrainPollAt < polledAt then
    { tracker with splitBrainPollAt := polledAt, splitBrainConfirmedAt := now }
  else tracker

/-- Whether the episode's last poll is too old. -/
def Tracker.splitBrainEpisodeExpired (now : Int) (tracker : Tracker) : Bool × Tracker :=
  if timeSub now tracker.splitBrainConfirmedAt ≤ splitBrainConfirmationStaleness then
    (false, tracker)
  else
    (true, { splitBrainExpiredPollAt := tracker.splitBrainPollAt })

/-- Both branches that carry an episode on end in this way. -/
def Tracker.continueEpisode (since polledAt now : Int) (tracker : Tracker) : Reading × Tracker :=
  let tracker := tracker.advanceSplitBrainConfirmation polledAt now
  match tracker.splitBrainEpisodeExpired now with
  | (true, tracker) => ({}, tracker)
  | (false, tracker) => ({ gauge := timeSub tracker.splitBrainConfirmedAt since }, tracker)

/-- Track a split and how long it lasts. -/
def Tracker.updateSplitBrainSustained (sighting : Sighting) (tracker : Tracker) :
    Reading × Tracker :=
  if sighting.present ∧ sighting.quorum = .unknown then
    match tracker.splitBrainSince with
    | none => ({}, tracker)
    | some since => tracker.continueEpisode since sighting.polledAt sighting.now
  else if !sighting.present ∨ sighting.quorum ≠ .lost then ({}, {})
  else
    match tracker.splitBrainSince with
    | none =>
        if tracker.splitBrainExpiredPollAt ≠ 0 ∧
            ¬tracker.splitBrainExpiredPollAt < sighting.polledAt then
          ({}, tracker)
        else
          ({ episodeStarted := true },
            { tracker with
              splitBrainSince := some sighting.now
              splitBrainPollAt := sighting.polledAt
              splitBrainConfirmedAt := sighting.now })
    | some since => tracker.continueEpisode since sighting.polledAt sighting.now

/-- What the tracker reads of a snapshot. -/
def Sighting.ofSnapshot (snap : Option QuorumReading) (now : Nat) : Sighting where
  present := snap.isSome
  quorum := (snap.map QuorumReading.quorum).getD .unknown
  polledAt := ((snap.map QuorumReading.lastPolledAt).getD 0 : Nat)
  now

end SplitBrain

/-- The trackers of one resource. -/
structure CrQuorumState extends SplitBrain.Tracker where
  lastQuorum : QuorumStatus := .unknown
  quorumLostSince : Option Nat := none
  quorumLostSincePoll : Nat := 0
  quorumOKConsecutivePolls : Nat := 0
  quorumOKLastCountedPoll : Nat := 0
  suppressionActive : Bool := false
  lastOKAddr : String := ""
  deriving DecidableEq

namespace CrQuorumState

/-- The sustained duration, whether an episode starts, and the next state. -/
def updateSplitBrainSustained (snap : Option QuorumReading) (now : Nat) (state : CrQuorumState) :
    Int × Bool × CrQuorumState :=
  let (reading, toTracker) := state.toTracker.updateSplitBrainSustained (.ofSnapshot snap now)
  (reading.gauge, reading.episodeStarted, { state with toTracker })

/-- The duration of a failover found to be complete, and the next state. -/
def observeFailoverIfAddrChanged (snap : Option QuorumReading) (now : Nat) (state : CrQuorumState) :
    Option Int × CrQuorumState :=
  match snap with
  | none => (none, state)
  | some reading =>
      if reading.quorumOK then
        let next := { state with lastOKAddr := reading.addr }
        match state.splitBrainSince with
        | none => (none, next)
        | some since =>
            if state.lastOKAddr = "" ∨ state.lastOKAddr = reading.addr then (none, next)
            else (some ((now : Int) - since), next)
      else (none, state)

/-- Overrides of the defaults; zero stands for the default. -/
structure Tunables where
  lossThreshold : Nat := 0
  recoveryPolls : Nat := 0

def quorumLossSuppressionThreshold : Nat := 60 * second

def quorumRecoveryHysteresisPolls : Nat := 2

/-- The threshold, with its default. -/
def Tunables.effectiveLossThreshold (tunables : Tunables) : Nat :=
  if 0 < tunables.lossThreshold then tunables.lossThreshold else quorumLossSuppressionThreshold

/-- The polls needed, with their default. -/
def Tunables.effectiveRecoveryPolls (tunables : Tunables) : Nat :=
  if 0 < tunables.recoveryPolls then tunables.recoveryPolls else quorumRecoveryHysteresisPolls

/-- Whether suppression has just begun or ended, and the next state. -/
def updateQuorumSuppression (quorum : QuorumStatus) (polledAt now : Nat) (tunables : Tunables)
    (state : CrQuorumState) : Bool × Bool × CrQuorumState :=
  match quorum with
  | .unknown => (false, false, { state with lastQuorum := quorum })
  | .ok =>
      let state := { state with
        lastQuorum := quorum, quorumLostSince := none, quorumLostSincePoll := 0 }
      if !state.suppressionActive ∨ polledAt ≤ state.quorumOKLastCountedPoll then
        (false, false, state)
      else if tunables.effectiveRecoveryPolls ≤ state.quorumOKConsecutivePolls + 1 then
        (false, true, { state with
          suppressionActive := false
          quorumOKConsecutivePolls := 0
          quorumOKLastCountedPoll := 0 })
      else
        (false, false, { state with
          quorumOKConsecutivePolls := state.quorumOKConsecutivePolls + 1
          quorumOKLastCountedPoll := polledAt })
  | .lost =>
      let state := { state with
        lastQuorum := quorum, quorumOKConsecutivePolls := 0, quorumOKLastCountedPoll := 0 }
      if state.suppressionActive then (false, false, state)
      else
        match state.quorumLostSince with
        | none =>
            (false, false, { state with
              quorumLostSince := some now, quorumLostSincePoll := polledAt })
        | some since =>
            if since + tunables.effectiveLossThreshold ≤ now ∧ state.quorumLostSincePoll < polledAt
            then (true, false, { state with suppressionActive := true })
            else (false, false, state)

/-- What one pass reads: the snapshot, and the clock for both trackers. -/
structure Observation where
  snap : Option QuorumReading := none
  now : Nat := 0
  later : Nat := 0
  deriving DecidableEq

/-- What one call reports. -/
structure Report where
  sustained : Int := 0
  episodeStarted : Bool := false
  failover : Option Int := none
  entered : Bool := false
  exited : Bool := false
  deriving DecidableEq

/-- Run the trackers of one pass. -/
def updateQuorumSuppressionGate (tunables : Tunables) (observation : Observation)
    (state : CrQuorumState) : Report × CrQuorumState :=
  let (sustained, episodeStarted, state) :=
    state.updateSplitBrainSustained observation.snap observation.now
  let (failover, state) := state.observeFailoverIfAddrChanged observation.snap observation.now
  match observation.snap with
  | none => ({ sustained, episodeStarted, failover }, state)
  | some reading =>
      let (entered, exited, state) := state.updateQuorumSuppression reading.quorum
        reading.lastPolledAt observation.later tunables
      ({ sustained, episodeStarted, failover, entered, exited }, state)

/-- A call with its state before and after. -/
structure Call where
  observation : Observation
  before : CrQuorumState
  report : Report
  after : CrQuorumState
  deriving DecidableEq

/-- The calls made on a sequence of observations, newest first. -/
def calls (tunables : Tunables) : List Observation → CrQuorumState → List Call
  | [], _ => []
  | observation :: rest, state =>
      let (report, after) := updateQuorumSuppressionGate tunables observation state
      calls tunables rest after ++ [⟨observation, state, report, after⟩]

def Call.saw (call : Call) (quorum : QuorumStatus) : Bool :=
  (call.observation.snap.map QuorumReading.quorum) = some quorum

/-- The call dropped a disagreement that had not been confirmed for too long. -/
def Call.expired (call : Call) : Bool :=
  call.before.splitBrainSince.isSome ∧ call.after.splitBrainSince = none

/-- Sentinels agreed, disagreed, and now agree on another address. -/
structure Completes (closing : Observation) (earlier : List Call) (duration : Int)
    (agreed : Call) (quiet : List Call) (first : Call) (episode rest : List Call) : Prop where
  split : earlier = episode ++ first :: (quiet ++ agreed :: rest)
  agreed_ok : agreed.saw .ok = true
  quiet_unknown : ∀ call ∈ quiet, call.saw .unknown = true
  first_lost : first.saw .lost = true
  episode_open : ∀ call ∈ episode, (call.saw .lost ∨ call.saw .unknown) ∧ !call.expired
  closing_ok : closing.snap.any QuorumReading.quorumOK = true
  moved : agreed.observation.snap.map QuorumReading.addr ≠ closing.snap.map QuorumReading.addr
  duration_eq : duration = (closing.now : Int) - first.observation.now

/-- A failover of this length is completed. -/
def Completed (closing : Observation) (earlier : List Call) (duration : Int) : Prop :=
  ∃ agreed quiet first episode rest,
    Completes closing earlier duration agreed quiet first episode rest

/-- Failovers are recorded as they complete. -/
def RecordsExactly (call : Call) (earlier : List Call) : Prop :=
  ∀ duration, call.report.failover = some duration ↔ Completed call.observation earlier duration

section Recorded

variable {state : CrQuorumState} {now : Nat}

private theorem updateSplitBrainSustained_ok {reading : QuorumReading}
    (ok : reading.quorumOK = true) :
    (state.updateSplitBrainSustained (some reading) now).2.2.splitBrainSince = none := by
  have agrees : reading.quorum = .ok := of_decide_eq_true ok
  simp [updateSplitBrainSustained, SplitBrain.Tracker.updateSplitBrainSustained,
    SplitBrain.Sighting.ofSnapshot, agrees]

private theorem observeFailoverIfAddrChanged_closed {snap : Option QuorumReading}
    (closed : state.splitBrainSince = none) :
    (state.observeFailoverIfAddrChanged snap now).1 = none := by
  unfold observeFailoverIfAddrChanged
  cases snap with
  | none => rfl
  | some reading =>
      simp only [closed]
      split <;> rfl

/-- When the second tracker looks for an episode, the first has closed it. -/
theorem updateQuorumSuppressionGate_failover (tunables : Tunables) (observation : Observation)
    (state : CrQuorumState) :
    (updateQuorumSuppressionGate tunables observation state).1.failover = none := by
  have unrecorded : ((state.updateSplitBrainSustained observation.snap
      observation.now).2.2.observeFailoverIfAddrChanged observation.snap observation.now).1 =
        none := by
    cases seen : observation.snap with
    | none => rfl
    | some reading =>
        by_cases ok : reading.quorumOK = true
        · exact observeFailoverIfAddrChanged_closed (updateSplitBrainSustained_ok ok)
        · simp [observeFailoverIfAddrChanged, ok]
  unfold updateQuorumSuppressionGate
  cases seen : observation.snap with
  | none => simpa [seen] using unrecorded
  | some reading => simpa [seen] using unrecorded

private theorem calls_failover (tunables : Tunables) (observations : List Observation)
    (state : CrQuorumState) :
    ∀ call ∈ calls tunables observations state, call.report.failover = none := by
  induction observations generalizing state with
  | nil => simp [calls]
  | cons observation rest ih =>
      intro call mem
      rw [calls, List.mem_append, List.mem_singleton] at mem
      rcases mem with later | rfl
      · exact ih _ call later
      · exact updateQuorumSuppressionGate_failover tunables observation state

end Recorded

/-- The accounting of failovers is exact on exactly the sequences on which no failover completes. -/
theorem calls_recordExactly_iff (tunables : Tunables) (observations : List Observation)
    (state : CrQuorumState) :
    Always RecordsExactly (calls tunables observations state) ↔
      Always (fun call earlier => ∀ duration, ¬Completed call.observation earlier duration)
        (calls tunables observations state) := by
  have unrecorded := calls_failover tunables observations state
  rw [always_iff, always_iff]
  refine forall₄_congr fun later call earlier split => forall_congr' fun duration => ?_
  have none : call.report.failover = none := unrecorded call (by simp [split])
  rw [none, iff_comm]
  simp

/-- Agreement, ten seconds of disagreement, agreement on another address. -/
def failoverObservations : List Observation :=
  [{ snap := some { addr := "a", quorum := .ok, lastPolledAt := 10 * second }, now := 10 * second },
    { snap := some { quorum := .lost, lastPolledAt := 20 * second }, now := 20 * second },
    { snap := some { addr := "b", quorum := .ok, lastPolledAt := 30 * second }
      now := 30 * second }]

/-- The failover is complete after ten seconds, and nothing is recorded. -/
theorem calls_record_nothing :
    ∃ closing first agreed, calls {} failoverObservations {} = [closing, first, agreed] ∧
      Completed closing.observation [first, agreed] (10 * second : Nat) ∧
      closing.report.failover = none := by
  refine ⟨_, _, _, rfl, ⟨_, [], _, [], [], rfl, ?_, ?_, ?_, ?_, ?_, ?_, ?_⟩, ?_⟩ <;> decide

end CrQuorumState

end Velkir
