import Velkir.Valkey

/-!
# The rollout state machine

The transitions between rollout states and the edge detectors that feed them. A transition only
names an event.
-/

namespace Velkir.Orchestration

/-- What the reconciler reports to the machine. -/
inductive Trigger
  | crCreated
  | quorumPrimaryAgreed
  | reconcileTick
  | rolloutTrigger
  | switchMaster
  | splitBrainDetected
  | replicaSelected
  | replicaRolled
  | allReplicasRolled
  | quorumLost
  | quorumLostSustained
  | quorumReached
  | specChanged
  | failoverEnd
  | failoverEndForTimeout
  | failoverAbort
  | failoverTimeoutExceeded
  | oldPrimaryReady
  | recovered
  | crDeleted
  deriving DecidableEq

/-- What a transition records. -/
inductive Reason
  | bootstrapCompleted
  | rolloutStarted
  | rolloutDeferred
  | unexpectedFailover
  | splitBrainDetected
  | rolloutAbortedQuorumLost
  | replicasRolled
  | specChangeDeferred
  | failoverInitiated
  | primaryRolloutBlocked
  | failoverSucceeded
  | failoverSucceededWithTimeout
  | failoverAborted
  | failoverStalled
  | rolloutCompleted
  | degradedResolved
  | rolloutResumed
  | quorumLost
  | quorumReached
  deriving DecidableEq

/-- What the guards look at. -/
structure GuardCtx where
  quorumOK : Bool := false
  splitBrain : Bool := false
  quorumPrimaryAgreed : Bool := false
  pod0LabeledPrimary : Bool := false
  candidateReplicaReady : Bool := false
  hasMoreReplicas : Bool := false
  newPrimaryStable : Bool := false
  oldPrimaryNowReplica : Bool := false
  oldPrimaryReplicaReady : Bool := false
  rolloutSuspendedFromPending : Bool := false
  ckquorumOKHysteresisPassed : Bool := false
  deriving DecidableEq

/-- One row of the table. Without a next state the machine is left. -/
structure Transition where
  source : State
  trigger : Trigger
  guard : GuardCtx → Bool := fun _ => true
  nextState : Option State
  reason : Option Reason := none
  requeueAfter : Nat := 0

/-- Every state is left on deletion and absorbed by a lost quorum. -/
def allStates : List State :=
  [.bootstrap, .steady, .rolloutPending, .rolloutReplicas, .rolloutPrimary, .failoverInFlight,
    .rolloutComplete, .degraded, .degradedQuorumLost]

/-- The table of transitions. -/
def defaultTransitions : List Transition :=
  [{ source := .bootstrap, trigger := .crCreated, guard := fun c => !c.quorumPrimaryAgreed
     nextState := some .bootstrap, requeueAfter := 5 * second },
    { source := .bootstrap, trigger := .quorumPrimaryAgreed
      guard := fun c => c.quorumPrimaryAgreed && c.pod0LabeledPrimary
      nextState := some .steady, reason := some .bootstrapCompleted },
    { source := .steady, trigger := .rolloutTrigger, guard := fun c => c.quorumOK
      nextState := some .rolloutPending, reason := some .rolloutStarted },
    { source := .steady, trigger := .rolloutTrigger, guard := fun c => !c.quorumOK
      nextState := some .steady, reason := some .rolloutDeferred, requeueAfter := 10 * second },
    { source := .steady, trigger := .switchMaster
      nextState := some .failoverInFlight, reason := some .unexpectedFailover },
    { source := .steady, trigger := .splitBrainDetected
      nextState := some .degraded, reason := some .splitBrainDetected },
    { source := .rolloutPending, trigger := .reconcileTick
      guard := fun c => c.quorumOK && c.quorumPrimaryAgreed && c.candidateReplicaReady
      nextState := some .rolloutReplicas },
    { source := .rolloutPending, trigger := .reconcileTick
      guard := fun c => !c.quorumOK || c.splitBrain
      nextState := some .degraded, reason := some .rolloutAbortedQuorumLost },
    { source := .rolloutReplicas, trigger := .replicaSelected, nextState := some .rolloutReplicas },
    { source := .rolloutReplicas, trigger := .replicaRolled, guard := fun c => c.hasMoreReplicas
      nextState := some .rolloutReplicas },
    { source := .rolloutReplicas, trigger := .allReplicasRolled
      nextState := some .rolloutPrimary, reason := some .replicasRolled },
    { source := .rolloutReplicas, trigger := .quorumLost
      nextState := some .degraded, reason := some .rolloutAbortedQuorumLost },
    { source := .rolloutReplicas, trigger := .specChanged
      nextState := some .rolloutReplicas, reason := some .specChangeDeferred },
    { source := .rolloutPrimary, trigger := .reconcileTick
      guard := fun c => c.quorumOK && c.candidateReplicaReady
      nextState := some .failoverInFlight, reason := some .failoverInitiated },
    { source := .rolloutPrimary, trigger := .reconcileTick
      guard := fun c => !c.quorumOK || !c.candidateReplicaReady
      nextState := some .degraded, reason := some .primaryRolloutBlocked },
    { source := .failoverInFlight, trigger := .failoverEnd
      guard := fun c => c.newPrimaryStable && c.quorumPrimaryAgreed && !c.splitBrain
      nextState := some .rolloutComplete, reason := some .failoverSucceeded },
    { source := .failoverInFlight, trigger := .failoverEndForTimeout
      nextState := some .rolloutComplete, reason := some .failoverSucceededWithTimeout },
    { source := .failoverInFlight, trigger := .failoverAbort
      nextState := some .degraded, reason := some .failoverAborted },
    { source := .failoverInFlight, trigger := .failoverTimeoutExceeded
      nextState := some .degraded, reason := some .failoverStalled },
    { source := .rolloutComplete, trigger := .reconcileTick
      guard := fun c => c.oldPrimaryNowReplica
      nextState := some .rolloutComplete },
    { source := .rolloutComplete, trigger := .oldPrimaryReady
      guard := fun c => c.oldPrimaryReplicaReady
      nextState := some .steady, reason := some .rolloutCompleted },
    { source := .degraded, trigger := .recovered
      guard := fun c => c.quorumOK && !c.splitBrain && !c.rolloutSuspendedFromPending
      nextState := some .steady, reason := some .degradedResolved },
    { source := .degraded, trigger := .recovered
      guard := fun c => c.quorumOK && !c.splitBrain && c.rolloutSuspendedFromPending
      nextState := some .rolloutPending, reason := some .rolloutResumed }] ++
  ((allStates.filter fun state => state ≠ .degradedQuorumLost).map fun state =>
    { source := state, trigger := .quorumLostSustained
      nextState := some .degradedQuorumLost, reason := some .quorumLost }) ++
  [{ source := .degradedQuorumLost, trigger := .quorumReached
     guard := fun c => c.ckquorumOKHysteresisPassed && !c.rolloutSuspendedFromPending
     nextState := some .steady, reason := some .quorumReached },
    { source := .degradedQuorumLost, trigger := .quorumReached
      guard := fun c => c.ckquorumOKHysteresisPassed && c.rolloutSuspendedFromPending
      nextState := some .rolloutPending, reason := some .quorumReached }] ++
  allStates.map fun state => { source := state, trigger := .crDeleted, nextState := none }

/-- The first row that matches, if any. -/
def apply (state : State) (trigger : Trigger) (guards : GuardCtx) : Option Transition :=
  defaultTransitions.find? fun row =>
    row.source = state && row.trigger = trigger && row.guard guards

/-- The reason that a trigger records. -/
def recorded (state : State) (trigger : Trigger) (guards : GuardCtx) : Option Reason :=
  (apply state trigger guards).bind Transition.reason

/-- What the trigger remembers. -/
structure RolloutTriggerState where
  lastWasPending : Bool := false
  lastTarget : String := ""
  deriving DecidableEq

/-- What the trigger reports. -/
structure RolloutTriggerSignal where
  edge : Bool := false
  midRolloutChange : Bool := false
  deriving DecidableEq

/-- The revisions in the status of the StatefulSet. -/
structure Revisions where
  target : String
  current : String
  deriving DecidableEq

/-- The revisions differ. -/
def Revisions.pending (revisions : Revisions) : Bool :=
  revisions.target ≠ "" ∧ revisions.target ≠ revisions.current

/-- Compare the revisions with those of the last pass, if there is a StatefulSet. -/
def rolloutTriggerEdge (revisions : Option Revisions) (tracker : RolloutTriggerState) :
    RolloutTriggerSignal × RolloutTriggerState :=
  match revisions with
  | none => ({}, tracker)
  | some revisions =>
      let pendingNow := revisions.pending
      ({ edge := pendingNow && !tracker.lastWasPending
         midRolloutChange := pendingNow && tracker.lastWasPending &&
           decide (tracker.lastTarget ≠ "" ∧ revisions.target ≠ tracker.lastTarget) },
        { lastWasPending := pendingNow
          lastTarget := if pendingNow then revisions.target else "" })

/-- Whether the hand-off state is entered, and what to remember of it. -/
def replicasRolledEdge (state : State) (lastWasReplicasRolled : Bool) : Bool × Bool :=
  let pendingNow : Bool := state = .rolloutPrimary
  (pendingNow && !lastWasReplicasRolled, pendingNow)

theorem rolloutTriggerEdge_exclusive {revisions : Option Revisions} {tracker : RolloutTriggerState}
    (edge : (rolloutTriggerEdge revisions tracker).1.edge = true) :
    (rolloutTriggerEdge revisions tracker).1.midRolloutChange = false := by
  cases revisions with
  | none => rfl
  | some revisions =>
      have fresh : tracker.lastWasPending = false := by simp_all [rolloutTriggerEdge]
      simp [rolloutTriggerEdge, fresh]

variable {state : State} {trigger : Trigger} {guards : GuardCtx}

theorem recorded_eq_some_iff {reason : Reason} :
    recorded state trigger guards = some reason ↔
      ∃ row, apply state trigger guards = some row ∧ row.reason = some reason :=
  Option.bind_eq_some_iff

private theorem apply_matches {row : Transition} (found : apply state trigger guards = some row) :
    row ∈ defaultTransitions ∧ row.source = state ∧ row.trigger = trigger ∧
      row.guard guards = true := by
  have fits := List.find?_some found
  simp only [Bool.and_eq_true, decide_eq_true_eq] at fits
  exact ⟨List.mem_of_find?_eq_some found, fits.1.1, fits.1.2, fits.2⟩

private theorem announcing_row : ∀ row ∈ defaultTransitions, row.reason = some .rolloutStarted →
    row.source = .steady ∧ row.trigger = .rolloutTrigger ∧ row.guard = GuardCtx.quorumOK := by
  simp [defaultTransitions, allStates]

/-- A rollout is announced in the steady state, on its trigger, with quorum. -/
theorem recorded_rolloutStarted_iff :
    recorded state trigger guards = some .rolloutStarted ↔
      state = .steady ∧ trigger = .rolloutTrigger ∧ guards.quorumOK = true := by
  constructor
  · intro announced
    obtain ⟨row, found, reason⟩ := recorded_eq_some_iff.mp announced
    obtain ⟨mem, source, taken, guard⟩ := apply_matches found
    obtain ⟨steady, trigger, quorum⟩ := announcing_row row mem reason
    exact ⟨source.symm.trans steady, taken.symm.trans trigger, quorum ▸ guard⟩
  · rintro ⟨rfl, rfl, quorum⟩
    simp [recorded, apply, defaultTransitions, quorum]

end Velkir.Orchestration
