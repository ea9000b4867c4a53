import Velkir.PodRollout
import Velkir.ReadinessGates

/-!
# Observation and the sentinel phases

Of the sentinel phases only the questions about a failover, the dispatch, and where they fail or
stop are modelled.
-/

namespace Velkir

open Crash Proc Orchestration

/-- The revisions in the status of a StatefulSet. -/
def StatefulSet.revisions (sts : StatefulSet) : Revisions :=
  ⟨sts.updateRevision, sts.currentRevision⟩

/-- How the second read of the StatefulSet goes; its status may have moved. -/
structure TriggerInput where
  stsStatus : Option (String × String × Int) := none
  getFails : Bool := false
  deriving DecidableEq

/-- What the observation reads and how its status patches are answered. -/
structure ObserveInput where
  derive : Obs := {}
  trigger : TriggerInput := {}
  abortReply : Reply := .ok
  recoverReply : Reply := .ok
  steadyReply : Reply := .ok
  switchMaster : Obs := {}
  deriving DecidableEq

/-- Record or drop the state a rollout was suspended from, best effort. -/
def setSuspendedFrom (value : Option State) (reply : Reply) : Proc World Unit := do
  if (← .read fun w => w.v.status.suspendedFrom) = value then return
  patchInPlace (fun status => { status with suspendedFrom := value }) reply

/-- The event of the transition that a trigger takes, if it has one. -/
def fsmEvent (state : State) (trigger : Trigger) (guards : GuardCtx) : Option Event :=
  (apply state trigger guards).bind fun row =>
    row.reason.map (.fsm state trigger row.nextState)

/-- Apply a trigger and record its event. -/
def applyFSM (state : State) (trigger : Trigger) (guards : GuardCtx) : Proc World Unit :=
  recordOptional (fsmEvent state trigger guards)

/-- Report the edges of the trigger. -/
def reportEdges (state : State) (quorumOK : Bool) (signal : RolloutTriggerSignal) :
    Proc World Unit := do
  if signal.edge then applyFSM state .rolloutTrigger { quorumOK }
  if signal.midRolloutChange then applyFSM state .specChanged { quorumOK }

/-- Compare the revisions with the last pass and report an edge. -/
def rolloutTriggerDispatch (state : State) (quorumOK : Bool) (input : TriggerInput) :
    Proc World Unit := do
  meanwhile { stsStatus := input.stsStatus }
  if input.getFails then return
  let sts ← .read World.sts
  let tracker ← .read fun w => w.mem.rolloutTrigger
  let (signal, tracker) := rolloutTriggerEdge (sts.map StatefulSet.revisions) tracker
  .write fun w => { w with mem.rolloutTrigger := tracker }
  reportEdges state quorumOK signal

/-- Report that the hand-off state is entered, leaving the replicas behind. -/
def replicasRolledDispatch (state : State) (quorumOK : Bool) : Proc World Unit := do
  let (edge, replicasRolled) := replicasRolledEdge state (← .read fun w => w.mem.replicasRolled)
  .write fun w => { w with mem.replicasRolled := replicasRolled }
  if edge then applyFSM .rolloutReplicas .allReplicasRolled { quorumOK }

/-- Suspend a rollout that loses its quorum. -/
def abortRollout (prev : Option State) (quorumOK : Bool) (reply : Reply) : Proc World Unit :=
  match prev with
  | some .rolloutPending => do
      setSuspendedFrom prev reply
      applyFSM .rolloutPending .reconcileTick { quorumOK }
  | some .rolloutReplicas => do
      setSuspendedFrom prev reply
      applyFSM .rolloutReplicas .quorumLost { quorumOK }
  | some .rolloutPrimary => applyFSM .rolloutPrimary .reconcileTick { quorumOK }
  | _ => return

/-- Remember the derived state; react to entering or leaving a degraded one. -/
def fsmAbortAndRecoveryDispatch (state : State) (quorumOK : Bool) (input : ObserveInput) :
    Proc World Unit := do
  let prev ← .read fun w => w.mem.lastState
  .write fun w => { w with mem.lastState := some state }
  if state = .degraded then abortRollout prev quorumOK input.abortReply
  if prev = some .degraded ∧ (state = .steady ∨ state = .rolloutPending) then
    let rolloutSuspendedFromPending ← .read fun w =>
      decide (w.v.status.suspendedFrom = some .rolloutPending)
    let guards : GuardCtx := { quorumOK, rolloutSuspendedFromPending }
    applyFSM .degraded .recovered guards
    if (apply .degraded .recovered guards).isSome then setSuspendedFrom none input.recoverReply
  if state = .steady then setSuspendedFrom none input.steadyReply

/-- In a steady state, look for a primary that sentinel moved by itself. -/
def fsmSwitchMasterDispatch (state : State) (obs : Obs) : Proc World Unit := do
  if state = .steady then
    let snap ← readSnapshot obs
    let _ ← failoverLatchActive snap.addr snap.epoch

/-- Derive the rollout state and run the dispatches that hang on it. -/
def observeRolloutState (pods : List Pod) (sts : Option StatefulSet) (input : ObserveInput) :
    Proc World (State × ObservedFacts) := do
  let derived ← deriveState pods sts input.derive
  rolloutTriggerDispatch derived.1 derived.2.quorumOK input.trigger
  replicasRolledDispatch derived.1 derived.2.quorumOK
  fsmAbortAndRecoveryDispatch derived.1 derived.2.quorumOK input
  fsmSwitchMasterDispatch derived.1 input.switchMaster
  return derived

/-- How Phase 3 goes. `seeded` says that a seed address is known. -/
structure SentinelInfraInput where
  configFails : Bool := false
  seeded : Bool := true
  obs : Obs := {}
  applyFails : Bool := false
  deriving DecidableEq

/-- The data plane is being rolled. -/
def valkeyRollActive (state : State) : Bool :=
  state = .rolloutReplicas ∨ state = .rolloutPrimary

/-- Phase 3: apply the sentinel StatefulSet unless a failover or roll runs. -/
def reconcileSentinelInfra (state : State) (input : SentinelInfraInput) : Proc World Bool := do
  if !(← .read fun w => w.v.spec.hasSentinel) then return true
  if input.configFails then return false
  if !input.seeded then return true
  if ← isFailoverInFlight .sentinelStatefulSet input.obs then
    recordEvent (.sentinelRollDeferred true)
    return true
  if valkeyRollActive state then
    recordEvent (.sentinelRollDeferred false)
    return true
  return !input.applyFails

/-- Ask a number of times whether a failover is in flight. -/
def consultAll (site : Site) : List Obs → Proc World Unit
  | [] => return
  | obs :: rest => do
      let _ ← isFailoverInFlight site obs
      consultAll site rest

/-- How Phase 11 goes; `ready` means that pods are up and observed. -/
structure OrchestrationInput where
  ready : Bool := true
  before : List Obs := []
  dispatch : DispatchInput := {}
  after : List Obs := []

/-- Phase 11: look after the sentinels, and hand the primary role over. -/
def reconcileSentinelOrchestration (state : State) (input : OrchestrationInput) :
    Proc World Unit := do
  if !(← .read fun w => w.v.spec.hasSentinel) ∨ !input.ready then return
  consultAll .sentinelOrchestration input.before
  runPrimaryRolloutDispatch state input.dispatch
  consultAll .sentinelOrchestration input.after

private theorem deriveState_within (pods : List Pod) (sts : Option StatefulSet) (obs : Obs) :
    Within (Frame [.latch] [.observed]) (deriveState pods sts obs) := by
  refine .bind (.read _) fun v => .bind (.ite (.pure _) (readSnapshot_within (by decide))) fun _ =>
    .bind (failoverLatchActive_within (by decide)) fun _ => .pure _

theorem setSuspendedFrom_within (value : Option State) (reply : Reply) :
    Within (Frame [] []) (setSuspendedFrom value reply) :=
  .bind (.read _) fun _ => .ite (.pure _)
    (patchInPlace_within (fun _ _ => rfl) (fun _ _ => rfl) fun _ _ => rfl)

private theorem fsmEvent_kind {state : State} {trigger : Trigger} {guards : GuardCtx}
    {event : Event} (recorded : fsmEvent state trigger guards = some event) :
    (Entry.event event).kind = .event := by
  obtain ⟨row, -, reason⟩ := Option.bind_eq_some_iff.mp recorded
  obtain ⟨reason, -, rfl⟩ := Option.map_eq_some_iff.mp reason
  rfl

theorem applyFSM_within (state : State) (trigger : Trigger) (guards : GuardCtx) :
    Within (Frame [] [.event]) (applyFSM state trigger guards) :=
  recordOptional_within fun _ => fsmEvent_kind

private theorem World.drift_stsStatus_frame (status : Option (String × String × Int)) (w : World) :
    Frame [] [] w (w.drift { stsStatus := status }) := by
  have frame := w.drift_frame { stsStatus := status }
  refine ⟨fun part _ => ?_, frame.journal, frame.clock⟩
  cases part with
  | pods | pvcs => rfl
  | stored => simp [Part.Kept, Carried, World.drift]
  | _ => exact frame.kept _ (by decide)

theorem rolloutTriggerDispatch_within (state : State) (quorumOK : Bool) (input : TriggerInput) :
    Within (Frame [] [.event]) (rolloutTriggerDispatch state quorumOK input) := by
  refine .bind (.write fun w => (w.drift_stsStatus_frame _).mono) fun _ => .ite (.pure _)
    (.bind (.read _) fun _ => .bind (.read _) fun _ =>
      .bind (.write fun w => w.memory_frame { w.mem with rolloutTrigger := _ } rfl rfl) fun _ => ?_)
  exact .when (applyFSM_within _ _ _) (.ite (applyFSM_within _ _ _) (.pure _))

theorem replicasRolledDispatch_within (state : State) (quorumOK : Bool) :
    Within (Frame [] [.event]) (replicasRolledDispatch state quorumOK) :=
  .bind (.read _) fun _ =>
    .bind (.write fun w => w.memory_frame { w.mem with replicasRolled := _ } rfl rfl) fun _ =>
      .ite (applyFSM_within _ _ _) (.pure _)

section Dispatches

variable {relation : World → World → Prop} [Std.Refl relation] [IsTrans World relation]
  (suspend : ∀ value reply, Within relation (setSuspendedFrom value reply))
  (fsm : ∀ state trigger guards, trigger ≠ .rolloutTrigger →
    Within relation (applyFSM state trigger guards))

include suspend fsm

private theorem abortRollout_within (prev : Option State) (quorumOK : Bool) (reply : Reply) :
    Within relation (abortRollout prev quorumOK reply) := by
  unfold abortRollout
  split
  · exact .bind (suspend _ _) fun _ => fsm _ _ _ (by decide)
  · exact .bind (suspend _ _) fun _ => fsm _ _ _ (by decide)
  · exact fsm _ _ _ (by decide)
  · exact .pure _

/-- The dispatches touch nothing that invariants speak about. -/
theorem fsmAbortAndRecoveryDispatch_wp (state : State) (quorumOK : Bool) (input : ObserveInput)
    (w : World) :
    let remembered := { w with mem.lastState := some state }
    (fsmAbortAndRecoveryDispatch state quorumOK input).wp (relation remembered)
      (fun _ => relation remembered) w := by
  have hygiene : Within relation
      (if state = .steady then setSuspendedFrom none input.steadyReply else pure ()) :=
    .ite (suspend _ _) (.pure _)
  unfold fsmAbortAndRecoveryDispatch
  simp only [wp_bind, wp_read, wp_write]
  exact ⟨Std.Refl.refl _, Within.when (abortRollout_within suspend fsm _ _ _)
    (.ite (.bind (.read _) fun _ => .bind (fsm _ _ _ (by decide)) fun _ =>
      .when (suspend _ _) hygiene) hygiene) _⟩

end Dispatches

private theorem fsmAbortAndRecoveryDispatch_within (state : State) (quorumOK : Bool)
    (input : ObserveInput) :
    Within (Frame [.lastState] [.event])
      (fsmAbortAndRecoveryDispatch state quorumOK input) := by
  intro w
  have remembered : Frame [.lastState] [.event] w { w with mem.lastState := some state } := by
    refine ⟨fun part untouched => ?_, ⟨[], rfl, by simp⟩, Nat.le_refl _⟩
    cases part with
    | lastState => simp at untouched
    | _ => simp [Part.Kept, Carried]
  have plain : Tolerates [] [.event] (Frame [.lastState] [.event]) := fun _ _ frame => frame.mono
  exact wp_mono (fsmAbortAndRecoveryDispatch_wp
      (fun _ _ => plain.within (setSuspendedFrom_within _ _))
      (fun _ _ _ _ => plain.within (applyFSM_within _ _ _)) state quorumOK input w)
    (fun _ => IsTrans.trans _ _ _ remembered) fun _ _ => IsTrans.trans _ _ _ remembered

private theorem fsmSwitchMasterDispatch_within (state : State) (obs : Obs) :
    Within (Frame [.latch] [.observed]) (fsmSwitchMasterDispatch state obs) :=
  .ite (.bind (readSnapshot_within (by decide)) fun _ =>
    .bind (failoverLatchActive_within (by decide)) fun _ => .pure _) (.pure _)

theorem observeRolloutState_within (pods : List Pod) (sts : Option StatefulSet)
    (input : ObserveInput) :
    Within (Frame [.latch, .lastState] [.observed, .event])
      (observeRolloutState pods sts input) :=
  .bind ((deriveState_within _ _ _).mono fun _ _ frame => frame.mono) fun _ =>
    .bind ((rolloutTriggerDispatch_within _ _ _).mono fun _ _ frame => frame.mono) fun _ =>
      .bind ((replicasRolledDispatch_within _ _).mono fun _ _ frame => frame.mono) fun _ =>
        .bind ((fsmAbortAndRecoveryDispatch_within _ _ _).mono fun _ _ frame => frame.mono)
          fun _ => .bind ((fsmSwitchMasterDispatch_within _ _).mono fun _ _ frame => frame.mono)
            fun _ => .pure _

section Consults

variable {relation : World → World → Prop} [Std.Refl relation] [IsTrans World relation]
  (consult : ∀ site obs, Within relation (isFailoverInFlight site obs))

include consult

theorem consultAll_within (site : Site) (list : List Obs) :
    Within relation (consultAll site list) := by
  induction list with
  | nil => exact .pure _
  | cons obs rest ih => exact .bind (consult site obs) fun _ => ih

theorem reconcileSentinelInfra_within (state : State) (input : SentinelInfraInput)
    (plain : Tolerates [] [.event] relation) :
    Within relation (reconcileSentinelInfra state input) := by
  have event : ∀ failover, Within relation
      (recordEvent (.sentinelRollDeferred failover)) := fun _ =>
    (log_within (List.mem_singleton_self _)).mono plain
  exact .bind (.read _) fun _ => .ite (.pure _) (.ite (.pure _) (.ite (.pure _)
    (.bind (consult _ _) fun _ => .ite (.bind (event _) fun _ => .pure _)
      (.ite (.bind (event _) fun _ => .pure _) (.pure _)))))

end Consults

private theorem isFailoverInFlight_copy (site : Site) (obs : Obs) (v : CR) :
    Within (Keeps fun w => w.v = v) (isFailoverInFlight site obs) :=
  .bind (.bind (.write fun _ => id) fun _ => .pure _) fun _ => .bind (.read _) fun _ =>
    .bind (.write fun _ => id) fun _ => .pure _

/-- Phase 11 keeps what the questions and the dispatch keep. -/
theorem reconcileSentinelOrchestration_within {inv : World → Prop} (state : State)
    (input : OrchestrationInput)
    (consult : ∀ site obs, Within (Keeps inv) (isFailoverInFlight site obs))
    (dispatch : ∀ w, inv w → w.v.spec.hasSentinel = true →
      (runPrimaryRolloutDispatch state input.dispatch).wp inv (fun _ => inv) w) :
    Within (Keeps inv) (reconcileSentinelOrchestration state input) := by
  refine .of_wp fun w start => ?_
  unfold reconcileSentinelOrchestration
  simp only [wp_bind, wp_read, wp_ite, wp_pure]
  refine ⟨fun _ => start, fun sentinel => ?_⟩
  have before := consultAll_within
    (fun site obs => (consult site obs).and (isFailoverInFlight_copy site obs w.v))
    .sentinelOrchestration input.before
  refine wp_mono (before.wp ⟨start, rfl⟩) (fun _ => And.left) ?_
  rintro - middle ⟨here, copy⟩
  refine wp_mono (dispatch middle here ?_) (fun _ => id) fun _ final there => ?_
  · rw [copy]
    simpa using (not_or.mp sentinel).1
  · exact (consultAll_within consult _ _).wp there

end Velkir
