import Velkir.PrimaryRollout

/-!
# The replication gate and the replicas that stay behind

Phase 8 writes the replication condition of the pods. It deletes a replica that stays behind, one in
a pass.
-/

namespace Velkir

open Crash Proc

/-- The lag that the gate allows. -/
def readinessGateMaxLagBytes (spec : Spec) : Int :=
  spec.readinessMaxLagBytes.getD (2 ^ 20)

/-- The pod has the operator's gate. -/
def podHasReplicationGate (pod : Pod) : Bool :=
  pod.readinessGates.contains .replicationReady

/-- The condition behind the gate. -/
def findReplicationCondition (pod : Pod) : Option PodCondition :=
  pod.conditions.find? fun condition => condition.type = .replicationReady

/-- What the gate of a pod should say, why, and the reading behind it. -/
structure Evaluation where
  status : ConditionStatus
  message : String
  state : LagState
  error : Option String := none

/-- Evaluate the gate of one pod. `checkLag` answers by pod address. -/
def evaluateReplicationGate (pod : Pod) (checkLag : String → Except String LagState)
    (maxLag : Int) : Evaluation :=
  if pod.role = .primary then
    { status := .true, message := "primary; replication-ready by definition"
      state := { linkUp := false } }
  else
    match checkLag pod.podIP with
    | .error error =>
        { status := .false, message := "lag check failed: " ++ error
          state := { linkUp := false }, error := some error }
    | .ok state =>
        -- A pod that calls itself master was promoted and is not relabelled yet.
        if state.isMaster then
          { status := .true, message := "pod self-reports as master", state }
        else if !state.linkUp then
          { status := .false, message := "master_link_status:down", state }
        else if maxLag < state.lagBytes then
          { status := .false, state
            message := s!"lag {state.lagBytes} > {maxLag} bytes" }
        else
          { status := .true, message := s!"link up; lag {state.lagBytes} bytes", state }

/-- The conditions with the first of this type replaced, or with one more. -/
def setCondition (updated : PodCondition) : List PodCondition → List PodCondition
  | [] => [updated]
  | condition :: rest =>
      if condition.type = updated.type then updated :: rest
      else condition :: setCondition updated rest

/-- Write the condition unless the listed pod has it; say whether. -/
def patchReplicationCondition (pod : Pod) (desired : ConditionStatus) (message : String)
    (reply : Reply) : Proc World Bool := do
  let updated : PodCondition := { type := .replicationReady, status := desired, message }
  if findReplicationCondition pod = some updated then return false
  if reply ≠ .ok ∨ (← .read fun w => w.pods.role pod.name) = none then return false
  .write fun w => w.patchPod pod.name
    (fun stored => { stored with conditions := setCondition updated pod.conditions }) []
  return true

/-- A pod with its answer. -/
structure SurveyedPod where
  name : String
  ip : String
  state : LagState

/-- The replica's position in the stream, zero when it reports none. -/
def SurveyedPod.offset (pod : SurveyedPod) : Int :=
  pod.state.slaveReplOffset.getD 0

/-- What is known about the pods of a resource without a labelled primary. -/
structure ValkeyPodSurvey where
  livePodIPs : List String
  pendingPods : Nat
  dialed : Bool
  masters : List SurveyedPod
  replicas : List SurveyedPod
  dialFailures : Nat

/-- No replica has a link, and all point at one address that is no pod's. -/
def lineageAdmits (livePodIPs : List String) : String → List SurveyedPod → Bool
  | _, [] => true
  | lineageHost, replica :: rest =>
      let host := replica.state.masterHost
      if replica.state.linkUp ∨ host = "" ∨ host ∈ livePodIPs ∨
          (lineageHost ≠ "" ∧ host ≠ lineageHost) then false
      else lineageAdmits livePodIPs host rest

/-- Every pod was reached, and the replicas follow one dead master. -/
def promotionSurveyAdmits (survey : ValkeyPodSurvey) (endpoints : Nat) : Bool :=
  if !survey.dialed ∨ 0 < survey.dialFailures ∨ 0 < survey.pendingPods then false
  else if survey.masters.length ≠ 0 ∨ survey.replicas.length = 0 ∨ endpoints = 0 then false
  else lineageAdmits survey.livePodIPs "" survey.replicas

/-- The index of an allowed pod that no later allowed pod beats. -/
def bestIndex (allowed : SurveyedPod × Nat → Bool) (beats : SurveyedPod → SurveyedPod → Bool)
    (replicas : List SurveyedPod) : Option Nat :=
  let keep (best : Option (SurveyedPod × Nat)) (next : SurveyedPod × Nat) :=
    if !allowed next then best
    else
      match best with
      | none => some next
      | some held => if beats next.1 held.1 then some next else best
  (replicas.zipIdx.foldl keep none).map Prod.snd

/-- The freshest replica, of equals the one of the lowest name. -/
def choosePromotionCandidate (replicas : List SurveyedPod) : Option Nat :=
  bestIndex (fun next => next.1.state.slaveReplOffset.isSome)
    (fun next held => next.offset > held.offset ∨
      (next.offset = held.offset ∧ next.name < held.name)) replicas

/-- The least fresh eligible replica, of equals the one of the highest name. -/
def chooseEscapeVictim (replicas : List SurveyedPod) (eligible : List Bool)
    (protectedIdx : Nat) : Option Nat :=
  bestIndex (fun next => eligible[next.2]? = some true ∧ next.2 ≠ protectedIdx ∧
      next.1.state.slaveReplOffset.isSome)
    (fun next held => next.offset < held.offset ∨
      (next.offset = held.offset ∧ next.name > held.name)) replicas

/-- One reading that is kept for the escape. -/
structure ReplicaGateObs where
  pod : Pod
  state : LagState
  eligible : Bool

/-- What the loop collects for the escape. -/
structure EscapeReadings where
  livePodIPs : List String := []
  pendingPods : Nat := 0
  masters : List SurveyedPod := []
  obs : List ReplicaGateObs := []
  dialFailures : Nat := 0

/-- Keep the reading of a pod. -/
def appendEscapeReading (pod : Pod) (state : LagState) (failed eligible : Bool)
    (readings : EscapeReadings) : EscapeReadings :=
  if failed then { readings with dialFailures := readings.dialFailures + 1 }
  else if state.isMaster then
    { readings with masters := readings.masters ++ [⟨pod.name, pod.podIP, state⟩] }
  else { readings with obs := readings.obs ++ [⟨pod, state, eligible⟩] }

/-- A pod without an address is pending. -/
def EscapeReadings.locate (pod : Pod) (readings : EscapeReadings) : EscapeReadings :=
  if pod.podIP = "" then { readings with pendingPods := readings.pendingPods + 1 }
  else { readings with livePodIPs := readings.livePodIPs ++ [pod.podIP] }

/-- Ask a pod without a gate. It is never a victim. -/
def classifyGatelessEscapePod (checkLag : String → Except String LagState) (pod : Pod)
    (readings : EscapeReadings) : EscapeReadings :=
  if pod.podIP = "" then readings
  else
    match checkLag pod.podIP with
    | .error _ => appendEscapeReading pod {} true false readings
    | .ok state => appendEscapeReading pod state false false readings

/-- The survey that the readings make. -/
def EscapeReadings.survey (readings : EscapeReadings) : ValkeyPodSurvey where
  livePodIPs := readings.livePodIPs
  pendingPods := readings.pendingPods
  dialed := true
  masters := readings.masters
  replicas := readings.obs.map fun obs => ⟨obs.pod.name, obs.pod.podIP, obs.state⟩
  dialFailures := readings.dialFailures

/-- The replica to delete, if the survey admits a promotion of some other one. -/
def EscapeReadings.victim (readings : EscapeReadings) (endpoints : Option Nat) : Option Pod := do
  let endpoints ← endpoints
  let survey := readings.survey
  if !promotionSurveyAdmits survey endpoints ∨ survey.replicas.length < 2 then none
  else
    let protectedIdx ← choosePromotionCandidate survey.replicas
    let victim ← chooseEscapeVictim survey.replicas (readings.obs.map ReplicaGateObs.eligible)
      protectedIdx
    (readings.obs[victim]?).map ReplicaGateObs.pod

def staleReplicaThreshold : Nat := 90 * second

def staleReplicaEscapeDwell : Nat := 600 * second

def staleReplicaEscapeCooldown : Nat := 600 * second

def staleReplicaEscapeVictimDwell : Nat := 600 * second

/-- What Phase 8 reads. A victim recreated since the list shows as a conflict. -/
structure ReadinessInput where
  before : Drift := {}
  listFails : Bool := false
  checkLag : String → Except String LagState := fun _ => .ok {}
  patchReply : String → Reply := fun _ => .ok
  deleteReply : String → Reply := fun _ => .ok
  inFlight : Obs := {}
  promotionCooling : Bool := false
  endpoints : Option Nat := none
  escapeReply : Reply := .ok

/-- What every round of the loop knows. -/
structure GateLoop where
  input : ReadinessInput
  now : Nat
  maxLag : Int
  /-- No pod is labelled primary. -/
  suppress : Bool
  /-- The escape is due as far as time goes. -/
  escapeArmed : Bool

/-- The evaluation of a pod. -/
def GateLoop.evaluate (loop : GateLoop) (pod : Pod) : Evaluation :=
  evaluateReplicationGate pod loop.input.checkLag loop.maxLag

/-- The pod is a replica that is behind. -/
def GateLoop.staleReplicaFalse (loop : GateLoop) (pod : Pod) : Bool :=
  pod.role = .replica ∧ (loop.evaluate pod).status = .false

/-- Take the reading of a pod. -/
def EscapeReadings.visit (loop : GateLoop) (firstSeen : Nat) (pod : Pod)
    (readings : EscapeReadings) : EscapeReadings :=
  if !loop.suppress then readings
  else
    let readings := readings.locate pod
    if !podHasReplicationGate pod then
      if loop.escapeArmed then classifyGatelessEscapePod loop.input.checkLag pod readings
      else readings
    else if pod.podIP = "" then readings
    else
      let result := loop.evaluate pod
      appendEscapeReading pod result.state result.error.isSome
        (loop.staleReplicaFalse pod ∧ staleReplicaEscapeVictimDwell ≤ loop.now - firstSeen)
        readings

/-- When the gate of a pod was first seen closed, if it still is. -/
def Memory.closedSince (mem : Memory) (uid : String) : Option Nat :=
  (mem.staleReplicas.find? fun entry => entry.1 = uid).map Prod.snd

/-- When the gate of a pod that is closed now was first seen closed. -/
def Memory.firstSeen (mem : Memory) (uid : String) (now : Nat) : Nat :=
  (mem.closedSince uid).getD now

/-- Remember that a gate is closed, unless that is known. -/
def World.trackStale (uid : String) (now : Nat) (w : World) : World :=
  { w with mem.staleReplicas :=
      if (w.mem.closedSince uid).isSome then w.mem.staleReplicas
      else (uid, now) :: w.mem.staleReplicas }

/-- Forget that a gate was closed. -/
def World.untrackStale (uid : String) (w : World) : World :=
  { w with mem.staleReplicas := w.mem.staleReplicas.filter fun entry => entry.1 ≠ uid }

/-- The world without the deleted pod. -/
def World.cullPod (name : String) (w : World) : World :=
  { w with pods := w.pods.delete name, journal := .culled name w.now :: w.journal }

/-- Delete a pod by name. A pod that is already gone is no failure. -/
def cullPod (name : String) (reply : Reply) : Proc World Bool := do
  if reply ≠ .ok ∧ reply ≠ .notFound then return false
  if reply = .ok ∧ (← .read fun w => w.pods.role name) ≠ none then
    .write (World.cullPod name)
  return true

/-- Record the evaluation of a gate. -/
def reportGate (pod : Pod) (result : Evaluation) (reply : Reply) : Proc World Unit := do
  recordOptional (result.error.map (.replicationGateCheckFailed pod.name))
  if ← patchReplicationCondition pod result.status result.message reply then
    recordEvent (.replicationGatePatched pod.name result.status result.message)

/-- Delete a replica closed for too long; say whether that counts. -/
def recreateStale (loop : GateLoop) (pod : Pod) (staleFor : Nat) : Proc World Bool := do
  if !(← cullPod pod.name (loop.input.deleteReply pod.name)) then return false
  recordEvent (.staleReplicaRecreated pod.name staleFor)
  .write (World.untrackStale pod.uid)
  return true

/-- Look after an evaluated pod; say whether a replica was deleted. -/
def settleGate (loop : GateLoop) (pod : Pod) (firstSeen : Nat) (deleted : Bool) :
    Proc World Bool := do
  if (loop.evaluate pod).status = .true then
    .write (World.untrackStale pod.uid)
    return deleted
  if pod.role ≠ .replica then return deleted
  .write (World.trackStale pod.uid loop.now)
  if deleted ∨ loop.now - firstSeen < staleReplicaThreshold ∨ loop.suppress then return deleted
  recreateStale loop pod (loop.now - firstSeen)

/-- The state of the loop. -/
structure GateScan where
  deletedThisPass : Bool := false
  readings : EscapeReadings := {}

/-- One round of the loop. -/
def visitGate (loop : GateLoop) (scan : GateScan) (pod : Pod) : Proc World GateScan := do
  let firstSeen ← .read fun w => w.mem.firstSeen pod.uid loop.now
  let readings := scan.readings.visit loop firstSeen pod
  if !podHasReplicationGate pod ∨ pod.podIP = "" then return { scan with readings }
  reportGate pod (loop.evaluate pod) (loop.input.patchReply pod.name)
  let deletedThisPass ← settleGate loop pod firstSeen scan.deletedThisPass
  return { deletedThisPass, readings }

/-- No pod has been labelled primary for long enough. -/
def Memory.noPrimaryDwelt (mem : Memory) (now : Nat) : Bool :=
  mem.noPrimarySince.any fun since => staleReplicaEscapeDwell ≤ now - since

/-- The escape has cooled down. -/
def Memory.staleReplicaEscapeAllowed (mem : Memory) (now : Nat) : Bool :=
  mem.staleReplicaEscapeLastFired.all fun last => staleReplicaEscapeCooldown ≤ now - last

/-- The escape may fire. -/
def Memory.staleReplicaEscapeArmedAt (mem : Memory) (now : Nat) : Bool :=
  mem.noPrimaryDwelt now && mem.staleReplicaEscapeAllowed now

/-- Stamp the escape. -/
def World.recordStaleReplicaEscape (now : Nat) (w : World) : World :=
  { w with mem.staleReplicaEscapeLastFired := some now }

/-- Delete the least fresh replica after long without a primary. -/
def maybeEscapeStaleReplica (loop : GateLoop) (readings : EscapeReadings) : Proc World Unit := do
  let mem ← .read World.mem
  if !mem.noPrimaryDwelt loop.now then return
  if (← .read fun w => w.v.spec.masterName) = "" then return
  if !mem.staleReplicaEscapeAllowed loop.now then return
  if ← isFailoverInFlight .readinessEscape loop.input.inFlight then return
  if loop.input.promotionCooling then return
  match readings.victim loop.input.endpoints with
  | none => return
  | some target =>
      if !(← cullPod target.name loop.input.escapeReply) then return
      .write (World.recordStaleReplicaEscape loop.now)
      .write (World.untrackStale target.uid)
      recordEvent (.staleReplicaEscapeDeleted target.name
        (loop.now - mem.noPrimarySince.getD loop.now))

/-- There are pods, and none is primary. -/
def suppressStaleDelete (pods : List Pod) : Bool :=
  (pods.countP fun pod => pod.role = .primary) = 0 ∧ 0 < pods.length

/-- Remember since when no pod is labelled primary. -/
def World.observeNoPrimary (suppress : Bool) (w : World) : World :=
  { w with mem.noPrimarySince :=
      if suppress then some (w.mem.noPrimarySince.getD w.now) else none }

/-- What the loop knows when it starts. -/
def World.gateLoop (w : World) (input : ReadinessInput) : GateLoop :=
  let suppress := suppressStaleDelete w.pods.items
  { input, suppress
    now := w.now
    maxLag := readinessGateMaxLagBytes w.v.spec
    escapeArmed := suppress && (w.observeNoPrimary suppress).mem.staleReplicaEscapeArmedAt w.now }

/-- Phase 8: refresh the conditions and delete a replica that stays behind. -/
def reconcileReadinessGates (input : ReadinessInput) : Proc World Bool := do
  meanwhile input.before
  if !(← .read fun w => replicationGateEnabled w.v.spec) then return true
  if input.listFails then return false
  let pods ← .read fun w => w.pods.items
  let loop ← .read fun w => w.gateLoop input
  .write (World.observeNoPrimary loop.suppress)
  let scan ← pods.foldlM (visitGate loop) {}
  if loop.suppress ∧ !scan.deletedThisPass then maybeEscapeStaleReplica loop scan.readings
  return true

variable {kinds : List Kind} {touched : List Part}

private theorem World.trackStale_frame (uid : String) (now : Nat) (w : World) :
    Frame touched kinds w (w.trackStale uid now) :=
  w.memory_frame _ rfl rfl

theorem World.untrackStale_frame (uid : String) (w : World) :
    Frame touched kinds w (w.untrackStale uid) :=
  w.memory_frame _ rfl rfl

private theorem World.cullPod_frame (name : String) (w : World) :
    Frame [.pods] [.culled] w (w.cullPod name) := by
  refine ⟨fun part untouched => ?_, ⟨[_], rfl, by simp [Entry.kind]⟩, Nat.le_refl _⟩
  cases part with
  | pods => simp at untouched
  | _ => simp [Part.Kept, Carried, World.cullPod]

theorem cullPod_within (name : String) (reply : Reply) :
    Within (Frame [.pods] [.culled]) (cullPod name reply) :=
  .ite (.pure _) (.bind (.read _) fun _ =>
    .ite (.bind (.write (World.cullPod_frame name)) fun _ => .pure _) (.pure _))

private theorem patchReplicationCondition_within (pod : Pod) (desired : ConditionStatus)
    (message : String) (reply : Reply) :
    Within (Frame [.pods] kinds) (patchReplicationCondition pod desired message reply) :=
  .ite (.pure _) (.bind (.read _) fun _ => .ite (.pure _)
    (.bind (.write (World.patchPod_frame (by decide) (by simp))) fun _ => .pure _))

private theorem reportGate_within (pod : Pod) (result : Evaluation) (reply : Reply) :
    Within (Frame [.pods] [.event]) (reportGate pod result reply) := by
  refine .bind ((recordOptional_within fun event recorded => ?_).mono fun _ _ frame => frame.mono)
    fun _ => .bind (patchReplicationCondition_within pod _ _ reply) fun _ =>
      .ite (log_within (by simp [Entry.kind])) (.pure _)
  obtain ⟨error, -, rfl⟩ := Option.map_eq_some_iff.mp recorded
  rfl

private theorem recreateStale_within (loop : GateLoop) (pod : Pod) (staleFor : Nat) :
    Within (Frame [.pods] [.culled, .event]) (recreateStale loop pod staleFor) :=
  .bind ((cullPod_within _ _).mono fun _ _ frame => frame.mono) fun _ => .ite (.pure _)
    (.bind (log_within (by simp [Entry.kind])) fun _ =>
      .bind (.write (World.untrackStale_frame _)) fun _ => .pure _)

private theorem settleGate_within (loop : GateLoop) (pod : Pod) (firstSeen : Nat) (deleted : Bool) :
    Within (Frame [.pods] [.culled, .event]) (settleGate loop pod firstSeen deleted) :=
  .ite (.bind (.write (World.untrackStale_frame _)) fun _ => .pure _) (.ite (.pure _)
    (.bind (.write (World.trackStale_frame _ _)) fun _ => .ite (.pure _)
      (recreateStale_within loop pod _)))

theorem visitGate_within (loop : GateLoop) (scan : GateScan) (pod : Pod) :
    Within (Frame [.pods] [.culled, .event]) (visitGate loop scan pod) :=
  .bind (.read _) fun _ => .ite (.pure _)
    (.bind ((reportGate_within _ _ _).mono fun _ _ frame => frame.mono) fun _ =>
      .bind (settleGate_within loop pod _ _) fun _ => .pure _)

section Consult

variable {relation : World → World → Prop} [Std.Refl relation] [IsTrans World relation]
  (consult : ∀ site obs, Within relation (isFailoverInFlight site obs))

include consult

theorem maybeEscapeStaleReplica_within (plain : Tolerates [.pods] [.culled, .event] relation)
    (loop : GateLoop) (readings : EscapeReadings) :
    Within relation (maybeEscapeStaleReplica loop readings) := by
  have event : ∀ event, (Entry.event event).kind = .event →
      Within relation (recordEvent event) := fun event kind =>
    plain.within (log_within (by simp [kind])) (List.nil_subset _) (List.Subset.refl _)
  refine .bind (.read _) fun mem => .ite (.pure _) (.bind (.read _) fun _ => .ite (.pure _)
    (.ite (.pure _) (.bind (consult _ _) fun _ => .ite (.pure _) (.ite (.pure _) ?_))))
  cases readings.victim loop.input.endpoints with
  | none => exact .pure _
  | some target =>
      refine .bind (plain.within (cullPod_within _ _)) fun _ => .ite (.pure _) ?_
      refine .bind (.write fun w => plain _ _ (w.memory_frame _ rfl rfl)) fun _ =>
        .bind (.write fun w => plain _ _ (w.untrackStale_frame _)) fun _ => event _ rfl

/-- Phase 8 writes and deletes pods, and asks about a failover once. -/
theorem reconcileReadinessGates_within
    (plain : Tolerates [.pods, .pvcs, .stored] [.culled, .event] relation)
    (input : ReadinessInput) : Within relation (reconcileReadinessGates input) := by
  have visit : ∀ loop scan pod, Within relation (visitGate loop scan pod) :=
    fun loop scan pod => plain.within (visitGate_within loop scan pod)
  refine .bind (.write fun w => plain _ _ ((w.drift_frame _).mono)) fun _ => .bind (.read _)
    fun _ => .ite (.pure _) (.ite (.pure _) (.bind (.read _) fun pods => .bind (.read _)
      fun loop => .bind (.write fun w => plain _ _ (w.memory_frame _ rfl rfl)) fun _ =>
        .bind (.foldlM fun scan pod _ => visit loop scan pod) fun _ => ?_))
  exact .ite (.bind (maybeEscapeStaleReplica_within consult
    (fun _ _ frame => plain _ _ frame.mono) _ _) fun _ => .pure _) (.pure _)

end Consult

end Velkir
