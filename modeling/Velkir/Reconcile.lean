import Velkir.AuthRotation
import Velkir.History
import Velkir.Phases
import Velkir.PvcLoss
import Velkir.PvcResize

/-!
# A reconcile pass

A pass runs the phases in order up to the first failure. The operator may die in any of them, and
others write meanwhile.
-/

namespace Velkir

open Crash Proc History

/-- Everything a pass reads from outside and how its requests are answered. -/
structure PassInput where
  fetchFails : Bool := false
  finalizerReply : Reply := .ok
  lockContended : Bool := false
  deletion : DeletionInput := {}
  auth : AuthInput := {}
  pvcLoss : PVCLossInput := {}
  listPodsFails : Bool := false
  getSTSFails : Bool := false
  observe : ObserveInput := {}
  configMapsFail : Bool := false
  resize : PVCResizeInput := {}
  serviceAccountsFail : Bool := false
  statefulSet : StatefulSetInput := {}
  sentinelInfra : SentinelInfraInput := {}
  servicesFail : Bool := false
  beforeLabels : Drift := {}
  labels : RoleLabelsInput := {}
  orphanMasters : List Obs := []
  readiness : ReadinessInput := {}
  rollout : PodRolloutInput := {}
  orchestration : OrchestrationInput := {}
  annotationsReply : Reply := .ok
  beforeStatus : Drift := {}
  statusReply : Reply := .ok

/-- Phases 1 to 11 as in the source: 4 before 2, 7 before 9 on the older list. -/
def applyDesiredState (input : PassInput) (derived : State × ObservedFacts) (pods : List Pod)
    (sts : Option StatefulSet) : Proc World Bool :=
  .chain [
    return !input.configMapsFail,
    reconcilePVCResize input.resize,
    return !input.serviceAccountsFail,
    reconcileStatefulSet derived.1 input.statefulSet,
    reconcileSentinelInfra derived.1 input.sentinelInfra,
    return !input.servicesFail,
    do meanwhile input.beforeLabels; return true,
    reconcileRoleLabels input.labels,
    do consultAll .orphanMaster input.orphanMasters; return true,
    reconcileReadinessGates input.readiness,
    reconcilePodRollout derived.2.quorumOK pods sts input.rollout,
    do reconcileSentinelOrchestration derived.1 input.orchestration; return true]

/-- List the pods, read the StatefulSet, derive the state and apply. -/
def observeAndApply (input : PassInput) : Proc World Bool := do
  if input.listPodsFails ∨ input.getSTSFails then return false
  let pods ← .read fun w => w.pods.items
  let sts ← .read World.sts
  let derived ← observeRolloutState pods sts input.observe
  applyDesiredState input derived pods sts

/-- Strip the annotations that a successful pass has consumed. -/
def clearSingleShotAnnotations (reply : Reply) : Proc World Bool := do
  let held ← .read fun w => w.v.annotations
  if held.acceptPVCLoss = none ∧ held.forceRotate = none then return true
  if reply ≠ .ok then return false
  .write fun w => { w with
    cr.annotations := { w.cr.annotations with
      acceptPVCLoss := if held.acceptPVCLoss = none then w.cr.annotations.acceptPVCLoss else none
      forceRotate := if held.forceRotate = none then w.cr.annotations.forceRotate else none } }
  return true

/-- The world once the process has forgotten the resource. -/
def World.forget (w : World) : World :=
  { w with mem := {}, journal := .memoryLost :: w.journal }

/-- Drop the memory of the resource. -/
def forgetCR : Proc World Unit :=
  .write World.forget

/-- Phase 0c: a successful deletion also drops the memory. -/
def deleteCR (input : DeletionInput) : Proc World Unit := do
  if ← reconcileDeletion input then forgetCR

/-- The phases of a live resource. -/
def reconcilePhases (hadFinalizer : Bool) (input : PassInput) : Proc World Bool :=
  .chain [
    resolveAuth input.auth,
    detectPVCLossAndGate hadFinalizer input.pvcLoss,
    observeAndApply input,
    clearSingleShotAnnotations input.annotationsReply]

/-- The body of the pass, and whether to write the status. -/
def reconcileBody (v : CR) (input : PassInput) : Proc World Bool := do
  if v.annotations.paused = some "true" then return !v.deleting
  if !(← ensurePVCRetentionFinalizer v.deleting input.finalizerReply) then return !v.deleting
  if input.lockContended then return false
  if v.deleting then
    deleteCR input.deletion
    return false
  let _ ← reconcilePhases v.finalizer input
  return true

/-- The status write that ends a pass. -/
def finishPass (paused : Bool) (input : PassInput) : Proc World Unit := do
  meanwhile input.beforeStatus
  let verdict ← evaluateRolloutWatchdog paused
  let _ ← updateStatus verdict input.statusReply

/-- Run the pass on the fetched copy. -/
def reconcileFetched (input : PassInput) : Proc World Unit := do
  let v ← .read World.v
  if ← reconcileBody v input then finishPass (v.annotations.paused = some "true") input

/-- The world after the resource was fetched and its spec defaulted. -/
def World.fetch (w : World) : World :=
  { w with v := w.cr.normalized }

/-- One pass over the resource. -/
def reconcile (input : PassInput) : Proc World Unit := do
  if ← .read World.gone then forgetCR
  else if input.fetchFails then return
  else
    .write World.fetch
    reconcileFetched input

/-- The operator, its deaths and its surroundings. -/
def operator : System World PassInput Drift Unit where
  call := reconcile
  restart := World.forget
  drift := World.drift

theorem World.fetch_frame (w : World) : Frame [.stored] [] w w.fetch := by
  refine ⟨fun part untouched => ?_, ⟨[], rfl, by simp⟩, Nat.le_refl _⟩
  cases part with
  | stored => simp at untouched
  | _ => simp [Part.Kept, Carried, World.fetch, CR.normalized, CR.identity]

theorem World.forget_frame (w : World) : Frame [.latch, .lastState] [.memoryLost] w w.forget := by
  refine ⟨fun part untouched => ?_, ⟨[.memoryLost], rfl, by decide⟩, Nat.le_refl _⟩
  cases part with
  | latch | lastState => simp at untouched
  | _ => simp [Part.Kept, Carried, World.forget]

theorem clearSingleShotAnnotations_within (reply : Reply) :
    Within (Frame [] []) (clearSingleShotAnnotations reply) := by
  refine .bind (.read _) fun _ => .ite (.pure _) (.ite (.pure _) (.bind (.write fun w =>
    ⟨fun part _ => ?_, ⟨[], rfl, by simp⟩, Nat.le_refl _⟩) fun _ => .pure _))
  cases part <;> simp [Part.Kept, Carried, CR.identity]

/-- The parts and lines of the phases that need no rule of their own. -/
def plainParts : List Part := [.pods, .pvcs, .stored]

def plainKinds : List Kind := [.culled, .finalized, .rotating, .event]

/-- Rules for `along`: `early` until Phase 7, then `late`, `done` after Phase 9. -/
structure BodyRules (along early late done : World → Prop) (input : PassInput) : Prop where
  early_along : ∀ w, early w → along w
  late_along : ∀ w, late w → along w
  done_along : ∀ w, done w → along w
  forget : ∀ w, along w → along w.forget
  plain_along : Tolerates plainParts plainKinds (Keeps along)
  plain_early : Tolerates plainParts plainKinds (Keeps early)
  plain_late : Tolerates plainParts plainKinds (Keeps late)
  consult_early : ∀ site obs, Within (Keeps early) (isFailoverInFlight site obs)
  consult_late : ∀ site obs, Within (Keeps late) (isFailoverInFlight site obs)
  consult_done : ∀ site obs, Within (Keeps done) (isFailoverInFlight site obs)
  observe : ∀ pods sts,
    Within (Keeps early) (observeRolloutState pods sts input.observe)
  resize : Within (Keeps early) (reconcilePVCResize input.resize)
  statefulSet : ∀ state,
    Within (Keeps early) (reconcileStatefulSet state input.statefulSet)
  labels : ∀ w, early w → (reconcileRoleLabels input.labels).wp along
    (fun ok final => along final ∧ (ok = true → late final)) w
  rollout : ∀ quorumOK pods sts w, late w →
    (reconcilePodRollout quorumOK pods sts input.rollout).wp along
      (fun ok final => along final ∧ (ok = true → done final)) w
  dispatch : ∀ state w, done w → w.v.spec.hasSentinel = true →
    (runPrimaryRolloutDispatch state input.orchestration.dispatch).wp done (fun _ => done) w

variable {w : World} {inv : World → Prop}

namespace BodyRules

variable {along early late done : World → Prop} {input : PassInput}
  (rules : BodyRules along early late done input)

include rules

private theorem applyDesiredState_wp (derived : State × ObservedFacts) (pods : List Pod)
    (sts : Option StatefulSet) (start : early w) :
    (applyDesiredState input derived pods sts).wp along (fun _ => along) w := by
  have early_step : ∀ {first next : Proc World Bool} {w : World},
      Within (Keeps early) first → early w →
        (∀ middle, early middle → next.wp along (fun _ => along) middle) →
          (first.andThen next).wp along (fun _ => along) w :=
    fun within => within.stage rules.early_along
  have late_step : ∀ {first next : Proc World Bool} {w : World},
      Within (Keeps late) first → late w →
        (∀ middle, late middle → next.wp along (fun _ => along) middle) →
          (first.andThen next).wp along (fun _ => along) w :=
    fun within => within.stage rules.late_along
  refine early_step (.pure _) start fun w start => ?_
  refine early_step rules.resize start fun w start => ?_
  refine early_step (.pure _) start fun w start => ?_
  refine early_step (rules.statefulSet _) start fun w start => ?_
  refine early_step (reconcileSentinelInfra_within rules.consult_early _ _
    fun _ _ frame => rules.plain_early _ _ frame.mono) start fun w start => ?_
  refine early_step (.pure _) start fun w start => ?_
  refine early_step (.bind (.write fun w => rules.plain_early _ _ (w.drift_frame _).mono)
    fun _ => .pure _) start fun w start => ?_
  refine wp_andThen (wp_mono (rules.labels w start) (fun _ => id) ?_)
  rintro (_ | _) w ⟨here, after⟩
  · exact here
  have start : late w := after rfl
  refine late_step (.bind (consultAll_within rules.consult_late _ _) fun _ => .pure _) start
    fun w start => ?_
  refine late_step (reconcileReadinessGates_within rules.consult_late
    (fun _ _ frame => rules.plain_late _ _ frame.mono) _) start fun w start => ?_
  refine wp_andThen (wp_mono (rules.rollout _ _ _ w start) (fun _ => id) ?_)
  rintro (_ | _) w ⟨here, after⟩
  · exact here
  have orchestration : Within (Keeps done)
      (do reconcileSentinelOrchestration derived.1 input.orchestration; return true) :=
    .bind (reconcileSentinelOrchestration_within _ _ rules.consult_done (rules.dispatch _))
      fun _ => .pure _
  exact orchestration.stage rules.done_along (after rfl) fun w start =>
    wp_pure.mpr (rules.done_along w start)

private theorem observeAndApply_wp (start : early w) :
    (observeAndApply input).wp along (fun _ => along) w := by
  refine wp_ite.mpr ⟨fun _ => wp_pure.mpr (rules.early_along w start), fun _ => ?_⟩
  simp only [wp_bind, wp_read]
  refine wp_mono ((rules.observe _ _).wp start) rules.early_along fun derived w start => ?_
  exact rules.applyDesiredState_wp derived _ _ start

private theorem reconcilePhases_wp {hadFinalizer : Bool}
    (gate : Within (Keeps early) (detectPVCLossAndGate hadFinalizer input.pvcLoss))
    (start : early w) : (reconcilePhases hadFinalizer input).wp along (fun _ => along) w := by
  refine Within.stage (resolveAuth_within _ (fun _ _ frame => rules.plain_early _ _ frame.mono)
    rules.consult_early) rules.early_along start fun w start => ?_
  refine gate.stage rules.early_along start fun w start => ?_
  refine wp_andThen (wp_mono (rules.observeAndApply_wp start) (fun _ => id) ?_)
  rintro (_ | _) w here
  · exact here
  · exact Within.stage (rules.plain_along.within (clearSingleShotAnnotations_within _))
      (fun _ => id) here fun _ here => wp_pure.mpr here

/-- The phases keep what their rules establish. A paused resource skips them. -/
theorem reconcileBody_wp {v : CR}
    (gate : Within (Keeps early) (detectPVCLossAndGate v.finalizer input.pvcLoss))
    (start : early w) :
    (reconcileBody v input).wp along
      (fun _ final => along final ∧ (v.annotations.paused = some "true" → early final)) w := by
  refine wp_ite.mpr ⟨fun _ => wp_pure.mpr ⟨rules.early_along w start, fun _ => start⟩,
    fun live => ?_⟩
  rw [wp_bind]
  refine wp_mono ((rules.plain_early.within (ensurePVCRetentionFinalizer_within _ _)).wp start)
    rules.early_along fun _ w start => ?_
  have here : along w ∧ (v.annotations.paused = some "true" → early w) :=
    ⟨rules.early_along w start, fun _ => start⟩
  simp only [wp_ite, wp_pure, wp_bind]
  refine ⟨fun _ => here, fun _ => ⟨fun _ => here, fun _ => ⟨fun _ => ?_, fun _ => ?_⟩⟩⟩
  · have deletion : Within (Keeps along) (deleteCR input.deletion) :=
      .bind (rules.plain_along.within (reconcileDeletion_within _)) fun _ =>
        .ite (.write rules.forget) (.pure _)
    exact wp_mono (deletion.wp here.1) (fun _ => id) fun _ _ done =>
      ⟨done, fun paused => absurd paused live⟩
  · exact wp_mono (rules.reconcilePhases_wp gate start) (fun _ => id) fun _ _ done =>
      ⟨done, fun paused => absurd paused live⟩

/-- A pass whose status write starts from `along` ends in `post`. -/
theorem reconcile_wp {post : World → Prop} (weaken : ∀ w, along w → inv w) (idle : post w)
    (forget : inv w.forget ∧ post w.forget) (fetch : early w.fetch)
    (gate : Within (Keeps early) (detectPVCLossAndGate w.cr.finalizer input.pvcLoss))
    (stop : ∀ middle, along middle → post middle)
    (finish : ∀ paused middle, along middle → (paused = true → early middle) →
      (finishPass paused input).wp inv (fun _ => post) middle) :
    (reconcile input).wp inv (fun _ => post) w := by
  unfold reconcile reconcileFetched forgetCR
  simp only [wp_bind, wp_read, wp_ite, wp_pure, wp_write]
  refine ⟨fun _ => forget, fun _ => ⟨fun _ => idle, fun _ =>
    ⟨weaken _ (rules.early_along _ fetch), ?_⟩⟩⟩
  refine wp_mono (rules.reconcileBody_wp gate fetch) weaken fun _ middle here => ?_
  exact ⟨fun _ => finish _ middle here.1 fun paused => here.2 (of_decide_eq_true paused),
    fun _ => stop middle here.1⟩

end BodyRules

/-- The rules of a pass whose status write needs no more than `along`. -/
structure PassRules (along early late : World → Prop) (input : PassInput) : Prop
    extends BodyRules along early late late input where
  fetch : ∀ w, along w → early w.fetch
  gate : ∀ hadFinalizer,
    Within (Keeps early) (detectPVCLossAndGate hadFinalizer input.pvcLoss)
  evaluate : ∀ paused, Within (Keeps along) (evaluateRolloutWatchdog paused)
  update : ∀ verdict, Within (Keeps along) (updateStatus verdict input.statusReply)

variable {along early late : World → Prop} {input : PassInput}

theorem PassRules.reconcile_keeps (rules : PassRules along early late input) (start : along w) :
    (reconcile input).wp along (fun _ => along) w := by
  refine rules.reconcile_wp (fun _ => id) start ⟨rules.forget w start, rules.forget w start⟩
    (rules.fetch w start) (rules.gate _) (fun _ => id) fun paused middle here _ => ?_
  have finish : Within (Keeps along) (finishPass paused input) :=
    .bind (.write fun w => rules.plain_along _ _ (w.drift_frame _).mono) fun _ =>
      .bind (rules.evaluate paused) fun _ => .bind (rules.update _) fun _ => .pure _
  exact finish.wp here

/-- What the rules of every pass establish holds after every run. -/
theorem operator_invariant {acts : List (Act PassInput Drift)}
    (rules : ∀ input, PassRules along early late input) (start : along w) :
    along (operator.run acts w) := by
  refine System.run_invariant (fun input w => (rules input).reconcile_keeps) ?_ ?_ acts start
  · exact (rules {}).forget
  · exact fun change w => (rules {}).plain_along _ _ (w.drift_frame change).mono

def everyPart : List Part :=
  [.pods, .sts, .pvcs, .stored, .identity, .dispatch, .watchdog, .resize, .latch, .lastState]

/-- The lines that neither Phase 2 nor Phase 9 writes, and events. -/
def otherKinds : List Kind := Kind.but [.rolling, .rolled, .applying, .created]

theorem always_tolerates {right : Entry → List Entry → Prop} {touched : List Part}
    {kinds : List Kind} (neutral : ∀ line, line.kind ∈ kinds → ∀ before, right line before) :
    Tolerates touched kinds (Keeps fun w => Always right w.journal) := by
  intro before after frame always
  obtain ⟨lines, journal, kind⟩ := frame.journal
  rw [journal]
  exact always.append fun line mem => neutral line (kind line mem)

/-- The parts of everything but the gate and Phases 2, 4 and 9. -/
def restParts : List Part :=
  [.pods, .pvcs, .stored, .identity, .dispatch, .watchdog, .latch, .lastState]

/-- The lines, likewise. -/
def restKinds : List Kind := Kind.but [.rolling, .rolled, .orphaned, .grown, .sizing, .patched,
  .completed, .driving, .resized, .applying, .created, .refused]

/-- Invariants that tolerate the rest need rules for Phases 2, 4 and 9. -/
theorem BodyRules.of_tolerates (weaken : ∀ w, inv w → along w)
    (outer : Tolerates restParts restKinds (Keeps along))
    (tolerates : Tolerates restParts restKinds (Keeps inv))
    (resize : Within (Keeps inv) (reconcilePVCResize input.resize))
    (statefulSet : ∀ state, Within (Keeps inv) (reconcileStatefulSet state input.statefulSet))
    (rollout : ∀ quorumOK pods sts,
      Within (Keeps inv) (reconcilePodRollout quorumOK pods sts input.rollout)) :
    BodyRules along inv inv inv input where
  early_along := weaken
  late_along := weaken
  done_along := weaken
  forget w := outer _ _ w.forget_frame.mono
  plain_along _ _ frame := outer _ _ frame.mono
  plain_early _ _ frame := tolerates _ _ frame.mono
  plain_late _ _ frame := tolerates _ _ frame.mono
  consult_early _ _ := tolerates.within (isFailoverInFlight_frame _ _)
  consult_late _ _ := tolerates.within (isFailoverInFlight_frame _ _)
  consult_done _ _ := tolerates.within (isFailoverInFlight_frame _ _)
  observe _ _ := tolerates.within (observeRolloutState_within _ _ _)
  resize := resize
  statefulSet := statefulSet
  labels w start := by
    have keeps : Within (Keeps inv) (reconcileRoleLabels input.labels) :=
      tolerates.within (reconcileRoleLabels_within _)
    exact wp_mono (keeps.wp start) weaken fun _ final here =>
      ⟨weaken final here, fun _ => here⟩
  rollout quorumOK pods sts _ start := wp_mono ((rollout quorumOK pods sts).wp start)
    weaken fun _ final here => ⟨weaken final here, fun _ => here⟩
  dispatch state _ start _ := by
    have keeps : Within (Keeps inv)
        (runPrimaryRolloutDispatch state input.orchestration.dispatch) :=
      tolerates.within (runPrimaryRolloutDispatch_within _ _)
    exact keeps.wp start

theorem finishPass_keeps (tolerates : Tolerates restParts restKinds (Keeps inv)) (paused : Bool)
    (input : PassInput) : Within (Keeps inv) (finishPass paused input) :=
  .bind (.write fun w => tolerates _ _ (w.drift_frame _).mono) fun _ =>
    .bind (tolerates.within (evaluateRolloutWatchdog_within _)) fun _ =>
      .bind (tolerates.within (updateStatus_within _ _)) fun _ => .pure _

/-- An invariant that tolerates the rest needs rules for Phases 2 and 9. -/
theorem PassRules.of_tolerates (tolerates : Tolerates everyPart otherKinds (Keeps inv))
    (statefulSet : ∀ state, Within (Keeps inv) (reconcileStatefulSet state input.statefulSet))
    (rollout : ∀ quorumOK pods sts,
      Within (Keeps inv) (reconcilePodRollout quorumOK pods sts input.rollout)) :
    PassRules inv inv inv input where
  toBodyRules := .of_tolerates (fun _ => id) (fun _ _ frame => tolerates _ _ frame.mono)
    (fun _ _ frame => tolerates _ _ frame.mono) (tolerates.within (reconcilePVCResize_within _))
    statefulSet rollout
  fetch w := tolerates _ _ w.fetch_frame.mono
  gate _ := tolerates.within (detectPVCLossAndGate_within _ _)
  evaluate _ := tolerates.within (evaluateRolloutWatchdog_within _)
  update _ := tolerates.within (updateStatus_within _ _)

end Velkir
