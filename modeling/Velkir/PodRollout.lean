import Velkir.RoleLabels
import Velkir.Watchdog

/-!
# One rollout step

Phase 9 deletes one stale replica per pass, highest ordinal first, by the pods listed at the start
of the pass.
-/

namespace Velkir

open Crash Proc

/-- The pod neither terminates nor has to become ready or healthy. -/
def Pod.settled (pod : Pod) : Bool :=
  !pod.terminating && podReady pod && podReplicationHealthy pod

/-- The pods behind the target revision that are not labelled primary. -/
def staleReplicas (target : String) (pods : List Pod) : List Pod :=
  pods.filter fun pod => pod.revision ≠ target ∧ pod.role ≠ .primary

/-- The pods with the highest ordinal. -/
def highestOrdinals (crName : String) (queue : List Pod) : List Pod :=
  queue.filter fun pod =>
    queue.all fun other => ordinalFromPod other crName ≤ ordinalFromPod pod crName

/-- The first pod of the queue; the sort is not stable, so `pick` decides. -/
def queueHead (crName : String) (pick : Nat) (queue : List Pod) : Option Pod :=
  let heads := highestOrdinals crName queue
  heads[pick % heads.length]?

variable {pod : Pod} {crName : String} {queue : List Pod}

private theorem mem_highestOrdinals :
    pod ∈ highestOrdinals crName queue ↔
      pod ∈ queue ∧ ∀ other ∈ queue, ordinalFromPod other crName ≤ ordinalFromPod pod crName := by
  simp [highestOrdinals]

theorem queueHead_iff :
    (∃ pick, queueHead crName pick queue = some pod) ↔ pod ∈ highestOrdinals crName queue := by
  constructor
  · rintro ⟨pick, found⟩
    exact List.mem_of_getElem? found
  · intro mem
    obtain ⟨pick, bound, rfl⟩ := List.mem_iff_getElem.mp mem
    exact ⟨pick, by simp [queueHead, Nat.mod_eq_of_lt bound]⟩

/-- How the sort orders equals and the API server answers the delete. -/
structure PodRolloutInput where
  pick : Nat := 0
  deleteReply : Reply := .ok
  deriving DecidableEq

/-- The world without the pod. -/
def World.deletePod (name : String) (w : World) : World :=
  { w with pods := w.pods.delete name, journal := .rolled name w.now :: w.journal }

/-- Delete a pod by name. A pod that is already gone is no failure. -/
def deletePod (name : String) (reply : Reply) : Proc World Bool := do
  if reply ≠ .ok ∧ reply ≠ .notFound then return false
  if reply = .ok ∧ (← .read fun w => w.pods.role name) ≠ none then
    .write (World.deletePod name)
  return true

/-- The wait that a spec without one gets. -/
def rolloutTimeout (spec : Spec) : Int :=
  if spec.replicaReadyTimeoutSeconds = 0 then 300 else spec.replicaReadyTimeoutSeconds

/-- The world with the watchdog armed in the working copy only. -/
def World.armFor (name : String) (w : World) : World :=
  { w with
    v.status.masterAware :=
      some (arm w.now name (rolloutTimeout w.v.spec) w.v.status.masterAware) }

/-- Delete the victim and arm the watchdog for it. -/
def rollPod (victim : Pod) (sts : StatefulSet) (reply : Reply) : Proc World Bool := do
  if !(← deletePod victim.name reply) then return false
  .write (World.armFor victim.name)
  recordEvent (.podRolledForConfig victim.name sts.updateRevision sts.currentRevision)
  return true

/-- One step over the pods of a view. -/
def rollView (view : RolloutView) (input : PodRolloutInput) : Proc World Bool := do
  let target := view.sts.updateRevision
  if target = "" ∨ target = view.sts.currentRevision then return true
  if !view.pods.all Pod.settled then return true
  match queueHead view.crName input.pick (staleReplicas target view.pods) with
  | none =>
      if view.pods.any fun pod => pod.revision ≠ target ∧ pod.role = .primary then
        recordEvent (.rolloutDeferred false)
      return true
  | some victim =>
      if view.mode = .sentinel ∧ !view.quorumOK then
        recordEvent (.rolloutDeferred true)
        return true
      rollPod victim view.sts input.deleteReply

/-- Phase 9: delete at most one stale replica of the pods read at the start. -/
def reconcilePodRollout (quorumOK : Bool) (pods : List Pod) (sts : Option StatefulSet)
    (input : PodRolloutInput) : Proc World Bool := do
  let v ← .read World.v
  if v.spec.mode = .standalone then return true
  match sts with
  | none => return true
  | some sts =>
      let view := { mode := v.spec.mode, crName := v.name, pods, sts, quorumOK }
      logHere fun w => .rolling view w.now
      rollView view input

private theorem World.deletePod_frame (name : String) (w : World) :
    Frame [.pods] [.rolled] w (w.deletePod name) := by
  refine ⟨fun part untouched => ?_, ⟨[_], rfl, by simp [Entry.kind]⟩, Nat.le_refl _⟩
  cases part with
  | pods => simp at untouched
  | _ => simp [Part.Kept, Carried, World.deletePod]

private theorem World.armFor_frame (name : String) (w : World) :
    Frame [.watchdog] [] w (w.armFor name) := by
  refine ⟨fun part untouched => ?_, ⟨[], rfl, by simp⟩, Nat.le_refl _⟩
  cases part with
  | watchdog => simp at untouched
  | _ => simp [Part.Kept, Carried, CR.identity, World.armFor]

private theorem rollPod_within (victim : Pod) (sts : StatefulSet) (reply : Reply) :
    Within (Frame [.pods, .watchdog] [.rolling, .rolled, .event])
      (rollPod victim sts reply) := by
  have delete : Within (Frame [.pods, .watchdog] [.rolling, .rolled, .event])
      (deletePod victim.name reply) :=
    .ite (.pure _) (.bind (.read _) fun _ => .ite (.bind
      (.write fun w => (w.deletePod_frame _).mono) fun _ => .pure _) (.pure _))
  exact .bind delete fun _ => .ite (.pure _) (.bind (.write fun w => (w.armFor_frame _).mono)
    fun _ => .bind (log_within (by simp [Entry.kind])) fun _ => .pure _)

private theorem rollView_within (view : RolloutView) (input : PodRolloutInput) :
    Within (Frame [.pods, .watchdog] [.rolling, .rolled, .event]) (rollView view input) := by
  have deferred : ∀ quorum, Within (Frame [.pods, .watchdog] [.rolling, .rolled, .event])
      (recordEvent (.rolloutDeferred quorum)) := fun _ => log_within (by simp [Entry.kind])
  unfold rollView
  refine .ite (.pure _) (.ite (.pure _) ?_)
  split
  · exact .ite (.bind (deferred _) fun _ => .pure _) (.pure _)
  · exact .ite (.bind (deferred _) fun _ => .pure _) (rollPod_within _ _ _)

theorem reconcilePodRollout_within (quorumOK : Bool) (pods : List Pod) (sts : Option StatefulSet)
    (input : PodRolloutInput) :
    Within (Frame [.pods, .watchdog] [.rolling, .rolled, .event])
      (reconcilePodRollout quorumOK pods sts input) := by
  refine .bind (.read _) fun v => .ite (.pure _) ?_
  cases sts with
  | none => exact .pure _
  | some sts =>
      exact .bind (logHere_within fun _ => by simp [Entry.kind]) fun _ => rollView_within _ _

/-- All is settled under a quorum, and this is the highest stale replica. -/
structure RolloutView.Exposes (view : RolloutView) (pod : Pod) : Prop where
  moved : view.sts.updateRevision ≠ "" ∧ view.sts.updateRevision ≠ view.sts.currentRevision
  settled : ∀ other ∈ view.pods,
    other.terminating = false ∧ podReady other = true ∧ podReplicationHealthy other = true
  quorum : view.mode = .sentinel → view.quorumOK = true
  listed : pod ∈ view.pods
  stale : pod.revision ≠ view.sts.updateRevision
  unlabelled : pod.role ≠ .primary
  highest : ∀ other ∈ view.pods, other.revision ≠ view.sts.updateRevision →
    other.role ≠ .primary → ordinalFromPod other view.crName ≤ ordinalFromPod pod view.crName

variable {view : RolloutView}

theorem RolloutView.exposes_iff :
    view.Exposes pod ↔
      ¬(view.sts.updateRevision = "" ∨ view.sts.updateRevision = view.sts.currentRevision) ∧
      view.pods.all Pod.settled = true ∧ ¬(view.mode = .sentinel ∧ !view.quorumOK) ∧
      pod ∈ highestOrdinals view.crName (staleReplicas view.sts.updateRevision view.pods) := by
  have quorum : ¬(view.mode = .sentinel ∧ !view.quorumOK) ↔
      (view.mode = .sentinel → view.quorumOK = true) := by simp
  have settled : view.pods.all Pod.settled = true ↔ ∀ other ∈ view.pods,
      other.terminating = false ∧ podReady other = true ∧ podReplicationHealthy other = true := by
    simp [Pod.settled, and_assoc]
  rw [quorum, settled, mem_highestOrdinals]
  simp only [staleReplicas, List.mem_filter, decide_eq_true_eq, not_or]
  constructor
  · rintro ⟨moved, settled, quorum, listed, stale, unlabelled, highest⟩
    exact ⟨moved, settled, quorum, ⟨listed, stale, unlabelled⟩,
      fun other mem => highest other mem.1 mem.2.1 mem.2.2⟩
  · rintro ⟨moved, settled, quorum, ⟨listed, stale, unlabelled⟩, highest⟩
    exact ⟨moved, settled, quorum, listed, stale, unlabelled,
      fun other mem old label => highest other ⟨mem, old, label⟩⟩

instance (view : RolloutView) (pod : Pod) : Decidable (view.Exposes pod) :=
  decidable_of_iff' _ RolloutView.exposes_iff

variable {w : World} {along : World → Prop} {post : Bool → World → Prop}

/-- Rolling a pod fails, or deletes it and arms its watchdog. -/
theorem rollPod_wp {victim : Pod} {sts : StatefulSet} {reply : Reply}
    (fail : reply ≠ .ok → post false w)
    (deleted : reply = .ok → w.pods.role victim.name ≠ none → along (w.deletePod victim.name))
    (armed : ∀ middle, (middle = w.deletePod victim.name ∧ reply = .ok ∧
          w.pods.role victim.name ≠ none) ∨
        (middle = w ∧ (reply = .ok → w.pods.role victim.name = none)) →
      let done := (middle.armFor victim.name).note
        (.event (.podRolledForConfig victim.name sts.updateRevision sts.currentRevision))
      along (middle.armFor victim.name) ∧ along done ∧ post true done) :
    (rollPod victim sts reply).wp along post w := by
  simp only [rollPod, deletePod, recordEvent, log, wp_bind, wp_ite, wp_pure,
    wp_read, wp_write, Bool.not_true, Bool.not_false, Bool.false_eq_true]
  refine ⟨fun refused => ⟨fun _ => fail refused.1, fun absurd => by simp at absurd⟩, fun _ => ?_⟩
  refine ⟨fun present => ⟨deleted present.1 present.2, fun absurd => absurd.elim, fun _ =>
    armed _ (.inl ⟨rfl, present⟩)⟩, fun absent => ⟨fun absurd => absurd.elim, fun _ =>
      armed w (.inr ⟨rfl, fun ok => ?_⟩)⟩⟩
  by_contra present
  exact absent ⟨ok, present⟩

theorem rollPod_pods (victim : Pod) (sts : StatefulSet) (reply : Reply) (w : World) :
    (rollPod victim sts reply).wp (fun _ => True) (fun _ final =>
      final.pods = if reply = .ok then w.pods.delete victim.name else w.pods) w := by
  refine rollPod_wp (fun refused => by simp [refused]) (fun _ _ => trivial) ?_
  rintro middle (⟨rfl, ok, -⟩ | ⟨rfl, absent⟩)
  · refine ⟨trivial, trivial, ?_⟩
    rw [if_pos ok]
    rfl
  · refine ⟨trivial, trivial, ?_⟩
    split
    · rename_i ok
      exact (Pods.delete_absent (absent ok)).symm
    · rfl

/-- The step deletes this pod if it can: an exposed one that comes first. -/
structure RolloutView.Takes (view : RolloutView) (pick : Nat) (pod : Pod) : Prop where
  exposed : view.Exposes pod
  first : queueHead view.crName pick (staleReplicas view.sts.updateRevision view.pods) = some pod

variable {input : PodRolloutInput}

/-- A step rolls the pod it takes, or records at most that it waits. -/
theorem rollView_wp (skip : (∀ pod, ¬view.Takes input.pick pod) → post true w)
    (defer : (∀ pod, ¬view.Takes input.pick pod) → ∀ quorum,
      along (w.note (.event (.rolloutDeferred quorum))) ∧
        post true (w.note (.event (.rolloutDeferred quorum))))
    (roll : ∀ victim, view.Takes input.pick victim →
      (rollPod victim view.sts input.deleteReply).wp along post w) :
    (rollView view input).wp along post w := by
  unfold rollView
  simp only [wp_ite, wp_pure]
  refine ⟨fun still => skip fun pod takes => ?_, fun moved =>
    ⟨fun unsettled => skip fun pod takes => ?_, fun settled => ?_⟩⟩
  · exact (RolloutView.exposes_iff.mp takes.exposed).1 still
  · simp [(RolloutView.exposes_iff.mp takes.exposed).2.1] at unsettled
  cases head : queueHead view.crName input.pick
      (staleReplicas view.sts.updateRevision view.pods) with
  | none =>
      have none_taken : ∀ pod, ¬view.Takes input.pick pod := fun pod takes => by
        simp [takes.first] at head
      simp only [wp_ite, wp_bind, wp_pure, recordEvent, log, wp_write]
      exact ⟨fun _ => defer none_taken false, fun _ => skip none_taken⟩
  | some victim =>
      simp only [wp_ite, wp_bind, wp_pure, recordEvent, log, wp_write]
      refine ⟨fun quorum => defer (fun pod takes => ?_) true, fun quorum => roll victim ⟨?_, head⟩⟩
      · exact (RolloutView.exposes_iff.mp takes.exposed).2.2.1 quorum
      · exact RolloutView.exposes_iff.mpr
          ⟨moved, by simpa using settled, quorum, queueHead_iff.mp ⟨_, head⟩⟩

private theorem rollView_pods (view : RolloutView) (input : PodRolloutInput) (w : World) :
    (rollView view input).wp (fun _ => True) (fun _ final => final.pods = w.pods ∨
      ∃ pod, view.Exposes pod ∧ final.pods = w.pods.delete pod.name) w := by
  refine rollView_wp (fun _ => .inl rfl) (fun _ _ => ⟨trivial, .inl rfl⟩) fun victim takes => ?_
  refine wp_mono (rollPod_pods _ _ _ w) (fun _ => id) fun _ final pods_eq => ?_
  split at pods_eq
  · exact .inr ⟨victim, takes.exposed, pods_eq⟩
  · exact .inl pods_eq

/-- Every exposed pod is deleted under some order of equals. -/
theorem rollView_deletes (exposed : view.Exposes pod) (w : World) :
    ∃ pick, ((rollView view { pick }).run w).final.pods = w.pods.delete pod.name := by
  obtain ⟨moved, settled, quorum, highest⟩ := RolloutView.exposes_iff.mp exposed
  obtain ⟨pick, head⟩ := queueHead_iff.mpr highest
  refine ⟨pick, ?_⟩
  simp only [rollView, moved, settled, quorum, head, ↓reduceIte, Bool.not_true,
    Bool.false_eq_true]
  exact (rollPod_pods pod view.sts .ok w).2

/-- The view of Phase 9 on what the pass listed at its start. -/
def World.rolloutView (w : World) (quorumOK : Bool) (pods : List Pod) (sts : StatefulSet) :
    RolloutView :=
  { mode := w.v.spec.mode, crName := w.v.name, pods, sts, quorumOK }

private theorem reconcilePodRollout_eq {quorumOK : Bool} {pods : List Pod}
    {sts : Option StatefulSet}
    (replicated : w.v.spec.mode ≠ .standalone) {found : StatefulSet}
    (exists_sts : sts = some found) :
    ((reconcilePodRollout quorumOK pods sts input).run w).final =
      ((rollView (w.rolloutView quorumOK pods found) input).run
        (w.note (.rolling (w.rolloutView quorumOK pods found) w.now))).final := by
  simp [reconcilePodRollout, replicated, exists_sts, World.rolloutView, logHere]

private theorem reconcilePodRollout_pods (quorumOK : Bool) (listed : List Pod)
    (sts : Option StatefulSet) (input : PodRolloutInput) (w : World) :
    (reconcilePodRollout quorumOK listed sts input).wp (fun _ => True) (fun _ final =>
      final.pods = w.pods ∨ w.v.spec.mode ≠ .standalone ∧ ∃ found, sts = some found ∧
        ∃ pod, (w.rolloutView quorumOK listed found).Exposes pod ∧
          final.pods = w.pods.delete pod.name) w := by
  unfold reconcilePodRollout
  simp only [wp_bind, wp_read, wp_ite, wp_pure, true_or, implies_true,
    true_and]
  intro replicated
  cases sts with
  | none => simp
  | some found =>
      simp only [logHere, wp_bind, wp_write, true_and]
      refine wp_mono (rollView_pods _ input _) (fun _ => id) fun _ final step => ?_
      refine step.imp_right ?_
      rintro ⟨pod, exposed, deleted⟩
      exact ⟨replicated, found, rfl, pod, exposed, deleted⟩

/-- Phase 7 does not change what Phase 9 decides on. -/
theorem reconcileRoleLabels_view (fetched : w.Fetched) (input : RoleLabelsInput) (quorumOK : Bool)
    (listed : List Pod) (sts : StatefulSet) :
    ((reconcileRoleLabels input).run w).final.rolloutView quorumOK listed sts =
      w.rolloutView quorumOK listed sts := by
  have frame := (reconcileRoleLabels_within input w).2
  obtain ⟨name, mode⟩ := Prod.mk.inj ((frame.kept .identity (by decide)).of_same fetched)
  simp only [World.rolloutView, name, mode]

/-- Phase 9 takes no primary of Phase 7 exactly when no exposed pod is one that Phase 7 labels. -/
theorem reconcilePodRollout_sparesPrimary_iff {w : World} (fetched : w.Fetched) (quorumOK : Bool)
    (listed : List Pod) (sts : Option StatefulSet) (input : RoleLabelsInput) :
    (∀ labelReply gateReply conditionReply rollout,
      let labelled :=
        (reconcileRoleLabels { input with labelReply, gateReply, conditionReply }).run w
      labelled.value = true → ∀ name, labelled.final.pods.role name = some .primary →
        ((reconcilePodRollout quorumOK listed sts rollout).run labelled.final).final.pods.role
          name = some .primary) ↔
      ¬(input.listFails = false ∧ w.v.spec.mode ≠ .standalone ∧
        ∃ found, sts = some found ∧ ∃ pod, (w.rolloutView quorumOK listed found).Exposes pod ∧
          ∃ stored ∈ w.pods.items, stored.name = pod.name ∧ w.LabelsPrimary input stored) := by
  have mode : ∀ replies, ((reconcileRoleLabels replies).run w).final.v.spec.mode =
      w.v.spec.mode := by
    intro replies
    have frame := (reconcileRoleLabels_within replies w).2
    exact (Prod.mk.inj ((frame.kept .identity (by decide)).of_same fetched)).2
  constructor
  · rintro spares ⟨listable, replicated, found, exists_sts, pod, exposed, promoted⟩
    let replies : RoleLabelsInput := { input with
      labelReply := fun _ => .ok, gateReply := fun _ => .ok, conditionReply := fun _ => .ok }
    have success := reconcileRoleLabels_succeeds replies w listable fun _ => rfl
    have primary := (reconcileRoleLabels_primary fetched success).mpr promoted
    let after := ((reconcileRoleLabels replies).run w).final
    obtain ⟨pick, deleted⟩ := rollView_deletes exposed
      (after.note (.rolling (w.rolloutView quorumOK listed found) after.now))
    have spared := spares _ _ _ { pick } success pod.name primary
    rw [reconcilePodRollout_eq (by rwa [mode]) exists_sts, reconcileRoleLabels_view fetched,
      deleted, Pods.role_delete, if_pos rfl] at spared
    simp at spared
  · intro safe labelReply gateReply conditionReply rollout labelled success name primary
    have listable : input.listFails = false := by
      cases fails : input.listFails with
      | false => rfl
      | true => simp [labelled, reconcileRoleLabels, fails] at success
    rcases (reconcilePodRollout_pods quorumOK listed sts rollout labelled.final).2 with
      kept | ⟨replicated, found, exists_sts, pod, exposed, deleted⟩
    · rwa [kept]
    · rw [deleted, Pods.role_delete]
      split
      · rename_i same
        refine absurd ⟨listable, by rwa [mode] at replicated, found, exists_sts, pod,
          by rwa [reconcileRoleLabels_view fetched] at exposed, ?_⟩ safe
        exact same ▸ (reconcileRoleLabels_primary fetched success).mp primary
      · exact primary

/-- Three pods behind a new revision, and one poll for ordinal two. -/
def failedOverWorld : World :=
  let ready : List PodCondition := [{ type := .ready, status := .true }]
  let cr : CR := { name := "vk", spec := { mode := .sentinel, replicas := 3 } }
  let old : Pod := { name := "vk-0", podIP := "10.0.0.1", role := .primary, revision := "a",
                     conditions := ready }
  let idle : Pod := { name := "vk-1", podIP := "10.0.0.2", role := .replica, revision := "a",
                      conditions := ready }
  let new : Pod := { name := "vk-2", podIP := "10.0.0.3", role := .replica, revision := "a",
                     conditions := ready }
  let streak : PrimaryStability :=
    { addr := "10.0.0.3:6379", firstPolled := 1, lastPolled := 1, freshCount := 1 }
  { now := 100, cr, v := cr, pods := ⟨[old, idle, new], by decide, by decide⟩
    mem := { primaryStability := some streak } }

def secondPoll (addr : String) : RoleLabelsInput :=
  { relabel := { snap := some { addr, lastPolledAt := 2 } } }

def movedRevision : StatefulSet :=
  { updateRevision := "b", currentRevision := "a" }

/-- Phase 7 moves the primary label to ordinal two, and Phase 9 deletes that pod. -/
theorem reconcilePodRollout_deletes_primary :
    let labelled := (reconcileRoleLabels (secondPoll "10.0.0.3:6379")).run failedOverWorld
    labelled.value = true ∧ labelled.final.pods.role "vk-2" = some .primary ∧
      ((reconcilePodRollout true failedOverWorld.pods.items (some movedRevision) {}).run
        labelled.final).final.pods.role "vk-2" = none := by
  decide

/-- An observer that names ordinal zero keeps the primary. -/
theorem reconcilePodRollout_spares_unmoved :
    failedOverWorld.Fetched ∧
      ∀ labelReply gateReply conditionReply rollout,
        let labelled := (reconcileRoleLabels
          { secondPoll "10.0.0.1:6379" with labelReply, gateReply, conditionReply }).run
            failedOverWorld
        labelled.value = true → ∀ name, labelled.final.pods.role name = some .primary →
          ((reconcilePodRollout true failedOverWorld.pods.items (some movedRevision) rollout).run
            labelled.final).final.pods.role name = some .primary := by
  have fetched : failedOverWorld.Fetched := rfl
  have only : ∀ stored ∈ failedOverWorld.pods.items,
      failedOverWorld.LabelsPrimary (secondPoll "10.0.0.1:6379") stored →
        stored.name = "vk-0" := by
    decide
  have labelled : ∀ pod ∈ failedOverWorld.pods.items, pod.name = "vk-0" →
      pod.role = .primary := by
    decide
  -- The inputs are named, so that the two runs are compared and not computed.
  generalize secondPoll "10.0.0.1:6379" = polled at only ⊢
  generalize failedOverWorld = w at *
  refine ⟨fetched, (reconcilePodRollout_sparesPrimary_iff fetched true _ _ polled).mpr ?_⟩
  rintro ⟨-, -, found, -, pod, exposed, stored, mem, name_eq, primary⟩
  exact exposed.unlabelled (labelled pod exposed.listed (name_eq ▸ only stored mem primary))

end Velkir
