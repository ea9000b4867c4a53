import Velkir.Phases

/-!
# Announcing a rollout

The trigger fires when a revision is pending, but no state is steady then, unless it moves between
two reads of a pass.
-/

namespace Velkir

open Crash Proc Orchestration

/-- One observation: the world that a pass finds, and what it reads. -/
structure Look where
  world : World
  input : ObserveInput

/-- The world of the pass: the trigger's memory and the journal stay. -/
def Look.enter (look : Look) (w : World) : World :=
  { look.world with mem.rolloutTrigger := w.mem.rolloutTrigger, journal := w.journal }

/-- What a look does. -/
def Look.exec (look : Look) (w : World) : World :=
  ((observeRolloutState look.world.pods.items look.world.sts look.input).run (look.enter w)).final

/-- The passes of one process, oldest first. -/
def observeAll (looks : List Look) (w : World) : World :=
  looks.foldl (fun w look => look.exec w) w

def TriggerInput.revisions (input : TriggerInput) (w : World) : Option Revisions :=
  if input.getFails then none
  else (w.drift { stsStatus := input.stsStatus }).sts.map StatefulSet.revisions

/-- The revisions that a look reads. -/
def Look.revisions (look : Look) : Option Revisions :=
  look.input.trigger.revisions look.world

/-- The trigger sees a pending revision. -/
def Look.Pending (look : Look) : Prop :=
  ∃ revisions, look.revisions = some revisions ∧ revisions.pending = true

/-- The trigger sees that nothing is pending. -/
def Look.Settled (look : Look) : Prop :=
  ∃ revisions, look.revisions = some revisions ∧ revisions.pending = false

/-- The line says that a rollout starts. -/
def Entry.announces : Entry → Bool
  | .event (.fsm _ _ _ .rolloutStarted) => true
  | _ => false

/-- How often a rollout was announced. -/
def World.announcements (w : World) : Nat :=
  w.journal.countP Entry.announces

/-- The trigger remembers this, and so many rollouts have been announced. -/
structure Tracks (tracker : RolloutTriggerState) (count : Nat) (w : World) : Prop where
  tracker : w.mem.rolloutTrigger = tracker
  count : w.announcements = count

variable {w : World}

section Tracks

variable {tracker : RolloutTriggerState} {count : Nat}

private theorem Tracks.note {line : Entry} (silent : line.announces = false)
    (tracks : Tracks tracker count w) : Tracks tracker count (w.note line) :=
  ⟨tracks.tracker, by simp [World.announcements, silent, ← tracks.count]⟩

theorem readSnapshot_tracks (obs : Obs) :
    Within (Keeps (Tracks tracker count)) (readSnapshot obs) :=
  .bind (.write fun _ tracks => ⟨tracks.tracker, tracks.count⟩) fun _ => .pure _

theorem failoverLatchActive_tracks (addr : String) (epoch : Int) :
    Within (Keeps (Tracks tracker count)) (failoverLatchActive addr epoch) := by
  refine .bind (.read _) fun latch => ?_
  cases latch with
  | none => exact .pure _
  | some latch =>
      exact .bind (.read _) fun _ => .ite (.pure _)
        (.bind (.write fun _ tracks => ⟨tracks.tracker, tracks.count⟩) fun _ => .pure _)

private theorem deriveState_tracks (pods : List Pod) (sts : Option StatefulSet) (obs : Obs) :
    Within (Keeps (Tracks tracker count)) (deriveState pods sts obs) :=
  .bind (.read _) fun _ => .bind (.ite (.pure _) (readSnapshot_tracks _)) fun _ =>
    .bind (failoverLatchActive_tracks _ _) fun _ => .pure _

private theorem setSuspendedFrom_tracks (value : Option State) (reply : Reply) :
    Within (Keeps (Tracks tracker count)) (setSuspendedFrom value reply) := by
  refine .bind (.read _) fun _ => .ite (.pure _) (.bind ?_ fun _ =>
    .ite (.write fun _ tracks => ⟨tracks.tracker, tracks.count⟩) (.pure _))
  exact .bind (.read _) fun _ => .ite (.pure _) (.ite (.bind (.write fun _ tracks =>
    ⟨tracks.tracker, tracks.count⟩) fun _ => .pure _) (.pure _))

variable {state : State} {trigger : Trigger} {guards : GuardCtx}

theorem fsmEvent_announces {event : Event} (found : fsmEvent state trigger guards = some event) :
    (Entry.event event).announces =
      decide (recorded state trigger guards = some .rolloutStarted) := by
  obtain ⟨row, taken, named⟩ := Option.bind_eq_some_iff.mp found
  obtain ⟨reason, held, rfl⟩ := Option.map_eq_some_iff.mp named
  have recorded_eq : recorded state trigger guards = some reason :=
    recorded_eq_some_iff.mpr ⟨row, taken, held⟩
  rw [recorded_eq]
  cases reason <;> rfl

private theorem fsmEvent_eq_none (absent : fsmEvent state trigger guards = none) :
    recorded state trigger guards = none := by
  refine Option.eq_none_iff_forall_ne_some.mpr fun reason named => ?_
  obtain ⟨row, taken, held⟩ := recorded_eq_some_iff.mp named
  simp [fsmEvent, taken, held] at absent

private theorem applyFSM_announces (tracks : Tracks tracker count w) :
    Tracks tracker (count + if recorded state trigger guards = some .rolloutStarted then 1 else 0)
      ((applyFSM state trigger guards).run w).final := by
  unfold applyFSM
  cases found : fsmEvent state trigger guards with
  | none => simpa [fsmEvent_eq_none found] using tracks
  | some event =>
      refine ⟨tracks.tracker, ?_⟩
      have line := fsmEvent_announces found
      have start := tracks.count
      simp only [World.announcements] at start ⊢
      simp only [recordOptional, recordEvent, log, final_write, World.note_journal,
        List.countP_cons, line, start, decide_eq_true_eq]

private theorem applyFSM_tracks (silent : recorded state trigger guards ≠ some .rolloutStarted) :
    Within (Keeps (Tracks tracker count)) (applyFSM state trigger guards) := by
  unfold applyFSM
  cases found : fsmEvent state trigger guards with
  | none => exact .pure _
  | some event =>
      exact .write fun _ tracks => tracks.note (by simp [fsmEvent_announces found, silent])

/-- Only the trigger of a rollout announces one. -/
theorem applyFSM_tracks_of_ne (other : trigger ≠ .rolloutTrigger) :
    Within (Keeps (Tracks tracker count)) (applyFSM state trigger guards) :=
  applyFSM_tracks fun announced => other (recorded_rolloutStarted_iff.mp announced).2.1

private theorem replicasRolledDispatch_tracks (state : State) (quorumOK : Bool) :
    Within (Keeps (Tracks tracker count)) (replicasRolledDispatch state quorumOK) :=
  .bind (.read _) fun _ => .bind (.write fun _ tracks => ⟨tracks.tracker, tracks.count⟩) fun _ =>
    .ite (applyFSM_tracks_of_ne (by decide)) (.pure _)

private theorem fsmAbortAndRecoveryDispatch_tracks (state : State) (quorumOK : Bool)
    (input : ObserveInput) :
    Within (Keeps (Tracks tracker count))
      (fsmAbortAndRecoveryDispatch state quorumOK input) := by
  refine .of_wp fun w tracks => ?_
  have remembered : Tracks tracker count { w with mem.lastState := some state } :=
    ⟨tracks.tracker, tracks.count⟩
  exact wp_mono (fsmAbortAndRecoveryDispatch_wp setSuspendedFrom_tracks
      (fun _ _ _ other => applyFSM_tracks_of_ne other) state quorumOK input w)
    (fun _ keeps => keeps remembered) fun _ _ keeps => keeps remembered

private theorem fsmSwitchMasterDispatch_tracks (state : State) (obs : Obs) :
    Within (Keeps (Tracks tracker count)) (fsmSwitchMasterDispatch state obs) :=
  .ite (.bind (readSnapshot_tracks _) fun _ => .bind (failoverLatchActive_tracks _ _) fun _ =>
    .pure _) (.pure _)

private theorem reportEdges_tracks {quorumOK : Bool} {revisions : Option Revisions}
    {before : RolloutTriggerState} (tracks : Tracks tracker count w) :
    let signal := (rolloutTriggerEdge revisions before).1
    Tracks tracker (count + if signal.edge ∧ state = .steady ∧ quorumOK = true then 1 else 0)
      ((reportEdges state quorumOK signal).run w).final := by
  intro signal
  unfold reportEdges
  cases edge : signal.edge with
  | true =>
      have only : signal.midRolloutChange = false := rolloutTriggerEdge_exclusive edge
      have announced : Tracks tracker _
          ((applyFSM state .rolloutTrigger { quorumOK }).run w).final := applyFSM_announces tracks
      simpa [only, recorded_rolloutStarted_iff] using announced
  | false =>
      cases change : signal.midRolloutChange with
      | true =>
          have silent : Within (Keeps (Tracks tracker count))
              (applyFSM state .specChanged { quorumOK }) := applyFSM_tracks_of_ne (by decide)
          simpa using (silent.wp tracks).2
      | false => simpa using tracks

private theorem rolloutTriggerDispatch_tracks (state : State) (quorumOK : Bool)
    (input : TriggerInput) (tracks : Tracks tracker count w) :
    let edges := rolloutTriggerEdge (input.revisions w) tracker
    Tracks edges.2 (count + if edges.1.edge ∧ state = .steady ∧ quorumOK = true then 1 else 0)
      ((rolloutTriggerDispatch state quorumOK input).run w).final := by
  unfold TriggerInput.revisions rolloutTriggerDispatch
  cases fails : input.getFails with
  | true => simpa [rolloutTriggerEdge, meanwhile] using ⟨tracks.tracker, tracks.count⟩
  | false =>
      obtain ⟨rfl, rfl⟩ := tracks
      exact reportEdges_tracks ⟨rfl, rfl⟩

end Tracks

/-- The state is steady and the quorum agrees when the pass looks. -/
def Look.steady (look : Look) : Bool :=
  let derived := ((deriveState look.world.pods.items look.world.sts look.input.derive).run
    look.world).value
  derived.1 = .steady ∧ derived.2.quorumOK

private theorem deriveState_enter (look : Look) (w : World) :
    ((deriveState look.world.pods.items look.world.sts look.input.derive).run
        (look.enter w)).value =
      ((deriveState look.world.pods.items look.world.sts look.input.derive).run
        look.world).value := by
  have latch : ∀ addr epoch, (look.enter w).latchActive addr epoch =
    look.world.latchActive addr epoch := fun _ _ => rfl
  have observed : ∀ obs addr epoch, ((look.enter w).observe obs).latchActive addr epoch =
    (look.world.observe obs).latchActive addr epoch := fun _ _ _ => rfl
  have copy : (look.enter w).v = look.world.v := rfl
  by_cases mode : look.world.v.spec.mode = .standalone
  · simp [deriveState, snapshotForMode, mode, copy, failoverLatchActive_value, latch]
  · simp [deriveState, snapshotForMode, mode, copy, readSnapshot, failoverLatchActive_value,
      observed]

private theorem deriveState_sts (pods : List Pod) (sts found : Option StatefulSet) (obs : Obs) :
    Within (Keeps fun w => w.sts = found) (deriveState pods sts obs) := by
  refine .bind (.read _) fun _ => .bind (.ite (.pure _) (.bind (.write fun _ => id) fun _ =>
    .pure _)) fun _ => .bind (.bind (.read _) fun latch => ?_) fun _ => .pure _
  cases latch with
  | none => exact .pure _
  | some latch => exact .bind (.read _) fun _ => .ite (.pure _) (.bind (.write fun _ => id) fun _ =>
      .pure _)

/-- A pass remembers what it read, and announces an edge when steady. -/
theorem Look.exec_tracks (look : Look) (w : World) :
    let edges := rolloutTriggerEdge look.revisions w.mem.rolloutTrigger
    Tracks edges.2 (w.announcements + if edges.1.edge ∧ look.steady then 1 else 0)
      (look.exec w) := by
  let derive := (deriveState look.world.pods.items look.world.sts look.input.derive).run
    (look.enter w)
  have start : Tracks w.mem.rolloutTrigger w.announcements (look.enter w) := ⟨rfl, rfl⟩
  have derived : Tracks w.mem.rolloutTrigger w.announcements derive.final :=
    ((deriveState_tracks _ _ _).wp start).2
  have found : derive.final.sts = look.world.sts := ((deriveState_sts _ _ _ _).wp rfl).2
  have same : look.input.trigger.revisions derive.final = look.revisions := by
    simp only [Look.revisions, TriggerInput.revisions, World.drift, found]
  have triggered := rolloutTriggerDispatch_tracks derive.value.1 derive.value.2.quorumOK
    look.input.trigger derived
  rw [same] at triggered
  have rolled := ((replicasRolledDispatch_tracks derive.value.1 derive.value.2.quorumOK).wp
    triggered).2
  have aborted := ((fsmAbortAndRecoveryDispatch_tracks derive.value.1 derive.value.2.quorumOK
    look.input).wp rolled).2
  have switched := ((fsmSwitchMasterDispatch_tracks derive.value.1 look.input.switchMaster).wp
    aborted).2
  have steady : look.steady =
      decide (derive.value.1 = .steady ∧ derive.value.2.quorumOK = true) := by
    simp only [Look.steady, derive, deriveState_enter]
  simp only [steady, decide_eq_true_eq]
  exact switched

/-- Every replica carries the revision, and so does the last labelled primary. -/
structure AtRevision (target : String) (pods : List Pod) : Prop where
  named : target ≠ ""
  replicas : ∀ pod ∈ pods, pod.role ≠ .primary → pod.revision = target
  primary : ∃ pod, (pods.filter fun pod => pod.role = .primary).getLast? = some pod ∧
    pod.revision = target

variable {target : String} {pods : List Pod}

private theorem scanPods_replicasAtTarget (named : target ≠ "") :
    (scanPods target pods).replicasAtTarget = true ↔
      ∀ pod ∈ pods, pod.role ≠ .primary → pod.revision = target := by
  induction pods using List.reverseRecOn with
  | nil => simp [scanPods]
  | append_singleton pods last ih =>
      rw [scanPods_append]
      by_cases primary : last.role = .primary
      · simp [PodScan.visit, primary, ih, or_imp, forall_and]
      · simp [PodScan.visit, primary, ih, named, or_imp, forall_and]

private theorem scanPods_primaryAtTarget (named : target ≠ "") :
    (scanPods target pods).primaryAtTarget = true ↔
      ∃ pod, (pods.filter fun pod => pod.role = .primary).getLast? = some pod ∧
        pod.revision = target := by
  induction pods using List.reverseRecOn with
  | nil => simp [scanPods]
  | append_singleton pods last ih =>
      rw [scanPods_append]
      by_cases primary : last.role = .primary
      · simp [PodScan.visit, primary, named]
      · simp [PodScan.visit, primary, ih]

private theorem scanPods_unnamed (pods : List Pod) :
    (scanPods "" pods).primaryAtTarget = false := by
  induction pods using List.reverseRecOn with
  | nil => rfl
  | append_singleton pods last ih =>
      rw [scanPods_append]
      by_cases primary : last.role = .primary
      · simp [PodScan.visit, primary]
      · simp [PodScan.visit, primary, ih]

variable {facts : ObservedFacts}

private theorem withPods_allPodsAtTargetRevision {replicas : Int}
    (labelled : ∃ pod ∈ pods, pod.role = .primary) :
    (facts.withPods replicas pods (scanPods target pods)).allPodsAtTargetRevision = true ↔
      AtRevision target pods := by
  have seen := (scanPods_primarySeen target pods).mpr labelled
  by_cases named : target = ""
  · subst named
    simp only [ObservedFacts.withPods, scanPods_unnamed, Bool.and_false, Bool.false_and,
      Bool.false_eq_true, false_iff]
    exact fun uniform => uniform.named rfl
  · have replicas : (!(scanPods target pods).anyReplicaSeen ||
        (scanPods target pods).replicasAtTarget) = true ↔
          ∀ pod ∈ pods, pod.role ≠ .primary → pod.revision = target := by
      rw [Bool.or_eq_true, scanPods_replicasAtTarget named, Bool.not_eq_true', ← Bool.not_eq_true,
        scanPods_anyReplicaSeen]
      refine or_iff_right_of_imp fun alone pod mem replica => ?_
      exact absurd ⟨pod, mem, replica⟩ alone
    simp only [ObservedFacts.withPods, seen, Bool.true_and]
    rw [Bool.and_eq_true, replicas, scanPods_primaryAtTarget named]
    exact ⟨fun both => ⟨named, both.2, both.1⟩, fun uniform => ⟨uniform.primary, uniform.replicas⟩⟩

private theorem deriveStateFromFacts_steady_iff (pods : facts.podCount ≠ 0)
    (mode : facts.isStandalone = false) (quorum : facts.quorumOK = true) :
    deriveStateFromFacts facts = .steady ↔
      facts.failoverInFlight = false ∧ facts.allPodsAtTargetRevision = true := by
  grind [deriveStateFromFacts]

/-- No latch holds, and every pod has the update revision first read. -/
structure Look.Uniform (look : Look) : Prop where
  unlatched : (look.world.observe look.input.derive).latchActive look.input.derive.snap.addr
    look.input.derive.snap.epoch = false
  target : ∃ sts, look.world.sts = some sts ∧
    AtRevision sts.updateRevision look.world.pods.items

variable {look : Look}

private theorem Look.steady_iff (mode : look.world.v.spec.mode ≠ .standalone)
    (quorum : look.input.derive.snap.quorumOK = true)
    (labelled : ∃ pod ∈ look.world.pods.items, pod.role = .primary) :
    look.steady = true ↔ look.Uniform := by
  have listed : look.world.pods.items.length ≠ 0 := by
    obtain ⟨pod, mem, -⟩ := labelled
    exact Nat.ne_of_gt (List.length_pos_of_mem mem)
  simp only [Look.steady, deriveState, snapshotForMode, mode, readSnapshot, value_bind,
    value_read, final_read, if_false, final_bind, final_write,
    value_pure, final_pure, failoverLatchActive_value, decide_eq_true_eq]
  cases found : look.world.sts with
  | none =>
      have missing : ¬look.Uniform := by
        rintro ⟨-, sts, eq, -⟩
        rw [found] at eq
        cases eq
      simp [deriveFromPods, deriveStateFromFacts, missing]
  | some sts =>
      have seen := (scanPods_primarySeen sts.updateRevision _).mpr labelled
      simp only [deriveFromPods, listed, if_false, seen, Bool.not_true, Bool.false_eq_true,
        false_and]
      rw [deriveStateFromFacts_steady_iff listed (by simp [ObservedFacts.withPods]) quorum,
        withPods_allPodsAtTargetRevision labelled]
      constructor
      · rintro ⟨⟨unlatched, uniform⟩, -⟩
        exact ⟨unlatched, sts, found, uniform⟩
      · rintro ⟨unlatched, sts', eq, uniform⟩
        cases found.symm.trans eq
        exact ⟨⟨unlatched, uniform⟩, quorum⟩

/-- A pass over a pending revision remembers it, and announces an edge. -/
theorem Look.exec_pending (pending : look.Pending) :
    (look.exec w).mem.rolloutTrigger.lastWasPending = true ∧
      (look.exec w).announcements = w.announcements +
        if w.mem.rolloutTrigger.lastWasPending = false ∧ look.steady = true then 1 else 0 := by
  obtain ⟨revisions, read, pending⟩ := pending
  obtain ⟨tracker, count⟩ := look.exec_tracks w
  simp only [read, rolloutTriggerEdge, pending] at tracker count
  exact ⟨by rw [tracker], by simpa using count⟩

theorem Look.exec_unread (unread : look.revisions = none) :
    (look.exec w).mem.rolloutTrigger = w.mem.rolloutTrigger ∧
      (look.exec w).announcements = w.announcements := by
  obtain ⟨tracker, count⟩ := look.exec_tracks w
  simp only [unread, rolloutTriggerEdge] at tracker count
  exact ⟨tracker, by simpa using count⟩

private theorem Look.exec_settled (settled : look.Settled) :
    (look.exec w).mem.rolloutTrigger.lastWasPending = false := by
  obtain ⟨revisions, read, settled⟩ := settled
  obtain ⟨tracker, -⟩ := look.exec_tracks w
  simp only [read, rolloutTriggerEdge, settled] at tracker
  rw [tracker]

private theorem observeAll_unread {looks : List Look}
    (unread : ∀ look ∈ looks, look.revisions = none) :
    (observeAll looks w).mem.rolloutTrigger = w.mem.rolloutTrigger := by
  induction looks generalizing w with
  | nil => rfl
  | cons look rest ih =>
      have step := (look.exec_unread (w := w) (unread look List.mem_cons_self)).1
      exact (ih fun other mem => unread other (List.mem_cons_of_mem _ mem)).trans step

private theorem observeAll_pending {looks : List Look}
    (start : w.mem.rolloutTrigger.lastWasPending = true)
    (pending : ∀ look ∈ looks, look.revisions = none ∨ look.Pending) :
    (observeAll looks w).announcements = w.announcements := by
  induction looks generalizing w with
  | nil => rfl
  | cons look rest ih =>
      have later := fun other mem => pending other (List.mem_cons_of_mem _ mem)
      rcases pending look List.mem_cons_self with unread | here
      · obtain ⟨tracker, count⟩ := look.exec_unread (w := w) unread
        exact (ih (tracker ▸ start) later).trans count
      · obtain ⟨tracker, count⟩ := look.exec_pending (w := w) here
        refine (ih tracker later).trans ?_
        simpa [start] using count

private theorem observeAll_append (first rest : List Look) (w : World) :
    observeAll (first ++ rest) w = observeAll rest (observeAll first w) :=
  List.foldl_append

/-- A rollout is announced once exactly if the noticing pass found every pod at the revision. -/
theorem rollout_announcedOnce_iff (w : World) (before silent later : List Look) (calm fresh : Look)
    (settled : calm.Settled) (unread : ∀ look ∈ silent, look.revisions = none)
    (pending : fresh.Pending) (ongoing : ∀ look ∈ later, look.revisions = none ∨ look.Pending)
    (sentinel : fresh.world.v.spec.mode = .sentinel)
    (quorum : fresh.input.derive.snap.quorumOK = true)
    (labelled : ∃ pod ∈ fresh.world.pods.items, pod.role = .primary) :
    (observeAll (before ++ calm :: silent ++ fresh :: later) w).announcements =
        (observeAll (before ++ calm :: silent) w).announcements + 1 ↔
      fresh.Uniform := by
  have idle : (observeAll (before ++ calm :: silent) w).mem.rolloutTrigger.lastWasPending =
      false := by
    rw [observeAll_append]
    change (observeAll silent (calm.exec _)).mem.rolloutTrigger.lastWasPending = false
    rw [observeAll_unread unread]
    exact Look.exec_settled settled
  obtain ⟨tracker, count⟩ :=
    fresh.exec_pending (w := observeAll (before ++ calm :: silent) w) pending
  rw [observeAll_append]
  change (observeAll later (fresh.exec _)).announcements = _ ↔ _
  rw [observeAll_pending tracker ongoing, count,
    ← Look.steady_iff (by rw [sentinel]; decide) quorum labelled]
  cases fresh.steady <;> simp [idle]

/-- Two pods at revision `a`, under this update revision. -/
def rollWorld (updateRevision : String) : World :=
  let cr : CR := { name := "vk", spec := { mode := .sentinel, replicas := 2 } }
  { now := 0, cr, v := cr
    sts := some { updateRevision, currentRevision := "a" }
    pods := ⟨[{ name := "vk-0", role := .primary, revision := "a" },
      { name := "vk-1", role := .replica, revision := "a" }], by decide, by decide⟩ }

/-- A pass with quorum whose two reads find these update revisions. -/
def rollLook (first second : String) : Look :=
  { world := rollWorld first
    input :=
      { derive := { snap := some { addr := "10.0.0.1:6379" } }
        trigger := { stsStatus := some (second, "a", 2) } } }

/-- A rollout that both reads find pending is not announced. -/
theorem rollout_unannounced :
    (rollLook "a" "a").Settled ∧ (rollLook "b" "b").Pending ∧
      (∃ pod ∈ (rollLook "b" "b").world.pods.items, pod.revision ≠ "b") ∧
      (observeAll [rollLook "a" "a", rollLook "b" "b", rollLook "b" "b"]
        (rollWorld "a")).announcements = 0 :=
  ⟨⟨_, rfl, rfl⟩, ⟨_, rfl, rfl⟩, by decide, by decide⟩

/-- One that becomes pending between the reads is. -/
theorem rollout_announced_between :
    (rollLook "a" "b").Uniform ∧
      (observeAll ([] ++ rollLook "a" "a" :: [] ++ [rollLook "a" "b", rollLook "b" "b"])
        (rollWorld "a")).announcements =
      (observeAll ([] ++ [rollLook "a" "a"]) (rollWorld "a")).announcements + 1 := by
  have uniform : (rollLook "a" "b").Uniform :=
    ⟨by decide, _, rfl, by decide, by decide, _, rfl, rfl⟩
  exact ⟨uniform, (rollout_announcedOnce_iff (rollWorld "a") [] [] [rollLook "b" "b"]
    (rollLook "a" "a") (rollLook "a" "b") ⟨_, rfl, rfl⟩ (by simp) ⟨_, rfl, rfl⟩
    (by simpa using .inr ⟨_, rfl, rfl⟩) rfl rfl (by decide)).mpr uniform⟩

end Velkir
