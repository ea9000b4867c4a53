import Velkir.Reconcile

/-!
# The pods that one pass deletes

Phases 8 and 9 delete at most one pod each. Phase 9 looks at conditions listed before Phase 8 writes
them.
-/

namespace Velkir

open Crash Proc

/-- The pod that a line reports as deleted. -/
def Entry.deletes : Entry → Option String
  | .culled pod _ | .rolled pod _ => some pod
  | _ => none

/-- The pods deleted so far, the last one first. -/
def World.deletions (w : World) : List String :=
  w.journal.filterMap Entry.deletes

/-- Exactly these pods were deleted, and the working copy is as before. -/
structure Deletes (taken : List String) (before after : World) : Prop where
  roles : ∀ name, after.pods.role name = if name ∈ taken then none else before.pods.role name
  deletions : after.deletions = taken ++ before.deletions
  copy : after.v = before.v

/-- Moreover, only the times of these identities have changed. -/
structure Step (uids taken : List String) (before after : World) : Prop
    extends Deletes taken before after where
  tracker : ∀ uid ∉ uids, after.mem.closedSince uid = before.mem.closedSince uid
  memory : after.mem = { before.mem with staleReplicas := after.mem.staleReplicas }
  clock : after.now = before.now

section Steps

variable {uids taken taken' : List String} {before middle after : World}

theorem Deletes.refl (w : World) : Deletes [] w w :=
  ⟨by simp, rfl, rfl⟩

theorem Deletes.trans (first : Deletes taken before middle)
    (second : Deletes taken' middle after) : Deletes (taken' ++ taken) before after := by
  refine ⟨fun name => ?_, ?_, second.copy.trans first.copy⟩
  · rw [second.roles, first.roles]
    by_cases late : name ∈ taken' <;> simp [late]
  · rw [second.deletions, first.deletions, List.append_assoc]

theorem Step.trans (first : Step uids taken before middle)
    (second : Step uids taken' middle after) : Step uids (taken' ++ taken) before after where
  toDeletes := first.toDeletes.trans second.toDeletes
  tracker uid apart := (second.tracker uid apart).trans (first.tracker uid apart)
  memory := by rw [second.memory, first.memory]
  clock := second.clock.trans first.clock

instance : Std.Refl (Step uids []) where
  refl w := ⟨.refl w, fun _ _ => rfl, rfl, rfl⟩

instance : IsTrans World (Step uids []) where
  trans _ _ _ first second := first.trans second

private theorem Step.mono {uids' : List String} (step : Step uids taken before after)
    (sub : uids ⊆ uids') : Step uids' taken before after :=
  { step with tracker := fun uid apart => step.tracker uid fun mem => apart (sub mem) }

theorem World.note_step (line : Entry) (quiet : line.deletes = none) (w : World) :
    Step uids [] w (w.note line) :=
  ⟨⟨by simp, by simp [World.deletions, quiet], rfl⟩, fun _ _ => rfl, rfl, rfl⟩

private theorem log_step {line : Entry} (quiet : line.deletes = none) :
    Within (Step uids []) (log line) :=
  .write (World.note_step line quiet)

private theorem World.patchPod_step {name : String} {change : Pod → Pod}
    (keeps : ∀ pod, (change pod).role = pod.role) (w : World) :
    Step uids [] w (w.patchPod name change []) :=
  ⟨⟨fun other => by simpa [World.patchPod] using w.pods.role_patch_of_keeps name other keeps,
    rfl, rfl⟩,
    fun _ _ => rfl, rfl, rfl⟩

theorem World.trackStale_step {uid : String} (mem : uid ∈ uids) (now : Nat) (w : World) :
    Step uids [] w (w.trackStale uid now) := by
  refine ⟨⟨by simp [World.trackStale], rfl, rfl⟩, fun other apart => ?_, rfl, rfl⟩
  have ne : uid ≠ other := fun same => apart (same ▸ mem)
  simp only [World.trackStale]
  split
  · rfl
  · simp [Memory.closedSince, ne]

theorem World.untrackStale_step {uid : String} (mem : uid ∈ uids) (w : World) :
    Step uids [] w (w.untrackStale uid) := by
  refine ⟨⟨by simp [World.untrackStale], rfl, rfl⟩, fun other apart => ?_, rfl, rfl⟩
  have ne : other ≠ uid := fun same => apart (same ▸ mem)
  simp only [World.untrackStale, Memory.closedSince, List.find?_filter]
  congr 2
  funext entry
  grind

theorem World.cullPod_step (name : String) (w : World) :
    Step uids [name] w (w.cullPod name) :=
  ⟨⟨fun other => by simp [World.cullPod, Pods.role_delete], rfl, rfl⟩, fun _ _ => rfl, rfl, rfl⟩

private theorem reportGate_step (pod : Pod) (result : Evaluation) (reply : Reply) :
    Within (Step uids []) (reportGate pod result reply) := by
  have error : Within (Step uids [])
      (recordOptional (result.error.map (.replicationGateCheckFailed pod.name))) := by
    cases result.error with
    | none => exact .pure _
    | some error => exact log_step rfl
  exact .bind error fun _ => .bind (.ite (.pure _) (.bind (.read _) fun _ => .ite (.pure _)
    (.bind (.write (World.patchPod_step fun _ => rfl)) fun _ => .pure _)))
      fun _ => .ite (log_step rfl) (.pure _)

end Steps

variable {w : World}

/-- Deleting a pod that is there fails, finds it gone, or takes it. -/
theorem cullPod_wp {name : String} {reply : Reply} (present : w.pods.role name ≠ none)
    {along : World → Prop} {post : Bool → World → Prop}
    (fail : reply ≠ .ok → reply ≠ .notFound → post false w) (gone : reply = .notFound → post true w)
    (cull : reply = .ok → along (w.cullPod name) ∧ post true (w.cullPod name)) :
    (cullPod name reply).wp along post w := by
  simp only [cullPod, wp_bind, wp_ite, wp_pure, wp_read, wp_write]
  refine ⟨fun refused => fail refused.1 refused.2, fun handled => ⟨fun ok => cull ok.1, ?_⟩⟩
  intro other
  refine gone ?_
  by_contra found
  exact handled ⟨fun ok => other ⟨ok, present⟩, found⟩

/-- The delete is answered by success or by a pod that is gone. -/
def Reply.Settles (reply : Reply) : Prop :=
  reply = .ok ∨ reply = .notFound

instance (reply : Reply) : Decidable reply.Settles :=
  inferInstanceAs (Decidable (_ ∨ _))

/-- The gate was closed for long enough while some pod is primary. -/
structure GateLoop.Condemns (loop : GateLoop) (firstSeen : Nat) (pod : Pod) : Prop where
  gated : podHasReplicationGate pod = true
  addressed : pod.podIP ≠ ""
  replica : pod.role = .replica
  closed : (loop.evaluate pod).status ≠ .true
  overdue : staleReplicaThreshold ≤ loop.now - firstSeen
  labelled : loop.suppress = false

variable {pod : Pod} {loop : GateLoop} {firstSeen : Nat}

theorem GateLoop.condemns_iff :
    loop.Condemns firstSeen pod ↔
      podHasReplicationGate pod = true ∧ pod.podIP ≠ "" ∧ pod.role = .replica ∧
      (loop.evaluate pod).status ≠ .true ∧ staleReplicaThreshold ≤ loop.now - firstSeen ∧
      loop.suppress = false :=
  ⟨fun ⟨gated, addressed, replica, closed, overdue, labelled⟩ =>
    ⟨gated, addressed, replica, closed, overdue, labelled⟩,
    fun ⟨gated, addressed, replica, closed, overdue, labelled⟩ =>
      ⟨gated, addressed, replica, closed, overdue, labelled⟩⟩

instance (loop : GateLoop) (firstSeen : Nat) (pod : Pod) :
    Decidable (loop.Condemns firstSeen pod) :=
  decidable_of_iff' _ GateLoop.condemns_iff

/-- The round of this pod ends with a deletion, unless an earlier one did. -/
def GateLoop.takes (loop : GateLoop) (mem : Memory) (pod : Pod) : Bool :=
  loop.Condemns (mem.firstSeen pod.uid loop.now) pod ∧ (loop.input.deleteReply pod.name).Settles

private def GateLoop.taken (loop : GateLoop) (mem : Memory) (deleted : Bool) (pod : Pod) :
    List String :=
  if !deleted ∧ loop.takes mem pod ∧ loop.input.deleteReply pod.name = .ok then [pod.name] else []

section Round

variable {loop : GateLoop} {pod : Pod} {deleted : Bool} {w middle : World} {mem : Memory}

theorem GateLoop.spare_step (step : Step [pod.uid] [] w middle)
    (reason : ¬loop.Condemns (mem.firstSeen pod.uid loop.now) pod ∨ deleted = true ∨
      ¬(loop.input.deleteReply pod.name).Settles) :
    deleted = (deleted || loop.takes mem pod) ∧
      Step [pod.uid] (loop.taken mem deleted pod) w middle := by
  have none_taken : deleted = true ∨ loop.takes mem pod = false := by
    rcases reason with free | done | refused
    · simp [GateLoop.takes, free]
    · exact .inl done
    · simp [GateLoop.takes, refused]
  rcases none_taken with rfl | free
  · simpa [GateLoop.taken] using step
  · simpa [GateLoop.taken, free] using step

/-- A condemned pod that is there is taken if its deletion is settled. -/
theorem recreateStale_step (condemned : loop.Condemns (mem.firstSeen pod.uid loop.now) pod)
    (step : Step [pod.uid] [] w middle) (present : middle.pods.role pod.name ≠ none) :
    (recreateStale loop pod (loop.now - mem.firstSeen pod.uid loop.now)).wp (fun _ => True)
      (fun deleted after => deleted = loop.takes mem pod ∧
        Step [pod.uid] (loop.taken mem false pod) w after) middle := by
  have settled : ∀ {taken} final, Step [pod.uid] taken w final →
      (loop.input.deleteReply pod.name).Settles → taken = loop.taken mem false pod →
      true = loop.takes mem pod ∧ Step [pod.uid] (loop.taken mem false pod) w
        ((final.note (.event (.staleReplicaRecreated pod.name
          (loop.now - mem.firstSeen pod.uid loop.now)))).untrackStale pod.uid) := by
    rintro _ final step settles rfl
    exact ⟨by simp [GateLoop.takes, condemned, settles],
      (step.trans (final.note_step _ rfl)).trans
        (World.untrackStale_step (List.mem_singleton_self pod.uid) _)⟩
  unfold recreateStale
  simp only [wp_bind, wp_ite, wp_pure, wp_write, true_and]
  refine cullPod_wp present (fun refused absent => ?_) (fun absent => ?_) fun ok => ?_
  · simp only [Bool.not_false, forall_const, not_true_eq_false, false_implies, and_true]
    have spared := @GateLoop.spare_step loop pod false w middle mem step
      (.inr (.inr (by simp [Reply.Settles, refused, absent])))
    simpa using spared
  · simp only [Bool.not_true, Bool.false_eq_true, false_implies, not_false_eq_true,
      forall_const, true_and, recordEvent, log, wp_write]
    exact settled _ step (.inr absent) (by simp [GateLoop.taken, absent])
  · simp only [Bool.not_true, Bool.false_eq_true, false_implies, not_false_eq_true,
      forall_const, true_and, recordEvent, log, wp_write]
    refine settled _ (step.trans (World.cullPod_step _ _)) (.inl ok) ?_
    simp [GateLoop.taken, GateLoop.takes, condemned, ok, Reply.Settles]

private theorem settleGate_step (gated : podHasReplicationGate pod = true)
    (addressed : pod.podIP ≠ "") (present : w.pods.role pod.name ≠ none) :
    (settleGate loop pod (mem.firstSeen pod.uid loop.now) deleted).wp (fun _ => True)
      (fun deleted' after => deleted' = (deleted || loop.takes mem pod) ∧
        Step [pod.uid] (loop.taken mem deleted pod) w after) w := by
  have untrack := World.untrackStale_step (List.mem_singleton_self pod.uid) w
  have track := World.trackStale_step (List.mem_singleton_self pod.uid) loop.now w
  unfold settleGate
  simp only [wp_bind, wp_ite, wp_pure, wp_write, true_and]
  refine ⟨fun opened => GateLoop.spare_step untrack (.inl fun condemned => condemned.closed opened),
    fun closed => ⟨fun other => GateLoop.spare_step (Std.Refl.refl w) (.inl fun condemned =>
      other condemned.replica), fun replica => ⟨fun early => GateLoop.spare_step track ?_,
        fun late => ?_⟩⟩⟩
  · rcases early with done | fresh | suppressed
    · exact .inr (.inl done)
    · exact .inl fun condemned => Nat.not_lt.mpr condemned.overdue fresh
    · exact .inl fun condemned => by simp [condemned.labelled] at suppressed
  · simp only [not_or, Nat.not_lt, Bool.not_eq_true] at late
    obtain ⟨rfl, overdue, labelled⟩ := late
    simp only [Bool.false_or]
    exact recreateStale_step
      ⟨gated, addressed, by simpa using replica, closed, overdue, labelled⟩ track present

end Round

/-- One round keeps the reading of its pod, and deletes what it takes. -/
theorem visitGate_step {scan : GateScan} (present : w.pods.role pod.name ≠ none) :
    (visitGate loop scan pod).wp (fun _ => True) (fun scan' after =>
      scan'.readings = scan.readings.visit loop (w.mem.firstSeen pod.uid loop.now) pod ∧
      scan'.deletedThisPass = (scan.deletedThisPass || loop.takes w.mem pod) ∧
      Step [pod.uid] (loop.taken w.mem scan.deletedThisPass pod) w after) w := by
  unfold visitGate
  simp only [wp_bind, wp_read, wp_ite, wp_pure, true_and]
  refine ⟨fun ungated => ?_, fun gated => ?_⟩
  · have free : loop.takes w.mem pod = false := by
      refine decide_eq_false fun takes => ?_
      rcases ungated with gateless | pending
      · simp [takes.1.gated] at gateless
      · exact takes.1.addressed pending
    simpa [free, GateLoop.taken] using Std.Refl.refl (r := Step [pod.uid] []) w
  · simp only [not_or, Bool.not_eq_true, Bool.not_eq_false'] at gated
    have report : Within (Step [pod.uid] []) _ := reportGate_step pod (loop.evaluate pod)
      (loop.input.patchReply pod.name)
    refine wp_mono (report w) (fun _ _ => trivial) fun _ middle reported => ?_
    have there : middle.pods.role pod.name ≠ none := by simpa [reported.roles] using present
    refine wp_mono (settleGate_step gated.1 gated.2 there) (fun _ => id)
      fun deleted after settled => ?_
    exact ⟨settled.1, by simpa using reported.trans settled.2⟩

/-- The readings after these pods. -/
def GateLoop.readings (loop : GateLoop) (mem : Memory) (pods : List Pod)
    (held : EscapeReadings) : EscapeReadings :=
  pods.foldl (fun held pod => held.visit loop (mem.firstSeen pod.uid loop.now) pod) held

private def GateLoop.allTaken (loop : GateLoop) (mem : Memory) (deleted : Bool) (pods : List Pod) :
    List String :=
  if deleted then []
  else ((pods.find? (loop.takes mem)).filter fun pod =>
    loop.input.deleteReply pod.name = .ok).toList.map Pod.name

private theorem GateLoop.allTaken_cons (loop : GateLoop) (mem : Memory) (deleted : Bool) (pod : Pod)
    (pods : List Pod) : loop.allTaken mem deleted (pod :: pods) =
      loop.allTaken mem (deleted || loop.takes mem pod) pods ++ loop.taken mem deleted pod := by
  cases deleted with
  | true => simp [allTaken, taken]
  | false =>
      cases takes : loop.takes mem pod with
      | false => simp [allTaken, taken, takes]
      | true =>
          by_cases ok : loop.input.deleteReply pod.name = .ok <;>
            simp [allTaken, taken, takes, ok]

private theorem GateLoop.takes_congr {mem mem' : Memory}
    (same : mem.closedSince pod.uid = mem'.closedSince pod.uid) :
    loop.takes mem pod = loop.takes mem' pod := by
  unfold takes Memory.firstSeen
  rw [same]

variable {pods : List Pod}

/-- The loop keeps the reading of every pod, and deletes the first pod it can. -/
theorem visitGates_step (mem : Memory) (names : (pods.map Pod.name).Nodup)
    (uids : (pods.map Pod.uid).Nodup) {scan : GateScan}
    (agrees : ∀ pod ∈ pods, w.mem.closedSince pod.uid = mem.closedSince pod.uid)
    (present : ∀ pod ∈ pods, w.pods.role pod.name ≠ none) :
    (pods.foldlM (visitGate loop) scan).wp (fun _ => True) (fun scan' after =>
      scan'.readings = loop.readings mem pods scan.readings ∧
      scan'.deletedThisPass = (scan.deletedThisPass || pods.any (loop.takes mem)) ∧
      Step (pods.map Pod.uid) (loop.allTaken mem scan.deletedThisPass pods) w after) w := by
  induction pods generalizing scan w with
  | nil =>
      have still : Step [] [] w w := Std.Refl.refl w
      simpa [GateLoop.readings, GateLoop.allTaken] using still
  | cons pod pods ih =>
      obtain ⟨fresh_name, names⟩ := List.nodup_cons.mp names
      obtain ⟨fresh_uid, uids⟩ := List.nodup_cons.mp uids
      have same := agrees pod (by simp)
      rw [List.foldlM_cons, wp_bind]
      refine wp_mono (visitGate_step (present pod (by simp))) (fun _ => id) ?_
      rintro scan' middle ⟨readings, deleted, step⟩
      rw [GateLoop.takes_congr same] at deleted
      have taken_eq : loop.taken w.mem scan.deletedThisPass pod =
          loop.taken mem scan.deletedThisPass pod := by
        simp only [GateLoop.taken, GateLoop.takes_congr same]
      rw [taken_eq] at step
      -- The other pods are there as before, and so is what is remembered of them.
      have remembered : ∀ other ∈ pods,
          middle.mem.closedSince other.uid = mem.closedSince other.uid := by
        intro other listed
        have apart : other.uid ∉ [pod.uid] := fun eq => fresh_uid
          (List.mem_singleton.mp eq ▸ List.mem_map_of_mem listed)
        rw [step.tracker other.uid apart]
        exact agrees other (by simp [listed])
      have there : ∀ other ∈ pods, middle.pods.role other.name ≠ none := by
        intro other listed
        have apart : other.name ≠ pod.name := fun eq => fresh_name
          (eq ▸ List.mem_map_of_mem listed)
        have untaken : other.name ∉ loop.taken mem scan.deletedThisPass pod := by
          unfold GateLoop.taken
          split <;> simp [apart]
        rw [step.roles, if_neg untaken]
        exact present other (by simp [listed])
      refine wp_mono (ih names uids remembered there) (fun _ => id) ?_
      rintro last after ⟨readings', deleted', step'⟩
      refine ⟨?_, ?_, ?_⟩
      · rw [readings', readings]
        simp only [GateLoop.readings, List.foldl_cons, Memory.firstSeen, same]
      · rw [deleted', deleted, List.any_cons, Bool.or_assoc]
      · rw [GateLoop.allTaken_cons, ← deleted]
        exact (step.mono (by simp)).trans (step'.mono (by simp))

/-- The escape deletes this pod. -/
structure World.Escapes (w : World) (loop : GateLoop) (readings : EscapeReadings) (pod : Pod) :
    Prop where
  dwelt : w.mem.noPrimaryDwelt loop.now = true
  sentinel : w.v.spec.masterName ≠ ""
  allowed : w.mem.staleReplicaEscapeAllowed loop.now = true
  calm : ((w.observe loop.input.inFlight).latchActive loop.input.inFlight.snap.addr
      loop.input.inFlight.snap.epoch || w.mem.lastState == some .failoverInFlight) = false
  cooled : loop.input.promotionCooling = false
  victim : readings.victim loop.input.endpoints = some pod
  accepted : loop.input.escapeReply = .ok

variable {after before : World} {readings : EscapeReadings} {uids taken : List String}

/-- The loop changes nothing that the escape looks at. -/
theorem Step.escapes_iff (step : Step uids taken before after) :
    after.Escapes loop readings pod ↔ before.Escapes loop readings pod := by
  have dwelt : after.mem.noPrimaryDwelt loop.now = before.mem.noPrimaryDwelt loop.now := by
    rw [step.memory]
    rfl
  have allowed : after.mem.staleReplicaEscapeAllowed loop.now =
      before.mem.staleReplicaEscapeAllowed loop.now := by
    rw [step.memory]
    rfl
  have state : after.mem.lastState = before.mem.lastState := by rw [step.memory]
  have latch : (after.observe loop.input.inFlight).latchActive =
      (before.observe loop.input.inFlight).latchActive := by
    funext addr epoch
    simp only [World.latchActive, World.observe, step.clock]
    rw [step.memory]
  constructor
  · rintro ⟨h, sentinel, a, calm, cooled, victim, accepted⟩
    exact ⟨dwelt ▸ h, step.copy ▸ sentinel, allowed ▸ a, by rwa [latch, state] at calm, cooled,
      victim, accepted⟩
  · rintro ⟨h, sentinel, a, calm, cooled, victim, accepted⟩
    exact ⟨dwelt ▸ h, step.copy ▸ sentinel, allowed ▸ a, by rwa [latch, state], cooled,
      victim, accepted⟩

variable {obs : ReplicaGateObs}

private theorem mem_appendEscapeReading {state : LagState} {failed eligible : Bool}
    (mem : obs ∈ (appendEscapeReading pod state failed eligible readings).obs) :
    obs ∈ readings.obs ∨ obs.pod = pod := by
  unfold appendEscapeReading at mem
  split at mem
  · exact .inl mem
  · split at mem
    · exact .inl mem
    · refine (List.mem_append.mp mem).imp_right fun last => ?_
      rw [List.mem_singleton.mp last]

theorem EscapeReadings.locate_obs (pod : Pod) (readings : EscapeReadings) :
    (readings.locate pod).obs = readings.obs := by
  unfold locate
  split <;> rfl

private theorem EscapeReadings.mem_visit (mem : obs ∈ (readings.visit loop firstSeen pod).obs) :
    obs ∈ readings.obs ∨ obs.pod = pod := by
  have located := locate_obs pod readings
  unfold visit at mem
  split at mem
  · exact .inl mem
  · dsimp only at mem
    split at mem
    · split at mem
      · unfold classifyGatelessEscapePod at mem
        split at mem
        · exact .inl (located ▸ mem)
        · split at mem <;> exact located ▸ mem_appendEscapeReading mem
      · exact .inl (located ▸ mem)
    · split at mem
      · exact .inl (located ▸ mem)
      · exact located ▸ mem_appendEscapeReading mem

private theorem GateLoop.mem_readings {mem : Memory} {held : EscapeReadings}
    (kept : obs ∈ (loop.readings mem pods held).obs) : obs ∈ held.obs ∨ obs.pod ∈ pods := by
  induction pods generalizing held with
  | nil => exact .inl kept
  | cons pod pods ih =>
      rcases ih kept with early | late
      · refine (EscapeReadings.mem_visit early).imp_right fun same => ?_
        simp [same]
      · exact .inr (by simp [late])

private theorem EscapeReadings.mem_of_victim {endpoints : Option Nat}
    (found : readings.victim endpoints = some pod) : ∃ obs ∈ readings.obs, obs.pod = pod := by
  simp only [victim, Option.bind_eq_bind, Option.bind_eq_some_iff] at found
  obtain ⟨_, -, found⟩ := found
  split at found
  · cases found
  simp only [Option.bind_eq_some_iff] at found
  obtain ⟨_, -, index, -, taken⟩ := found
  obtain ⟨obs, at_index, rfl⟩ := Option.map_eq_some_iff.mp taken
  exact ⟨obs, List.mem_of_getElem? at_index, rfl⟩

private theorem isFailoverInFlight_deletes (site : Site) (obs : Obs) (w : World) :
    (isFailoverInFlight site obs).wp (fun _ => True) (fun answer after =>
      answer = ((w.observe obs).latchActive obs.snap.addr obs.snap.epoch ||
        w.mem.lastState == some .failoverInFlight) ∧ Deletes [] w after) w := by
  simp only [isFailoverInFlight, readSnapshot, logHere, wp_bind, wp_read, wp_pure,
    wp_write, true_and]
  exact ⟨rfl, by simp [World.observe], rfl, rfl⟩

private theorem maybeEscapeStaleReplica_deletes
    (present : ∀ pod, readings.victim loop.input.endpoints = some pod →
      w.pods.role pod.name ≠ none) :
    (maybeEscapeStaleReplica loop readings).wp (fun _ => True) (fun _ after =>
      (∀ pod, w.Escapes loop readings pod → Deletes [pod.name] w after) ∧
      ((∀ pod, ¬w.Escapes loop readings pod) → Deletes [] w after)) w := by
  -- A path on which no pod escapes leaves the pods alone.
  have spare : ∀ after, Deletes [] w after → (∀ pod, ¬w.Escapes loop readings pod) →
      (∀ pod, w.Escapes loop readings pod → Deletes [pod.name] w after) ∧
        ((∀ pod, ¬w.Escapes loop readings pod) → Deletes [] w after) :=
    fun after still free => ⟨fun pod escapes => absurd escapes (free pod), fun _ => still⟩
  unfold maybeEscapeStaleReplica
  simp only [wp_bind, wp_read, wp_ite, wp_pure]
  refine ⟨fun h => spare _ (.refl w) fun pod escapes => by simp [escapes.dwelt] at h,
    fun dwelt => ⟨fun h => spare _ (.refl w) fun pod escapes => by simp [escapes.sentinel] at h,
    fun sentinel => ⟨fun h => spare _ (.refl w) fun pod escapes => by simp [escapes.allowed] at h,
    fun allowed => ?_⟩⟩⟩
  refine wp_mono (isFailoverInFlight_deletes _ _ w) (fun _ => id) ?_
  rintro _ asked ⟨rfl, still⟩
  refine ⟨fun busy => spare _ still fun pod escapes => by simp [escapes.calm] at busy,
    fun calm => ⟨fun h => spare _ still fun pod escapes => by simp [escapes.cooled] at h,
      fun cooled => ?_⟩⟩
  cases found : readings.victim loop.input.endpoints with
  | none =>
      rw [wp_pure]
      refine spare _ still fun pod escapes => ?_
      simp [escapes.victim] at found
  | some target =>
      simp only [Bool.not_eq_true', Bool.not_eq_false, Bool.not_eq_true]
        at dwelt sentinel allowed calm cooled
      have there : asked.pods.role target.name ≠ none := by
        simpa [still.roles] using present target found
      have close : ∀ {taken} middle, Deletes taken w middle → Deletes taken w
          (((middle.recordStaleReplicaEscape loop.now).untrackStale target.uid).note
            (.event (.staleReplicaEscapeDeleted target.name
              (loop.now - w.mem.noPrimarySince.getD loop.now)))) :=
        fun middle done => ⟨done.roles, done.deletions, done.copy⟩
      simp only [wp_bind, wp_ite, wp_pure, wp_write, recordEvent, log, true_and]
      refine cullPod_wp there (fun refused _ => ?_) (fun absent => ?_) fun ok => ?_
      · simp only [Bool.not_false, forall_const, not_true_eq_false, false_implies, and_true]
        exact spare _ still fun pod escapes => refused escapes.accepted
      · simp only [Bool.not_true, Bool.false_eq_true, false_implies, not_false_eq_true,
          forall_const, true_and]
        refine spare _ (close _ still) fun pod escapes => ?_
        simp [escapes.accepted] at absent
      · simp only [Bool.not_true, Bool.false_eq_true, false_implies, not_false_eq_true,
          forall_const, true_and]
        have escapes : w.Escapes loop readings target :=
          ⟨dwelt, sentinel, allowed, calm, cooled, found, ok⟩
        have cull : Step [] [target.name] asked (asked.cullPod target.name) :=
          World.cullPod_step _ _
        refine ⟨fun pod other => ?_, fun free => absurd escapes (free target)⟩
        rw [Option.some.inj (other.victim.symm.trans found)]
        exact close _ (still.trans cull.toDeletes)

/-- The first replica closed for too long whose deletion is settled. -/
def World.CullsStale (w : World) (input : ReadinessInput) (pod : Pod) : Prop :=
  let condemns := fun pod : Pod =>
    (w.gateLoop input).Condemns (w.mem.firstSeen pod.uid w.now) pod
  ∃ before after, w.pods.items = before ++ pod :: after ∧ condemns pod ∧
    input.deleteReply pod.name = .ok ∧
    ∀ other ∈ before, condemns other → ¬(input.deleteReply other.name).Settles

/-- Phase 8 deletes this replica as an escape from the lack of a primary. -/
def World.CullsUnled (w : World) (input : ReadinessInput) (pod : Pod) : Prop :=
  suppressStaleDelete w.pods.items = true ∧
    (w.observeNoPrimary true).Escapes (w.gateLoop input)
      ((w.gateLoop input).readings w.mem w.pods.items {}) pod

/-- Phase 8 deletes this pod. -/
structure World.Culls (w : World) (input : ReadinessInput) (pod : Pod) : Prop where
  enabled : replicationGateEnabled w.v.spec = true
  listed : input.listFails = false
  chosen : w.CullsStale input pod ∨ w.CullsUnled input pod

variable {input : ReadinessInput}

private theorem World.cullsStale_iff :
    w.CullsStale input pod ↔
      ((w.pods.items.find? ((w.gateLoop input).takes w.mem)).filter fun pod =>
        input.deleteReply pod.name = .ok) = some pod := by
  have takes_iff : ∀ pod, (w.gateLoop input).takes w.mem pod = true ↔
      (w.gateLoop input).Condemns (w.mem.firstSeen pod.uid w.now) pod ∧
        (input.deleteReply pod.name).Settles := fun pod => decide_eq_true_iff
  rw [Option.filter_eq_some_iff, List.find?_eq_some_iff_append]
  simp only [decide_eq_true_eq, takes_iff, Bool.not_eq_true', CullsStale]
  constructor
  · rintro ⟨before, after, split, condemned, ok, free⟩
    refine ⟨⟨⟨condemned, .inl ok⟩, before, after, split, fun other mem => ?_⟩, ok⟩
    rw [← Bool.not_eq_true, takes_iff]
    exact fun taken => free other mem taken.1 taken.2
  · rintro ⟨⟨⟨condemned, -⟩, before, after, split, free⟩, ok⟩
    refine ⟨before, after, split, condemned, ok, fun other mem other_condemned settles => ?_⟩
    have untaken := free other mem
    rw [← Bool.not_eq_true, takes_iff] at untaken
    exact untaken ⟨other_condemned, settles⟩

/-- Exactly the pod that Phase 8 is to delete was deleted. -/
structure CulledExactly (input : ReadinessInput) (before after : World) : Prop where
  culled : ∀ pod, before.Culls input pod → Deletes [pod.name] before after
  spared : (∀ pod, ¬before.Culls input pod) → Deletes [] before after

private theorem CulledExactly.of_free (free : ∀ pod, ¬before.Culls input pod)
    (still : Deletes [] before after) : CulledExactly input before after :=
  ⟨fun pod culls => absurd culls (free pod), fun _ => still⟩

private theorem culledExactly_of_labelled {start : World}
    (enabled : replicationGateEnabled start.v.spec = true) (listed : input.listFails = false)
    (labelled : suppressStaleDelete start.pods.items = false)
    (step : Step uids ((start.gateLoop input).allTaken start.mem false start.pods.items)
      (start.observeNoPrimary false) after) : CulledExactly input start after := by
  have culls_iff : ∀ pod, start.Culls input pod ↔ start.CullsStale input pod := fun pod =>
    ⟨fun culls => culls.chosen.resolve_right fun ⟨unlabelled, _⟩ => by
      simp [labelled] at unlabelled, fun stale => ⟨enabled, listed, .inl stale⟩⟩
  let first := (start.pods.items.find? ((start.gateLoop input).takes start.mem)).filter fun pod =>
    input.deleteReply pod.name = .ok
  have observed : Deletes [] start (start.observeNoPrimary false) :=
    ⟨by simp [World.observeNoPrimary], rfl, rfl⟩
  have taken : Deletes (first.toList.map Pod.name ++ []) start after :=
    observed.trans step.toDeletes
  constructor
  · intro pod culls
    have chosen : first = some pod := World.cullsStale_iff.mp ((culls_iff pod).mp culls)
    simpa [chosen] using taken
  · intro free
    have none_chosen : first = none := Option.eq_none_iff_forall_ne_some.mpr fun pod chosen =>
      free pod ((culls_iff pod).mpr (World.cullsStale_iff.mpr chosen))
    simpa [none_chosen] using taken

theorem unlabelled_of_suppress (suppress : suppressStaleDelete pods = true) :
    ∀ pod ∈ pods, pod.role ≠ .primary := by
  intro pod mem primary
  simp only [suppressStaleDelete, decide_eq_true_eq, List.countP_eq_zero] at suppress
  exact suppress.1 pod mem primary

theorem labelled_of_not_suppress (listed : pod ∈ pods) (calm : suppressStaleDelete pods = false) :
    ∃ primary ∈ pods, primary.role = .primary := by
  by_contra none_labelled
  have unlabelled : (pods.countP fun pod => pod.role = .primary) = 0 := by
    rw [List.countP_eq_zero]
    intro other mem primary
    exact none_labelled ⟨other, mem, of_decide_eq_true primary⟩
  simp [suppressStaleDelete, unlabelled, List.ne_nil_of_mem listed] at calm

private theorem takes_of_unlabelled (unlabelled : suppressStaleDelete w.pods.items = true)
    (mem : Memory) (pod : Pod) : (w.gateLoop input).takes mem pod = false :=
  decide_eq_false fun takes => by
    have labelled : suppressStaleDelete w.pods.items = false := takes.1.labelled
    simp [unlabelled] at labelled

private theorem culledExactly_of_unlabelled {start : World}
    (enabled : replicationGateEnabled start.v.spec = true) (listed : input.listFails = false)
    (unlabelled : suppressStaleDelete start.pods.items = true)
    (step : Step uids [] (start.observeNoPrimary true) w) :
    (maybeEscapeStaleReplica (start.gateLoop input)
      ((start.gateLoop input).readings start.mem start.pods.items {})).wp (fun _ => True)
      (fun _ after => CulledExactly input start after) w := by
  let loop := start.gateLoop input
  let readings := loop.readings start.mem start.pods.items {}
  have before : Deletes [] start w := by
    have observed : Deletes [] start (start.observeNoPrimary true) :=
      ⟨by simp [World.observeNoPrimary], rfl, rfl⟩
    exact observed.trans step.toDeletes
  have culls_iff : ∀ pod, start.Culls input pod ↔ w.Escapes loop readings pod := by
    intro pod
    rw [step.escapes_iff]
    constructor
    · intro culls
      rcases culls.chosen with ⟨_, _, _, condemned, _⟩ | unled
      · have labelled : suppressStaleDelete start.pods.items = false := condemned.labelled
        simp [unlabelled] at labelled
      · exact unled.2
    · exact fun escapes => ⟨enabled, listed, .inr ⟨unlabelled, escapes⟩⟩
  have present : ∀ pod, readings.victim loop.input.endpoints = some pod →
      w.pods.role pod.name ≠ none := by
    intro pod victim
    obtain ⟨obs, kept, rfl⟩ := EscapeReadings.mem_of_victim victim
    have among : obs.pod ∈ start.pods.items :=
      (GateLoop.mem_readings kept).resolve_left List.not_mem_nil
    simp [before.roles, Pods.role_of_mem among]
  refine wp_mono (maybeEscapeStaleReplica_deletes present) (fun _ => id) ?_
  rintro _ after ⟨escaped, spared⟩
  refine ⟨fun pod culls => ?_, fun free => ?_⟩
  · simpa using before.trans (escaped pod ((culls_iff pod).mp culls))
  · exact before.trans (spared fun pod escapes => free pod ((culls_iff pod).mpr escapes))

/-- Phase 8 deletes at most one pod. When it fails it deletes none. -/
theorem reconcileReadinessGates_deletes (input : ReadinessInput) (w : World) :
    (reconcileReadinessGates input).wp (fun _ => True) (fun ok after =>
      (ok = false → ∀ pod, ¬(w.drift input.before).Culls input pod) ∧
        CulledExactly input (w.drift input.before) after) w := by
  unfold reconcileReadinessGates meanwhile
  simp only [wp_bind, wp_read, wp_ite, wp_pure, wp_write, true_and]
  generalize w.drift input.before = start
  refine ⟨fun off => ⟨by simp, .of_free (fun pod culls => ?_) (.refl start)⟩, fun on =>
    ⟨fun fails => ?_, fun lists => ?_⟩⟩
  · simp [culls.enabled] at off
  · have free : ∀ pod, ¬start.Culls input pod := fun pod culls => by
      simp [culls.listed] at fails
    exact ⟨fun _ => free, .of_free free (.refl start)⟩
  have enabled : replicationGateEnabled start.v.spec = true := by simpa using on
  have listed : input.listFails = false := by simpa using lists
  refine wp_mono (visitGates_step start.mem start.pods.distinct start.pods.uids
    (fun _ _ => rfl) fun pod mem => ?_) (fun _ => id) ?_
  · have there := Pods.role_of_mem mem
    simp [World.observeNoPrimary, there]
  rintro scan after ⟨readings, deleted, step⟩
  cases suppress : suppressStaleDelete start.pods.items with
  | false =>
      have calm : (start.gateLoop input).suppress = false := suppress
      rw [calm] at step
      have exactly := culledExactly_of_labelled enabled listed suppress step
      simpa [calm] using exactly
  | true =>
      have calm : (start.gateLoop input).suppress = true := suppress
      have untaken : ∀ pod, (start.gateLoop input).takes start.mem pod = false :=
        takes_of_unlabelled suppress start.mem
      have undeleted : scan.deletedThisPass = false := by
        rw [deleted, Bool.false_or, List.any_eq_false]
        exact fun pod _ => by simp [untaken pod]
      have nothing : (start.pods.items.find? ((start.gateLoop input).takes start.mem)) = none :=
        List.find?_eq_none.mpr fun pod _ => by simp [untaken pod]
      rw [calm] at step
      simp only [GateLoop.allTaken, nothing] at step
      simp only [calm, undeleted, Bool.not_false, and_self, forall_const, not_true_eq_false,
        false_implies, and_true]
      rw [readings]
      refine wp_mono
        (culledExactly_of_unlabelled enabled listed suppress (by simpa using step))
        (fun _ => id) ?_
      exact fun _ after exactly => ⟨by simp, exactly⟩

/-- Phase 9 deletes this pod. -/
structure World.Rolls (w : World) (quorumOK : Bool) (listed : List Pod) (sts : Option StatefulSet)
    (input : PodRolloutInput) (pod : Pod) : Prop where
  replicated : w.v.spec.mode ≠ .standalone
  taken : ∃ found, sts = some found ∧ (w.rolloutView quorumOK listed found).Takes input.pick pod
  accepted : input.deleteReply = .ok
  present : w.pods.role pod.name ≠ none

variable {quorumOK : Bool} {listed : List Pod} {sts : Option StatefulSet}

/-- Phase 9 is to delete the same pod after other pods were deleted. -/
theorem Deletes.rolls_iff (deletes : Deletes taken before after) {input : PodRolloutInput} :
    after.Rolls quorumOK listed sts input pod ↔
      before.Rolls quorumOK listed sts input pod ∧ pod.name ∉ taken := by
  have view : ∀ found, after.rolloutView quorumOK listed found =
      before.rolloutView quorumOK listed found := fun found => by
    simp only [World.rolloutView, deletes.copy]
  constructor
  · rintro ⟨replicated, ⟨found, eq, takes⟩, accepted, present⟩
    rw [deletes.roles] at present
    have untaken : pod.name ∉ taken := fun mem => by simp [mem] at present
    rw [if_neg untaken] at present
    exact ⟨⟨deletes.copy ▸ replicated, ⟨found, eq, view found ▸ takes⟩, accepted, present⟩, untaken⟩
  · rintro ⟨⟨replicated, ⟨found, eq, takes⟩, accepted, present⟩, untaken⟩
    refine ⟨deletes.copy ▸ replicated, ⟨found, eq, view found ▸ takes⟩, accepted, ?_⟩
    rwa [deletes.roles, if_neg untaken]

/-- The pod that Phase 9 rolls, or none. -/
structure RolledExactly (rolls : Pod → Prop) (before after : World) : Prop where
  rolled : ∀ pod, rolls pod → after.deletions = pod.name :: before.deletions
  spared : (∀ pod, ¬rolls pod) → after.deletions = before.deletions

variable {rolls : Pod → Prop}

private theorem RolledExactly.of_free (free : ∀ pod, ¬rolls pod)
    (still : after.deletions = before.deletions) : RolledExactly rolls before after :=
  ⟨fun pod taken => absurd taken (free pod), fun _ => still⟩

private theorem reconcilePodRollout_deletes (quorumOK : Bool) (listed : List Pod)
    (sts : Option StatefulSet) (input : PodRolloutInput) (w : World) :
    (reconcilePodRollout quorumOK listed sts input).wp (fun _ => True) (fun _ after =>
      RolledExactly (w.Rolls quorumOK listed sts input) w after) w := by
  unfold reconcilePodRollout
  simp only [wp_bind, wp_read, wp_ite, wp_pure]
  refine ⟨fun standalone => .of_free (fun pod rolls => rolls.replicated standalone) rfl,
    fun replicated => ?_⟩
  cases sts with
  | none =>
      rw [wp_pure]
      refine .of_free (fun pod rolls => ?_) rfl
      obtain ⟨found, missing, -⟩ := rolls.taken
      cases missing
  | some found =>
      simp only [logHere, wp_bind, wp_write, true_and]
      have only : ∀ pod, w.Rolls quorumOK listed (some found) input pod →
          (w.rolloutView quorumOK listed found).Takes input.pick pod := by
        intro pod rolls
        obtain ⟨other, same, takes⟩ := rolls.taken
        cases same
        exact takes
      refine rollView_wp (fun free => .of_free (fun pod rolls => free pod (only pod rolls)) rfl)
        (fun free quorum => ⟨trivial, .of_free (fun pod rolls => free pod (only pod rolls)) rfl⟩)
        fun victim takes => ?_
      have same : ∀ pod, w.Rolls quorumOK listed (some found) input pod → pod = victim :=
        fun pod rolls => Option.some.inj ((only pod rolls).first.symm.trans takes.first)
      refine rollPod_wp (fun refused => .of_free (fun pod rolls => refused rolls.accepted) rfl)
        (fun _ _ => trivial) ?_
      rintro middle (⟨rfl, ok, present⟩ | ⟨rfl, absent⟩)
      · refine ⟨trivial, trivial, fun pod rolls => ?_, fun free => ?_⟩
        · rw [same pod rolls]
          rfl
        · exact absurd ⟨replicated, ⟨found, rfl, takes⟩, ok, present⟩ (free victim)
      · refine ⟨trivial, trivial, .of_free (fun pod rolls => ?_) rfl⟩
        exact rolls.present (same pod rolls ▸ absent rolls.accepted)

private theorem RolledExactly.still_iff (exactly : RolledExactly rolls before after) :
    after.deletions.length ≤ before.deletions.length ↔ ∀ pod, ¬rolls pod := by
  constructor
  · intro still pod taken
    rw [exactly.rolled pod taken, List.length_cons] at still
    omega
  · intro free
    exact Nat.le_of_eq (by rw [exactly.spared free])

private theorem RolledExactly.length_le (exactly : RolledExactly rolls before after) :
    after.deletions.length ≤ before.deletions.length + 1 := by
  by_cases rolling : ∃ pod, rolls pod
  · obtain ⟨pod, taken⟩ := rolling
    exact Nat.le_of_eq (by rw [exactly.rolled pod taken, List.length_cons])
  · rw [exactly.spared (not_exists.mp rolling)]
    omega

private theorem CulledExactly.name_eq {start : World} {one other : Pod}
    (exactly : CulledExactly input start after) (culls : start.Culls input one)
    (culls' : start.Culls input other) : one.name = other.name := by
  have names : [one.name] ++ start.deletions = [other.name] ++ start.deletions :=
    (exactly.culled one culls).deletions.symm.trans (exactly.culled other culls').deletions
  simpa using names

/-- What Phase 8 deleted is not there for Phase 9, so a second deletion is one of another pod. -/
theorem CulledExactly.deletesOne_iff {gates : ReadinessInput} {rollout : PodRolloutInput}
    {start middle final : World} (exactly : CulledExactly gates start middle)
    (rolled : RolledExactly (middle.Rolls quorumOK listed sts rollout) middle final) :
    final.deletions.length ≤ start.deletions.length + 1 ↔
      ∀ culled rolled, start.Culls gates culled → start.Rolls quorumOK listed sts rollout rolled →
        culled.name = rolled.name := by
  by_cases culling : ∃ culled, start.Culls gates culled
  · obtain ⟨culled, culls⟩ := culling
    have deletes := exactly.culled culled culls
    have count : start.deletions.length + 1 = middle.deletions.length := by
      rw [deletes.deletions]
      simp
    rw [count, rolled.still_iff]
    constructor
    · intro still other victim culls' rolls
      by_contra apart
      refine still victim (deletes.rolls_iff.mpr ⟨rolls, fun mem => apart ?_⟩)
      rw [exactly.name_eq culls' culls, List.mem_singleton.mp mem]
    · intro same victim rolls
      obtain ⟨start_rolls, apart⟩ := deletes.rolls_iff.mp rolls
      exact apart (by simp [same culled victim culls start_rolls])
  · have free := not_exists.mp culling
    have count : middle.deletions = start.deletions := (exactly.spared free).deletions
    have few := rolled.length_le
    rw [count] at few
    exact ⟨fun _ culled _ culls => absurd culls (free culled), fun _ => few⟩

/-- At most one pod goes exactly when Phase 8 or 9 has none to delete, or both have the same. -/
theorem gatesThenRollout_deletesOne_iff (w : World) (gates : ReadinessInput) (quorumOK : Bool)
    (listed : List Pod) (sts : Option StatefulSet) (rollout : PodRolloutInput) :
    (((reconcileReadinessGates gates).andThen
        (reconcilePodRollout quorumOK listed sts rollout)).run w).final.deletions.length ≤
      w.deletions.length + 1 ↔
    ∀ culled rolled, (w.drift gates.before).Culls gates culled →
      (w.drift gates.before).Rolls quorumOK listed sts rollout rolled →
        culled.name = rolled.name := by
  have unchanged : w.deletions = (w.drift gates.before).deletions := rfl
  obtain ⟨fails, exactly⟩ := (reconcileReadinessGates_deletes gates w).2
  have rolled := (reconcilePodRollout_deletes quorumOK listed sts rollout
    ((reconcileReadinessGates gates).run w).final).2
  simp only [Proc.andThen, final_bind, run_ite]
  cases ok : ((reconcileReadinessGates gates).run w).value with
  | false =>
      have free := fails ok
      have still : ((reconcileReadinessGates gates).run w).final.deletions = w.deletions :=
        (exactly.spared free).deletions
      simp only [Bool.false_eq_true, ↓reduceIte, final_pure, still]
      exact ⟨fun _ culled _ culls => absurd culls (free culled), fun _ => by omega⟩
  | true =>
      simp only [↓reduceIte]
      rw [unchanged]
      exact exactly.deletesOne_iff rolled

/-- A primary and two replicas whose conditions say that they keep up. -/
def laggingWorld : World :=
  let cr : CR := { name := "vk", spec := { mode := .replication, replicas := 3 } }
  let pod (ordinal : Nat) (role : Role) : Pod :=
    { name := s!"vk-{ordinal}", podIP := s!"10.0.0.{ordinal}", role, revision := "a"
      readinessGates := [.replicationReady]
      conditions := [{ type := .ready, status := .true },
        { type := .replicationReady, status := .true }] }
  { now := 0, cr, v := cr
    sts := some { replicas := some 3, updateRevision := "a", currentRevision := "a" }
    pods := ⟨[pod 0 .primary, pod 1 .replica, pod 2 .replica], by decide, by decide⟩ }

/-- A pass in which ordinal one has lost its link. -/
def laggingPass (patchReply : Reply) : PassInput :=
  { readiness :=
      { checkLag := fun ip => .ok { linkUp := ip ≠ "10.0.0.1" }
        patchReply := fun _ => patchReply } }

def revisionMoves : Drift :=
  { elapsed := 90 * second, stsStatus := some ("b", "a", 3) }

/-- With the condition unwritten, ordinal one goes for its gate and ordinal two for its revision. -/
theorem operator_deletesTwo :
    let before := operator.run [.call (laggingPass .failed), .drift revisionMoves] laggingWorld
    before.deletions = [] ∧
      (operator.run [.call (laggingPass .failed)] before).deletions = ["vk-2", "vk-1"] := by
  decide

/-- With the condition written, Phase 9 waits. -/
example :
    (operator.run [.call (laggingPass .ok), .drift revisionMoves, .call (laggingPass .ok)]
      laggingWorld).deletions = ["vk-1"] := by
  decide

end Velkir
