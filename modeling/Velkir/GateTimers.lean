import Velkir.PodDeletions

/-!
# The timers of Phase 8

Phase 8 remembers since when a gate is closed, since when there is no primary, and when the escape
last deleted.
-/

namespace Velkir

open Crash Proc

/-- The pod a line reports as recreated. -/
def Entry.recreates : Entry → Option String
  | .event (.staleReplicaRecreated pod _) => some pod
  | _ => none

/-- The pod a line reports as escaped. -/
def Entry.escapes : Entry → Option String
  | .event (.staleReplicaEscapeDeleted pod _) => some pod
  | _ => none

/-- The replicas deleted because their gate stayed closed, the last one first. -/
def World.recreations (w : World) : List String := w.journal.filterMap Entry.recreates

/-- The replicas deleted by the escape, the last one first. -/
def World.escapes (w : World) : List String := w.journal.filterMap Entry.escapes

/-- Nothing is remembered otherwise and no deletion is reported. -/
structure Idle (before after : World) : Prop where
  mem : after.mem = before.mem
  recreations : after.recreations = before.recreations
  escapes : after.escapes = before.escapes

instance : Std.Refl Idle where
  refl _ := ⟨rfl, rfl, rfl⟩

instance : IsTrans World Idle where
  trans _ _ _ first second := ⟨second.mem.trans first.mem,
    second.recreations.trans first.recreations, second.escapes.trans first.escapes⟩

private theorem World.note_idle {line : Entry} (plain : line.recreates = none ∧ line.escapes = none)
    (w : World) : Idle w (w.note line) :=
  ⟨rfl, by simp [World.recreations, plain.1], by simp [World.escapes, plain.2]⟩

private theorem reportGate_idle (pod : Pod) (result : Evaluation) (reply : Reply) :
    Within Idle (reportGate pod result reply) := by
  have error : Within Idle
      (recordOptional (result.error.map (.replicationGateCheckFailed pod.name))) := by
    cases result.error with
    | none => exact .pure _
    | some error => exact .write (World.note_idle ⟨rfl, rfl⟩)
  have patch : Within Idle
      (patchReplicationCondition pod result.status result.message reply) :=
    .ite (.pure _) (.bind (.read _) fun _ => .ite (.pure _)
      (.bind (.write fun _ => ⟨rfl, rfl, rfl⟩) fun _ => .pure _))
  exact .bind error fun _ => .bind patch fun _ =>
    .ite (.write (World.note_idle ⟨rfl, rfl⟩)) (.pure _)

theorem cullPod_idle (name : String) (reply : Reply) : Within Idle (cullPod name reply) :=
  .ite (.pure _) (.bind (.read _) fun _ =>
    .ite (.bind (.write fun _ => ⟨rfl, rfl, rfl⟩) fun _ => .pure _) (.pure _))

private theorem isFailoverInFlight_idle (site : Site) (obs : Obs) :
    Within Idle (isFailoverInFlight site obs) :=
  .bind (.bind (.write fun _ => ⟨rfl, rfl, rfl⟩) fun _ => .pure _) fun _ => .bind (.read _)
    fun _ => .bind (.write fun _ => ⟨rfl, rfl, rfl⟩) fun _ => .pure _

/-- The gate of the pod is found open. -/
structure GateLoop.Opened (loop : GateLoop) (pod : Pod) : Prop where
  gated : podHasReplicationGate pod = true
  addressed : pod.podIP ≠ ""
  opened : (loop.evaluate pod).status = .true

/-- The gate of the replica is evaluated and found closed. -/
structure GateLoop.Closed (loop : GateLoop) (pod : Pod) : Prop where
  gated : podHasReplicationGate pod = true
  addressed : pod.podIP ≠ ""
  replica : pod.role = .replica
  closed : (loop.evaluate pod).status = .false

variable {loop : GateLoop} {pod : Pod}

private theorem GateLoop.evaluate_status (closed : (loop.evaluate pod).status ≠ .true) :
    (loop.evaluate pod).status = .false := by
  revert closed
  unfold GateLoop.evaluate evaluateReplicationGate
  grind

private theorem GateLoop.Closed.not_opened (closed : loop.Closed pod) :
    ¬loop.Opened pod := fun opened => by
  have both := closed.closed.symm.trans opened.opened
  cases both

variable {mem : Memory} {now : Nat} {uid : String}

private theorem Memory.closedSince_of_overdue
    (overdue : staleReplicaThreshold ≤ now - mem.firstSeen uid now) :
    ∃ time, mem.closedSince uid = some time ∧ time + staleReplicaThreshold ≤ now := by
  have positive : 0 < staleReplicaThreshold := by decide
  unfold Memory.firstSeen at overdue
  cases found : mem.closedSince uid with
  | none =>
      rw [found, Option.getD_none] at overdue
      omega
  | some time =>
      rw [found, Option.getD_some] at overdue
      exact ⟨time, rfl, by omega⟩

/-- What one round of the loop may do. -/
structure Round (loop : GateLoop) (pod : Pod) (before after : World) : Prop where
  memory : after.mem = { before.mem with staleReplicas := after.mem.staleReplicas }
  others : ∀ uid ≠ pod.uid, after.mem.closedSince uid = before.mem.closedSince uid
  own : ∀ time, after.mem.closedSince pod.uid = some time → ¬loop.Opened pod ∧
    (before.mem.closedSince pod.uid = some time ∨ time = loop.now ∧ loop.Closed pod)
  recreated : after.recreations = before.recreations ∨
    after.recreations = pod.name :: before.recreations ∧ loop.Closed pod ∧
      loop.suppress = false ∧ ∃ time, before.mem.closedSince pod.uid = some time ∧
        time + staleReplicaThreshold ≤ loop.now
  escapes : after.escapes = before.escapes

section Round

variable {loop : GateLoop} {pod : Pod} {w before middle after : World}

private theorem World.closedSince_trackStale (uid : String) (now : Nat) (w : World) :
    (w.trackStale uid now).mem.closedSince uid = some (w.mem.firstSeen uid now) := by
  unfold World.trackStale Memory.firstSeen
  cases found : w.mem.closedSince uid with
  | none => simp [Memory.closedSince]
  | some time =>
      simp only [Option.isSome_some, if_true, Option.getD_some]
      exact found

theorem World.closedSince_untrackStale (uid : String) (w : World) :
    (w.untrackStale uid).mem.closedSince uid = none := by
  simp [World.untrackStale, Memory.closedSince, List.find?_eq_none]

theorem World.closedSince_untrackStale_ne {other : String} (apart : other ≠ uid) (w : World) :
    (w.untrackStale uid).mem.closedSince other = w.mem.closedSince other := by
  have step : Step [uid] [] w (w.untrackStale uid) := World.untrackStale_step (by simp) w
  exact step.tracker other (by simpa using apart)

theorem Round.untrack (memory : middle.mem =
      { before.mem with staleReplicas := middle.mem.staleReplicas })
    (others : ∀ uid ≠ pod.uid, middle.mem.closedSince uid = before.mem.closedSince uid)
    (recreated : middle.recreations = before.recreations ∨
      middle.recreations = pod.name :: before.recreations ∧ loop.Closed pod ∧
        loop.suppress = false ∧ ∃ time, before.mem.closedSince pod.uid = some time ∧
          time + staleReplicaThreshold ≤ loop.now)
    (escapes : middle.escapes = before.escapes) :
    Round loop pod before (middle.untrackStale pod.uid) where
  memory := by
    have same : (middle.untrackStale pod.uid).mem = { middle.mem with
      staleReplicas := (middle.untrackStale pod.uid).mem.staleReplicas } := rfl
    rw [same, memory]
  others uid apart := (World.closedSince_untrackStale_ne apart middle).trans (others uid apart)
  own time found := by
    rw [World.closedSince_untrackStale] at found
    cases found
  recreated := recreated
  escapes := escapes

theorem Round.track (closed : loop.Closed pod) :
    Round loop pod w (w.trackStale pod.uid loop.now) where
  memory := rfl
  others uid apart := by
    have step : Step [pod.uid] [] w (w.trackStale pod.uid loop.now) :=
      World.trackStale_step (by simp) loop.now w
    exact step.tracker uid (by simpa using apart)
  own time found := by
    rw [World.closedSince_trackStale, Memory.firstSeen] at found
    refine ⟨closed.not_opened, ?_⟩
    cases known : w.mem.closedSince pod.uid with
    | none =>
        rw [known, Option.getD_none] at found
        exact .inr ⟨(Option.some.inj found).symm, closed⟩
    | some first =>
        rw [known, Option.getD_some] at found
        exact .inl found
  recreated := .inl rfl
  escapes := rfl

/-- A round that leaves the times alone has not found the gate open. -/
theorem Round.of_idle (idle : Idle before after) (unopened : ¬loop.Opened pod) :
    Round loop pod before after where
  memory := by rw [idle.mem]
  others uid _ := by rw [idle.mem]
  own time found := ⟨unopened, .inl (idle.mem ▸ found)⟩
  recreated := .inl idle.recreations
  escapes := idle.escapes

private theorem Round.after_idle (idle : Idle before middle) (round : Round loop pod middle after) :
    Round loop pod before after where
  memory := by rw [round.memory, idle.mem]
  others uid apart := by rw [round.others uid apart, idle.mem]
  own time found := by
    rw [← idle.mem]
    exact round.own time found
  recreated := by
    rw [← idle.mem, ← idle.recreations]
    exact round.recreated
  escapes := round.escapes.trans idle.escapes

private theorem recreateStale_round {staleFor : Nat} (closed : loop.Closed pod)
    (labelled : loop.suppress = false)
    (overdue : staleReplicaThreshold ≤ loop.now - w.mem.firstSeen pod.uid loop.now) :
    (recreateStale loop pod staleFor).wp (fun _ => True) (fun _ after => Round loop pod w after)
      (w.trackStale pod.uid loop.now) := by
  have tracked : Round loop pod w (w.trackStale pod.uid loop.now) := .track closed
  unfold recreateStale
  simp only [wp_bind, wp_ite, wp_pure, wp_write, recordEvent, log, true_and]
  refine wp_mono (cullPod_idle _ _ _) (fun _ _ => trivial) fun _ middle idle => ?_
  have memory : middle.mem = { w.mem with staleReplicas := middle.mem.staleReplicas } := by
    rw [idle.mem, tracked.memory]
  have others : ∀ uid ≠ pod.uid, middle.mem.closedSince uid = w.mem.closedSince uid := by
    intro uid apart
    rw [idle.mem, tracked.others uid apart]
  have recreations : middle.recreations = w.recreations := idle.recreations
  have escapes : middle.escapes = w.escapes := idle.escapes
  refine ⟨fun _ => ?_, fun _ => .untrack memory others (.inr ⟨?_, closed, labelled, ?_⟩) escapes⟩
  · refine ⟨memory, others, fun time found => ?_, .inl recreations, escapes⟩
    rw [idle.mem] at found
    exact tracked.own time found
  · rw [← recreations]
    rfl
  · exact Memory.closedSince_of_overdue overdue

private theorem settleGate_round {deleted : Bool} (gated : podHasReplicationGate pod = true)
    (addressed : pod.podIP ≠ "") :
    (settleGate loop pod (w.mem.firstSeen pod.uid loop.now) deleted).wp (fun _ => True)
      (fun _ after => Round loop pod w after) w := by
  unfold settleGate
  simp only [wp_bind, wp_ite, wp_pure, wp_write, true_and]
  refine ⟨fun _ => .untrack rfl (fun _ _ => rfl) (.inl rfl) rfl, fun unopened => ?_⟩
  have status := GateLoop.evaluate_status unopened
  refine ⟨fun _ => .of_idle (Std.Refl.refl w) fun opened => unopened opened.opened,
    fun replica => ?_⟩
  have closed : loop.Closed pod := ⟨gated, addressed, by simpa using replica, status⟩
  refine ⟨fun _ => .track closed, fun late => ?_⟩
  simp only [not_or, Nat.not_lt, Bool.not_eq_true] at late
  exact recreateStale_round closed late.2.2 late.2.1

private theorem visitGate_round {scan : GateScan} :
    (visitGate loop scan pod).wp (fun _ => True) (fun _ after => Round loop pod w after) w := by
  unfold visitGate
  simp only [wp_bind, wp_read, wp_ite, wp_pure]
  refine ⟨fun skipped => .of_idle (Std.Refl.refl w) fun opened => ?_, fun visited => ?_⟩
  · rcases skipped with gateless | pending
    · simp [opened.gated] at gateless
    · exact opened.addressed pending
  · simp only [not_or, Bool.not_eq_true, Bool.not_eq_false'] at visited
    refine wp_mono (reportGate_idle _ _ _ w) (fun _ _ => trivial) fun _ middle idle => ?_
    rw [← idle.mem]
    refine wp_mono (settleGate_round visited.1 visited.2) (fun _ => id) ?_
    exact fun _ after round => round.after_idle idle

end Round

/-- What the rounds of these pods did to the times, and when they deleted. -/
structure Scanned (loop : GateLoop) (seen : List Pod) (before after : World) : Prop where
  memory : after.mem = { before.mem with staleReplicas := after.mem.staleReplicas }
  tracker : ∀ uid time, after.mem.closedSince uid = some time →
    (∀ pod ∈ seen, pod.uid = uid → ¬loop.Opened pod) ∧
      (before.mem.closedSince uid = some time ∨
        time = loop.now ∧ ∃ pod ∈ seen, pod.uid = uid ∧ loop.Closed pod)
  recreated : ∀ name ∈ after.recreations, name ∈ before.recreations ∨
    ∃ pod ∈ seen, pod.name = name ∧ loop.Closed pod ∧ loop.suppress = false ∧
      ∃ time, before.mem.closedSince pod.uid = some time ∧ time + staleReplicaThreshold ≤ loop.now
  escapes : after.escapes = before.escapes

section Loop

variable {loop : GateLoop} {seen : List Pod} {pod : Pod} {before middle after : World}

private theorem Scanned.refl (w : World) : Scanned loop [] w w :=
  ⟨rfl, fun _ _ found => ⟨by simp, .inl found⟩, fun _ mem => .inl mem, rfl⟩

private theorem Scanned.round (scanned : Scanned loop seen before middle)
    (round : Round loop pod middle after) (fresh : ∀ other ∈ seen, other.uid ≠ pod.uid) :
    Scanned loop (seen ++ [pod]) before after where
  memory := by rw [round.memory, scanned.memory]
  tracker uid time found := by
    have widen : (time = loop.now ∧ ∃ first ∈ seen, first.uid = uid ∧ loop.Closed first) →
        time = loop.now ∧ ∃ first ∈ seen ++ [pod], first.uid = uid ∧ loop.Closed first := by
      rintro ⟨now, first, mem, closed⟩
      exact ⟨now, first, List.mem_append_left _ mem, closed⟩
    rw [List.forall_mem_append, List.forall_mem_singleton]
    by_cases own : pod.uid = uid
    · subst own
      obtain ⟨unopened, early | ⟨now, closed⟩⟩ := round.own time found
      · obtain ⟨unopened', origin⟩ := scanned.tracker pod.uid time early
        exact ⟨⟨unopened', fun _ => unopened⟩, origin.imp_right widen⟩
      · exact ⟨⟨fun other mem same => absurd same (fresh other mem), fun _ => unopened⟩,
          .inr ⟨now, pod, by simp, rfl, closed⟩⟩
    · rw [round.others uid (Ne.symm own)] at found
      obtain ⟨unopened', origin⟩ := scanned.tracker uid time found
      exact ⟨⟨unopened', fun same => absurd same own⟩, origin.imp_right widen⟩
  recreated name mem := by
    have earlier : name ∈ middle.recreations → name ∈ before.recreations ∨
        ∃ first ∈ seen ++ [pod], first.name = name ∧ loop.Closed first ∧
          loop.suppress = false ∧ ∃ time, before.mem.closedSince first.uid = some time ∧
            time + staleReplicaThreshold ≤ loop.now := by
      refine fun mem => (scanned.recreated name mem).imp_right ?_
      rintro ⟨first, mem, rest⟩
      exact ⟨first, List.mem_append_left _ mem, rest⟩
    rcases round.recreated with same | ⟨grown, closed, labelled, time, found, overdue⟩
    · exact earlier (same ▸ mem)
    · rw [grown] at mem
      rcases List.mem_cons.mp mem with rfl | mem
      · refine .inr ⟨pod, by simp, rfl, closed, labelled, time, ?_, overdue⟩
        -- The time is not that of this pass, since it is long past.
        refine (scanned.tracker pod.uid time found).2.resolve_right fun ⟨now, _⟩ => ?_
        have positive : 0 < staleReplicaThreshold := by decide
        omega
      · exact earlier mem
  escapes := round.escapes.trans scanned.escapes

private theorem visitGates_scanned {pods : List Pod} {scan : GateScan}
    (uids : ((seen ++ pods).map Pod.uid).Nodup) (scanned : Scanned loop seen before middle) :
    (pods.foldlM (visitGate loop) scan).wp (fun _ => True)
      (fun _ after => Scanned loop (seen ++ pods) before after) middle := by
  induction pods generalizing seen scan middle with
  | nil =>
      rw [List.foldlM_nil, wp_pure, List.append_nil]
      exact scanned
  | cons pod pods ih =>
      have fresh : ∀ other ∈ seen, other.uid ≠ pod.uid := by
        intro other mem same
        rw [List.map_append, List.map_cons, List.nodup_append] at uids
        exact uids.2.2 other.uid (List.mem_map_of_mem mem) pod.uid (by simp) same
      rw [List.foldlM_cons, wp_bind]
      refine wp_mono visitGate_round (fun _ => id) fun scan' next round => ?_
      rw [List.append_cons] at uids ⊢
      exact ih uids (scanned.round round fresh)

end Loop

/-- What the escape did to the times, and what it found in them if it deleted. -/
structure Escape (loop : GateLoop) (before after : World) : Prop where
  since : after.mem.noPrimarySince = before.mem.noPrimarySince
  tracker : ∀ uid time, after.mem.closedSince uid = some time →
    before.mem.closedSince uid = some time
  recreations : after.recreations = before.recreations
  fired : (after.escapes = before.escapes ∧ after.mem.staleReplicaEscapeLastFired =
      before.mem.staleReplicaEscapeLastFired) ∨
    (∃ name, after.escapes = name :: before.escapes) ∧
      after.mem.staleReplicaEscapeLastFired = some loop.now ∧
      before.mem.noPrimaryDwelt loop.now = true ∧
      before.mem.staleReplicaEscapeAllowed loop.now = true

theorem Escape.of_idle {before after : World} (idle : Idle before after) :
    Escape loop before after :=
  ⟨by rw [idle.mem], fun _ _ found => idle.mem ▸ found, idle.recreations,
    .inl ⟨idle.escapes, by rw [idle.mem]⟩⟩

/-- The escape deletes a replica, stamps the time and forgets the replica's. -/
theorem Escape.fire {target : Pod} {dwell : Nat} {before culled : World} (idle : Idle before culled)
    (dwelt : before.mem.noPrimaryDwelt loop.now = true)
    (allowed : before.mem.staleReplicaEscapeAllowed loop.now = true) :
    Escape loop before (((culled.recordStaleReplicaEscape loop.now).untrackStale target.uid).note
      (.event (.staleReplicaEscapeDeleted target.name dwell))) where
  since := by
    have same : culled.mem.noPrimarySince = before.mem.noPrimarySince := by rw [idle.mem]
    exact same
  tracker uid time found := by
    rw [World.note_mem] at found
    by_cases own : uid = target.uid
    · rw [own, World.closedSince_untrackStale] at found
      cases found
    · rw [World.closedSince_untrackStale_ne own] at found
      rw [← idle.mem]
      exact found
  recreations := idle.recreations
  fired := .inr ⟨⟨target.name, congrArg (target.name :: ·) idle.escapes⟩, rfl, dwelt, allowed⟩

private theorem maybeEscapeStaleReplica_escape (loop : GateLoop) (readings : EscapeReadings)
    (w : World) : (maybeEscapeStaleReplica loop readings).wp (fun _ => True)
      (fun _ after => Escape loop w after) w := by
  have still : Escape loop w w := .of_idle (Std.Refl.refl w)
  unfold maybeEscapeStaleReplica
  simp only [wp_bind, wp_read, wp_ite, wp_pure]
  refine ⟨fun _ => still, fun dwelt => ⟨fun _ => still, fun _ => ⟨fun _ => still,
    fun allowed => ?_⟩⟩⟩
  simp only [Bool.not_eq_true', Bool.not_eq_false] at dwelt allowed
  refine wp_mono (isFailoverInFlight_idle _ _ w) (fun _ _ => trivial) fun _ asked idle => ?_
  refine ⟨fun _ => .of_idle idle, fun _ => ⟨fun _ => .of_idle idle, fun _ => ?_⟩⟩
  cases readings.victim loop.input.endpoints with
  | none =>
      rw [wp_pure]
      exact .of_idle idle
  | some target =>
      simp only [wp_bind, wp_ite, wp_pure, wp_write, recordEvent, log, true_and]
      refine wp_mono (cullPod_idle _ _ asked) (fun _ _ => trivial) fun _ culled later => ?_
      have idle : Idle w culled := Trans.trans idle later
      exact ⟨fun _ => .of_idle idle, fun _ => .fire idle dwelt allowed⟩

/-- The pass gets to see the pods. -/
def World.Lists (w : World) (input : ReadinessInput) : Prop :=
  replicationGateEnabled w.v.spec = true ∧ input.listFails = false

/-- The pass finds the gate of this pod open. -/
def World.Opens (w : World) (input : ReadinessInput) (uid : String) : Prop :=
  w.Lists input ∧ ∃ pod ∈ w.pods.items, pod.uid = uid ∧ (w.gateLoop input).Opened pod

/-- The pass finds the gate of this replica closed. -/
def World.Closes (w : World) (input : ReadinessInput) (uid : String) : Prop :=
  w.Lists input ∧ ∃ pod ∈ w.pods.items, pod.uid = uid ∧ (w.gateLoop input).Closed pod

/-- The pass lists a primary. -/
def World.SeesPrimary (w : World) (input : ReadinessInput) : Prop :=
  w.Lists input ∧ ∃ pod ∈ w.pods.items, pod.role = .primary

/-- What a pass did to the times, and what it found in them when it deleted. -/
structure Timed (input : ReadinessInput) (before after : World) : Prop where
  tracker : ∀ uid time, after.mem.closedSince uid = some time → ¬before.Opens input uid ∧
    (before.mem.closedSince uid = some time ∨ time = before.now ∧ before.Closes input uid)
  recreated : ∀ name ∈ after.recreations, name ∈ before.recreations ∨
    ∃ pod ∈ before.pods.items, pod.name = name ∧ before.Closes input pod.uid ∧
      before.SeesPrimary input ∧ ∃ time, before.mem.closedSince pod.uid = some time ∧
        time + staleReplicaThreshold ≤ before.now
  since : ∀ time, after.mem.noPrimarySince = some time → ¬before.SeesPrimary input ∧
    (before.mem.noPrimarySince = some time ∨ time = before.now)
  fired : (after.escapes = before.escapes ∧ after.mem.staleReplicaEscapeLastFired =
      before.mem.staleReplicaEscapeLastFired) ∨
    (∃ name, after.escapes = name :: before.escapes) ∧
      after.mem.staleReplicaEscapeLastFired = some before.now ∧
      ¬before.SeesPrimary input ∧
      (∃ time, before.mem.noPrimarySince = some time ∧
        time + staleReplicaEscapeDwell ≤ before.now) ∧
      ∀ time, before.mem.staleReplicaEscapeLastFired = some time →
        time + staleReplicaEscapeCooldown ≤ before.now

section Pass

variable {input : ReadinessInput} {start w after : World}

private theorem Timed.skip (unlisted : ¬start.Lists input) : Timed input start start where
  tracker _ _ found := ⟨fun opens => unlisted opens.1, .inl found⟩
  recreated _ mem := .inl mem
  since _ found := ⟨fun sees => unlisted sees.1, .inl found⟩
  fired := .inl ⟨rfl, rfl⟩

private theorem not_seesPrimary_of_suppress
    (suppress : suppressStaleDelete start.pods.items = true) : ¬start.SeesPrimary input := by
  rintro ⟨-, pod, mem, primary⟩
  exact unlabelled_of_suppress suppress pod mem primary

private theorem Memory.noPrimarySince_of_dwelt {known : Option Nat}
    (seeded : mem.noPrimarySince = some (known.getD now)) (dwelt : mem.noPrimaryDwelt now = true) :
    ∃ time, known = some time ∧ time + staleReplicaEscapeDwell ≤ now := by
  have positive : 0 < staleReplicaEscapeDwell := by decide
  simp only [Memory.noPrimaryDwelt, seeded, Option.any_some, decide_eq_true_eq] at dwelt
  cases known with
  | none =>
      rw [Option.getD_none] at dwelt
      omega
  | some time =>
      rw [Option.getD_some] at dwelt
      exact ⟨time, rfl, by omega⟩

private theorem Memory.cooled_of_allowed {time : Nat}
    (allowed : mem.staleReplicaEscapeAllowed now = true)
    (last : mem.staleReplicaEscapeLastFired = some time) :
    time + staleReplicaEscapeCooldown ≤ now := by
  have positive : 0 < staleReplicaEscapeCooldown := by decide
  simp only [Memory.staleReplicaEscapeAllowed, last, Option.all_some, decide_eq_true_eq] at allowed
  omega

/-- A pass is its loop and, without a labelled primary, the escape. -/
theorem Timed.of_loop {middle : World} (lists : start.Lists input)
    (scanned : Scanned (start.gateLoop input) start.pods.items
      (start.observeNoPrimary (suppressStaleDelete start.pods.items)) middle)
    (escape : Escape (start.gateLoop input) middle after)
    (suppressed : suppressStaleDelete start.pods.items = false → after = middle) :
    Timed input start after where
  tracker uid time found := by
    obtain ⟨unopened, origin⟩ := scanned.tracker uid time (escape.tracker uid time found)
    refine ⟨fun ⟨_, pod, mem, same, opened⟩ => unopened pod mem same opened,
      origin.imp_right fun ⟨now, closed⟩ => ⟨now, lists, closed⟩⟩
  recreated name mem := by
    rw [escape.recreations] at mem
    refine (scanned.recreated name mem).imp_right ?_
    rintro ⟨pod, listed, same, closed, labelled, overdue⟩
    exact ⟨pod, listed, same, ⟨lists, pod, listed, rfl, closed⟩,
      ⟨lists, labelled_of_not_suppress listed labelled⟩, overdue⟩
  since time found := by
    have seeded : (if suppressStaleDelete start.pods.items then
        some (start.mem.noPrimarySince.getD start.now) else none) = some time := by
      rw [escape.since, scanned.memory] at found
      exact found
    split at seeded
    next suppress =>
      refine ⟨not_seesPrimary_of_suppress suppress, ?_⟩
      cases known : start.mem.noPrimarySince with
      | none =>
          rw [known, Option.getD_none] at seeded
          exact .inr (Option.some.inj seeded).symm
      | some since =>
          rw [known, Option.getD_some] at seeded
          exact .inl seeded
    next => cases seeded
  fired := by
    have escapes : middle.escapes = start.escapes := scanned.escapes
    have last : middle.mem.staleReplicaEscapeLastFired =
        start.mem.staleReplicaEscapeLastFired := by
      rw [scanned.memory]
      rfl
    cases suppress : suppressStaleDelete start.pods.items with
    | false =>
        rw [suppressed suppress]
        exact .inl ⟨escapes, last⟩
    | true =>
        have seeded : middle.mem.noPrimarySince =
            some (start.mem.noPrimarySince.getD start.now) := by
          rw [scanned.memory, suppress]
          rfl
        rw [← escapes, ← last]
        refine escape.fired.imp_right ?_
        rintro ⟨name, stamped, dwelt, allowed⟩
        exact ⟨name, stamped, not_seesPrimary_of_suppress suppress,
          Memory.noPrimarySince_of_dwelt seeded dwelt,
          fun time last => Memory.cooled_of_allowed allowed last⟩

end Pass

theorem reconcileReadinessGates_timed (input : ReadinessInput) (w : World) :
    (reconcileReadinessGates input).wp (fun _ => True)
      (fun _ after => Timed input (w.drift input.before) after) w := by
  unfold reconcileReadinessGates meanwhile
  simp only [wp_bind, wp_read, wp_ite, wp_pure, wp_write, true_and]
  generalize w.drift input.before = start
  refine ⟨fun off => .skip fun lists => by simp [lists.1] at off, fun on =>
    ⟨fun fails => .skip fun lists => by simp [lists.2] at fails, fun listed => ?_⟩⟩
  have lists : start.Lists input := ⟨by simpa using on, by simpa using listed⟩
  have uids : ((([] : List Pod) ++ start.pods.items).map Pod.uid).Nodup := start.pods.uids
  refine wp_mono (visitGates_scanned uids (Scanned.refl _)) (fun _ => id)
    fun scan middle scanned => ?_
  rw [List.nil_append] at scanned
  refine ⟨fun escapes => ?_, fun _ => .of_loop lists scanned (.of_idle (Std.Refl.refl middle))
    fun _ => rfl⟩
  refine wp_mono (maybeEscapeStaleReplica_escape _ _ middle) (fun _ => id)
    fun _ after escape => .of_loop lists scanned escape fun calm => ?_
  have suppress : suppressStaleDelete start.pods.items = true := escapes.1
  simp [suppress] at calm

end Velkir
