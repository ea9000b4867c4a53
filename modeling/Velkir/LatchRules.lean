import Velkir.Reconcile

/-!
# Invariants of the failover latch

The latch is dropped, rebuilt by Phase 7 and set by the dispatch. What survives these three holds
along every pass.
-/

namespace Velkir

open Crash Proc History

/-- All but the identity, the latch, its marker and the remembered state. -/
def quietParts : List Part :=
  [.pods, .sts, .pvcs, .stored, .watchdog, .resize]

/-- The lines that neither start nor maintain a failover, nor ask about one. -/
def quietKinds : List Kind := Kind.but [.memoryLost, .consulted, .maintained, .persisted,
  .stripped, .failoverIssued, .rolledBack, .stamped]

/-- The last observation named this primary. An empty address names none. -/
def Seen (addr : String) (epoch : Int) (history : List Entry) : Prop :=
  addr = "" ∨ ∃ lines rest, history = lines ++ .observed addr epoch :: rest ∧
    ∀ line ∈ lines, line.kind ∈ [Kind.maintained, .relabelling, .event]

theorem seen_observe (obs : Obs) (w : World) :
    Seen obs.snap.addr obs.snap.epoch (w.observe obs).journal :=
  .inr ⟨[], _, rfl, by simp⟩

variable {addr : String} {epoch : Int} {history : List Entry}

theorem Seen.cons {line : Entry} (seen : Seen addr epoch history)
    (kind : line.kind ∈ [Kind.maintained, .relabelling, .event]) :
    Seen addr epoch (line :: history) := by
  rcases seen with unnamed | ⟨lines, rest, rfl, kinds⟩
  · exact .inl unnamed
  · exact .inr ⟨line :: lines, rest, rfl, List.forall_mem_cons.mpr ⟨kind, kinds⟩⟩

/-- A window closed by supersession is not superseded by the last one. -/
theorem Seen.unsuperseded {latch : Latch} {keeps starts : Entry → Prop}
    (seen : Seen addr epoch history) (window : Since keeps starts history)
    (kept : ∀ line, keeps line → line.supersedes latch = false)
    (quiet : ∀ line, starts line → line.kind ∉ [Kind.observed, .maintained, .relabelling, .event]) :
    ¬latch.Superseded addr epoch := by
  rcases seen with rfl | ⟨lines, rest, rfl, kinds⟩
  · exact fun superseded => superseded.1 rfl
  · have later : ∀ line ∈ lines, ¬starts line := fun line mem start =>
      quiet line start (List.mem_cons_of_mem _ (kinds line mem))
    rcases since_cons.mp (window.of_append later) with start | ⟨unmoved, -⟩
    · exact absurd (by simp [Entry.kind]) (quiet _ start)
    · simpa [Entry.supersedes] using kept _ unmoved

section Steps

variable {inv : World → Prop}

/-- The invariant may lose a latch that is over. -/
def DropsLatch (inv : World → Prop) : Prop :=
  ∀ w addr epoch, Seen addr epoch w.journal → w.latchActive addr epoch = false → inv w →
    inv (w.setLatch none)

variable {w : World}

theorem failoverLatchActive_keeps (drop : DropsLatch inv) (seen : Seen addr epoch w.journal)
    (start : inv w) :
    (failoverLatchActive addr epoch).wp inv (fun holds final => inv final ∧
      (final.mem.failoverLatch = none ↔ holds = false) ∧ final.v = w.v) w := by
  refine failoverLatchActive_wp (fun active => ⟨start, ?_, rfl⟩) fun ended => ?_
  · simp only [Bool.true_eq_false, iff_false]
    intro absent
    simp [World.latchActive, absent] at active
  · have dropped := drop w addr epoch seen ended start
    exact ⟨dropped, dropped, by simp [World.setLatch], rfl⟩

/-- Deriving keeps the invariant, and reports a failover only under a latch. -/
theorem deriveState_keeps (quiet : Tolerates quietParts quietKinds (Keeps inv))
    (drop : DropsLatch inv) (pods : List Pod) (sts : Option StatefulSet) (obs : Obs)
    (start : inv w) :
    (deriveState pods sts obs).wp inv (fun derived final => inv final ∧
      (derived.1 = .failoverInFlight → final.mem.failoverLatch ≠ none)) w := by
  have latched : ∀ {addr epoch w}, Seen addr epoch w.journal → inv w →
      ∀ facts : Bool → ObservedFacts, (∀ holds, (facts holds).failoverInFlight = holds) →
      ∀ replicas, (failoverLatchActive addr epoch).wp inv (fun holds final => inv final ∧
        ((deriveFromPods (facts holds) replicas pods sts).1 = .failoverInFlight →
          final.mem.failoverLatch ≠ none)) w := by
    intro addr epoch w seen start facts fact replicas
    refine wp_mono (failoverLatchActive_keeps drop seen start) (fun _ => id) ?_
    rintro holds final ⟨here, absent, -⟩
    refine ⟨here, fun inFlight none => ?_⟩
    rw [← fact holds, deriveFromPods_inFlight inFlight] at absent
    exact Bool.noConfusion (absent.mp none)
  unfold deriveState snapshotForMode
  simp only [wp_bind, wp_read, wp_ite, wp_pure]
  refine ⟨fun _ => latched (.inl rfl) start _ (fun _ => rfl) _, fun _ => ?_⟩
  have observed : inv (w.observe obs) := quiet _ _ (w.observe_frame obs).mono start
  simp only [readSnapshot, wp_bind, wp_write, wp_pure]
  exact ⟨observed, latched (seen_observe obs w) observed _ (fun _ => rfl) _⟩

/-- Observation keeps the invariant if remembering a true state does. -/
theorem observeRolloutState_keeps (quiet : Tolerates quietParts quietKinds (Keeps inv))
    (drop : DropsLatch inv)
    (remember : ∀ w state, (state = .failoverInFlight → w.mem.failoverLatch ≠ none) → inv w →
      inv { w with mem.lastState := some state })
    (pods : List Pod) (sts : Option StatefulSet) (input : ObserveInput) :
    Within (Keeps inv) (observeRolloutState pods sts input) := by
  refine .of_wp fun w start => ?_
  unfold observeRolloutState
  rw [wp_bind]
  refine wp_mono (deriveState_keeps quiet drop pods sts input.derive start) (fun _ => id) ?_
  rintro derived w ⟨start, latched⟩
  -- The dispatches in between leave the latch alone, so the derived state stays true of it.
  have keep : ∀ proc : Proc World Unit, Within (Frame [] [.event]) proc → ∀ w, inv w →
      (derived.1 = .failoverInFlight → w.mem.failoverLatch ≠ none) →
        proc.wp inv (fun _ w => inv w ∧ (derived.1 = .failoverInFlight →
          w.mem.failoverLatch ≠ none)) w := fun proc within w start latched =>
    wp_mono (within w) (fun _ frame => quiet _ _ frame.mono start) fun _ _ frame =>
      ⟨quiet _ _ frame.mono start, fun inFlight => by
        rw [show _ = _ from frame.kept .latch (by decide)]
        exact latched inFlight⟩
  rw [wp_bind]
  refine wp_mono (keep _ (rolloutTriggerDispatch_within _ _ _) w start latched)
    (fun _ => id) ?_
  rintro - w ⟨start, latched⟩
  rw [wp_bind]
  refine wp_mono (keep _ (replicasRolledDispatch_within _ _) w start latched) (fun _ => id) ?_
  rintro - w ⟨start, latched⟩
  rw [wp_bind]
  have plain : Tolerates [] [.event] (Keeps inv) := fun _ _ frame => quiet _ _ frame.mono
  refine wp_mono (fsmAbortAndRecoveryDispatch_wp
      (fun _ _ => plain.within (setSuspendedFrom_within _ _))
      (fun _ _ _ _ => plain.within (applyFSM_within _ _ _)) derived.1 derived.2.quorumOK input w)
    (fun _ step => step (remember w _ latched start)) fun _ w step => ?_
  have start : inv w := step (remember _ _ latched start)
  unfold fsmSwitchMasterDispatch
  simp only [readSnapshot, wp_bind, wp_ite, wp_write, wp_pure]
  have observed : inv (w.observe input.switchMaster) := quiet _ _ (w.observe_frame _).mono start
  exact ⟨fun _ => ⟨observed, wp_mono
    (failoverLatchActive_keeps drop (seen_observe _ w) observed) (fun _ => id)
    fun _ _ result => result.1⟩, fun _ => start⟩

/-- A dispatch keeps the invariant if handing over without a latch does. -/
theorem runPrimaryRolloutDispatch_keeps (quiet : Tolerates quietParts quietKinds (Keeps inv))
    (drop : DropsLatch inv) {state : State} {input : DispatchInput}
    (handOver : ∀ middle name latch, inv middle → middle.v = w.v →
      middle.mem.failoverLatch = none →
        (dispatchFailover name latch input).wp inv (fun _ => inv) middle) (start : inv w) :
    (runPrimaryRolloutDispatch state input).wp inv (fun _ => inv) w := by
  have event : ∀ line w, line.kind ∈ quietKinds → inv w → inv (w.note line) :=
    fun line w kind => quiet _ _ (w.note_frame kind)
  have observed : inv (w.observe input.obs) := quiet _ _ (w.observe_frame _).mono start
  unfold runPrimaryRolloutDispatch
  simp only [readSnapshot, wp_bind, wp_ite, wp_write, wp_pure]
  refine ⟨fun _ => start, fun _ => ⟨observed, ?_⟩⟩
  cases snap : input.obs.snap with
  | none => simpa using observed
  | some primary =>
      have seen : Seen primary.addr primary.epoch (w.observe input.obs).journal := by
        simpa [Snapshot.addr, Snapshot.epoch, snap] using seen_observe input.obs w
      simp only [wp_bind, wp_ite, wp_pure, wp_read, recordEvent, log,
        wp_write]
      have stale := event (.event .failoverSuppressed) _ (by decide) observed
      refine ⟨fun _ => observed, fun _ => ⟨fun _ => ⟨stale, stale⟩, fun _ => ?_⟩⟩
      refine wp_mono (failoverLatchActive_keeps drop seen observed) (fun _ => id) ?_
      rintro holds middle ⟨here, absent, copy⟩
      refine ⟨fun _ => here, fun ended => ⟨fun _ => here, fun _ => ?_⟩⟩
      cases (classifyPrimaryRolloutPods middle.pods.items).1 with
      | none => simpa using here
      | some outgoing =>
          have unsuitable := event (.event .noSuitableReplica) _ (by decide) here
          have drifted : inv (middle.drift input.preflight) :=
            quiet _ _ (middle.drift_frame _).mono here
          simp only [wp_bind, wp_ite, wp_pure, wp_read, meanwhile,
            wp_write]
          exact ⟨fun _ => ⟨unsuitable, unsuitable⟩, fun _ => ⟨drifted, handOver _ _ _ drifted copy
            (absent.mpr (by simpa using ended))⟩⟩

/-- Labels change outside sentinel mode, or without a snapshot or a latch. -/
structure Relabelled (pods : Pods) (obs : Obs) (w : World) (roles : Option Roles) (final : World) :
    Prop where
  copy : final.v = w.v
  time : final.now = w.now + obs.elapsed
  journal : ∃ lines, final.journal =
    lines ++ .relabelling obs.snap pods final.now :: (w.observe obs).journal ∧
      ∀ line ∈ lines, line.kind = .event
  decided : roles = none ∨ final.mem.failoverLatch = none ∨
    obs.snap = none ∧ roles = some (rolesWithoutSnapshot w.v.name pods.items)

/-- The desired roles are found without touching a latch that holds. -/
theorem desiredRolesForCR_keeps (quiet : Tolerates quietParts quietKinds (Keeps inv))
    (drop : DropsLatch inv) (pods : Pods) (obs : Obs) (start : inv w) :
    (desiredRolesForCR pods obs).wp inv (fun roles final => inv final ∧
      (w.v.spec.mode = .sentinel → Relabelled pods obs w roles final) ∧
      (w.v.spec.mode ≠ .sentinel → final = w)) w := by
  have observed : inv (w.observe obs) := quiet _ _ (w.observe_frame _).mono start
  let asked := (w.observe obs).note (.relabelling obs.snap pods (w.observe obs).now)
  have noted : inv asked :=
    quiet _ _ (World.note_frame (by simp [Entry.kind, quietKinds]) _) observed
  have unchanged : ∀ roles, (roles = none ∨ obs.snap = none ∧
      roles = some (rolesWithoutSnapshot w.v.name pods.items)) →
        Relabelled pods obs w roles asked := fun roles decided =>
    ⟨rfl, rfl, ⟨[], rfl, by simp⟩, decided.imp_right .inr⟩
  have seen : Seen obs.snap.addr obs.snap.epoch asked.journal :=
    (seen_observe obs w).cons (by simp [Entry.kind])
  have dropped : Relabelled pods obs w none (asked.setLatch none) :=
    ⟨rfl, rfl, ⟨[], rfl, by simp⟩, .inl rfl⟩
  unfold desiredRolesForCR
  simp only [readSnapshot, logHere, wp_bind, wp_read, wp_ite, wp_write,
    wp_pure]
  refine ⟨fun other => ⟨start, fun same => absurd same other, fun _ => trivial⟩, fun sentinel =>
    ⟨observed, noted, ?_⟩⟩
  have sentinel : w.v.spec.mode = .sentinel := not_not.mp sentinel
  simp only [sentinel, forall_const, ne_eq, not_true_eq_false, IsEmpty.forall_iff, and_true]
  change Proc.wp inv _ _ asked
  clear_value asked
  cases snap : obs.snap with
  | none => exact wp_pure.mpr ⟨noted, unchanged _ (.inr ⟨snap, rfl⟩)⟩
  | some primary =>
      simp only [snap, Snapshot.addr, Snapshot.epoch, Option.map_some, Option.getD_some] at seen
      simp only [wp_bind, wp_ite, wp_pure]
      refine ⟨fun _ => ⟨noted, unchanged _ (.inl rfl)⟩, fun _ => ?_⟩
      refine failoverLatchActive_wp (fun _ => ⟨fun _ => ⟨noted, unchanged _ (.inl rfl)⟩, by simp⟩)
        fun ended => ?_
      have gone := drop asked _ _ seen ended noted
      refine ⟨gone, by simp, fun _ => ?_⟩
      have quiet_track : Within (Keeps inv) (trackObserved pods.items primary) :=
        quiet.within (trackObserved_within (by decide) : Within (Frame [] [.event]) _)
      refine ⟨(quiet_track.wp gone).1, (quiet_track.wp gone).2, ?_⟩
      obtain ⟨streak, lines, final, events⟩ := (trackObserved_final pods.items primary
        (asked.setLatch none)).2
      obtain ⟨copy, time, ⟨before, journal, kinds⟩, -⟩ := dropped
      rw [final]
      refine ⟨copy, time, ⟨lines ++ before, ?_, ?_⟩, .inr (.inl rfl)⟩
      · simp [journal]
      · intro line mem
        exact (List.mem_append.mp mem).elim (events line) (kinds line)

end Steps

/-- Rules of an invariant: `early` until Phase 7's maintenance, then `late`. -/
structure LatchRules (along early late : World → Prop) (input : PassInput) : Prop where
  early_along : ∀ w, early w → along w
  late_along : ∀ w, late w → along w
  fetch : ∀ w, along w → early w.fetch
  forget : ∀ w, along w → along w.forget
  quiet_along : Tolerates quietParts quietKinds (Keeps along)
  quiet_early : Tolerates quietParts quietKinds (Keeps early)
  quiet_late : Tolerates quietParts quietKinds (Keeps late)
  consult_early : ∀ site obs, Within (Keeps early) (isFailoverInFlight site obs)
  consult_late : ∀ site obs, Within (Keeps late) (isFailoverInFlight site obs)
  drop_early : DropsLatch early
  drop_late : DropsLatch late
  remember : ∀ w state, (state = .failoverInFlight → w.mem.failoverLatch ≠ none) → early w →
    early { w with mem.lastState := some state }
  maintain : ∀ w, early w →
    (maintainFailoverDispatchMarker input.labels.maintain input.labels.clearReply).wp along
      (fun _ => late) w
  write : ∀ pods roles before w, late before → late w →
    (before.v.spec.mode = .sentinel → Relabelled pods input.labels.relabel before roles w) →
    (before.v.spec.mode ≠ .sentinel → w = before) →
      (writeRoles input.labels pods roles).wp late (fun _ => late) w
  handOver : ∀ w name latch, late w → w.v.spec.hasSentinel = true → w.mem.failoverLatch = none →
    (dispatchFailover name latch input.orchestration.dispatch).wp late (fun _ => late) w

theorem PassRules.of_latch {along early late : World → Prop} {input : PassInput}
    (rules : LatchRules along early late input) : PassRules along early late input where
  early_along := rules.early_along
  late_along := rules.late_along
  done_along := rules.late_along
  fetch := rules.fetch
  forget := rules.forget
  plain_along _ _ frame := rules.quiet_along _ _ frame.mono
  plain_early _ _ frame := rules.quiet_early _ _ frame.mono
  plain_late _ _ frame := rules.quiet_late _ _ frame.mono
  consult_early := rules.consult_early
  consult_late := rules.consult_late
  consult_done := rules.consult_late
  observe _ _ := observeRolloutState_keeps rules.quiet_early rules.drop_early rules.remember _ _ _
  gate _ := rules.quiet_early.within (detectPVCLossAndGate_within _ _)
  resize := rules.quiet_early.within (reconcilePVCResize_within _)
  statefulSet _ := rules.quiet_early.within (reconcileStatefulSet_within _ _)
  labels w start := by
    have here := rules.early_along w start
    unfold reconcileRoleLabels
    simp only [wp_bind, wp_ite, wp_pure, wp_read]
    refine ⟨fun _ => ⟨here, by simp⟩, fun _ => ?_⟩
    refine wp_mono (rules.maintain w start) (fun _ => id) fun _ before start => ?_
    refine wp_mono (desiredRolesForCR_keeps rules.quiet_late rules.drop_late w.pods
      input.labels.relabel start) rules.late_along ?_
    rintro roles w ⟨here, relabelled, same⟩
    exact wp_mono (rules.write _ roles before w start here relabelled same) rules.late_along
      fun _ w here => ⟨rules.late_along w here, fun _ => here⟩
  rollout _ _ _ _ start := wp_mono
    ((rules.quiet_late.within (reconcilePodRollout_within _ _ _ _)).wp start) rules.late_along
    fun _ w here => ⟨rules.late_along w here, fun _ => here⟩
  dispatch _ w start sentinel := runPrimaryRolloutDispatch_keeps rules.quiet_late rules.drop_late
    (fun middle name latch here copy => rules.handOver middle name latch here (by rwa [copy])) start
  evaluate _ := rules.quiet_along.within (evaluateRolloutWatchdog_within _)
  update _ := rules.quiet_along.within (updateStatus_within _ _)

end Velkir
