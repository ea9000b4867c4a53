import Velkir.PodDeletions
import Velkir.RecoveryPromotion
import Velkir.Selection

/-!
# The replica that the escape deletes

The escape and the recovery promotion choose from one survey by opposite orders, so one never takes
the other's choice.
-/

namespace Velkir

open Crash Proc Promotion Selection

private theorem fresher_cotrans (first second third : SurveyedPod)
    (ahead : fresher first second = true) :
    fresher first third = true ∨ fresher third second = true := by
  simp only [fresher, decide_eq_true_eq] at ahead ⊢
  rcases lt_trichotomy first.offset third.offset with less | equal | more
  · refine .inr (.inl ?_)
    rcases ahead with more' | ⟨equal', -⟩ <;> omega
  · rcases ahead with more' | ⟨equal', lower⟩
    · exact .inr (.inl (by omega))
    · have names : first.name < third.name ∨ third.name < second.name := by grind
      refine names.imp (fun lower => .inr ⟨equal, lower⟩) fun lower => .inr ⟨?_, lower⟩
      omega
  · exact .inl (.inl more)

/-- The replica says where it is in the stream. -/
def readable (pod : SurveyedPod) : Bool := pod.state.slaveReplOffset.isSome

theorem bestIndex_eq_scan (allowed : SurveyedPod × Nat → Bool)
    (beats : SurveyedPod → SurveyedPod → Bool) (replicas : List SurveyedPod) :
    bestIndex allowed beats replicas =
      (scan allowed (fun next held => beats next.1 held.1) replicas.zipIdx).map Prod.snd := by
  have step : keepBest allowed beats = keep allowed fun next held => beats next.1 held.1 := by
    funext best next
    cases best <;> rfl
  rw [bestIndex_eq, step, scan]

section Candidate

variable {replicas before after : List SurveyedPod} {held : SurveyedPod} {best : Nat}

theorem choosePromotionCandidate_eq_scan (replicas : List SurveyedPod) :
    choosePromotionCandidate replicas =
      (scan (fun next => readable next.1) (fun next held => fresher next.1 held.1)
        replicas.zipIdx).map Prod.snd :=
  bestIndex_eq_scan _ fresher replicas

theorem choosePromotionCandidate_eq_some (chosen : choosePromotionCandidate replicas = some best) :
    ∃ before held after, replicas = before ++ held :: after ∧ before.length = best ∧
      First readable fresher before held after := by
  rw [choosePromotionCandidate_eq_scan, Option.map_eq_some_iff] at chosen
  obtain ⟨⟨held, index⟩, scanned, rfl⟩ := chosen
  obtain ⟨earlier, later, split, first⟩ := first_of_scan
    (fun a b c => fresher_trans a.1 b.1 c.1) (fun a b c => fresher_cotrans a.1 b.1 c.1) scanned
  obtain ⟨before, rest, rfl, rfl, tail⟩ := List.zipIdx_eq_append_iff.mp split
  obtain ⟨_, after, rfl, same, rfl⟩ := List.zipIdx_eq_cons_iff.mp tail.symm
  cases same
  refine ⟨before, held, after, rfl, (Nat.zero_add _).symm, ?_⟩
  have mapped := first_map.mpr first
  rwa [List.zipIdx_map_fst, List.zipIdx_map_fst] at mapped

private theorem choosePromotionCandidate_of_first
    (first : First readable fresher before held after) :
    choosePromotionCandidate (before ++ held :: after) = some before.length := by
  have indexed : First (fun next : SurveyedPod × Nat => readable next.1)
      (fun next held => fresher next.1 held.1) before.zipIdx (held, 0 + before.length)
      (after.zipIdx (0 + before.length + 1)) := by
    refine first_map.mp ?_
    rwa [List.zipIdx_map_fst, List.zipIdx_map_fst]
  rw [choosePromotionCandidate_eq_scan, List.zipIdx_append, List.zipIdx_cons, indexed.scan]
  simp

private theorem choosePromotionCandidate_eraseIdx {victim : Nat}
    (chosen : choosePromotionCandidate replicas = some best) (other : victim ≠ best) :
    ∃ best', choosePromotionCandidate (replicas.eraseIdx victim) = some best' ∧
      (replicas.eraseIdx victim)[best']? = replicas[best]? := by
  obtain ⟨before, held, after, rfl, rfl, first⟩ := choosePromotionCandidate_eq_some chosen
  rcases Nat.lt_or_gt_of_ne other with early | late
  · refine ⟨(before.eraseIdx victim).length, ?_, ?_⟩
    · rw [List.eraseIdx_append_of_lt_length early]
      exact choosePromotionCandidate_of_first
        (first.mono (List.eraseIdx_subset) (List.Subset.refl _))
    · rw [List.eraseIdx_append_of_lt_length early]
      simp
  · obtain ⟨gap, rfl⟩ := Nat.exists_eq_add_of_lt late
    have erased : (before ++ held :: after).eraseIdx (before.length + gap + 1) =
        before ++ held :: after.eraseIdx gap := by
      rw [List.eraseIdx_append_of_length_le (by omega),
        show before.length + gap + 1 - before.length = gap + 1 by omega, List.eraseIdx_cons_succ]
    refine ⟨before.length, ?_, ?_⟩
    · rw [erased]
      exact choosePromotionCandidate_of_first
        (first.mono (List.Subset.refl _) (List.eraseIdx_subset))
    · rw [erased]
      simp

end Candidate

private theorem chooseEscapeVictim_eq_some {replicas : List SurveyedPod} {eligible : List Bool}
    {protectedIdx victim : Nat}
    (chosen : chooseEscapeVictim replicas eligible protectedIdx = some victim) :
    ∃ target, replicas[victim]? = some target ∧ eligible[victim]? = some true ∧
      victim ≠ protectedIdx ∧ readable target = true := by
  rw [chooseEscapeVictim, bestIndex_eq_scan, Option.map_eq_some_iff] at chosen
  obtain ⟨⟨target, index⟩, scanned, rfl⟩ := chosen
  obtain ⟨mem, admitted⟩ := scan_mem scanned
  exact ⟨target, List.mem_zipIdx_iff_getElem?.mp mem, of_decide_eq_true admitted⟩

/-- Of the surveyed replicas the victim is none that matters to a recovery. -/
structure Spared (readings : EscapeReadings) (victim best : Nat) (target candidate : SurveyedPod) :
    Prop where
  chosen : choosePromotionCandidate readings.survey.replicas = some best
  at_best : readings.survey.replicas[best]? = some candidate
  at_victim : readings.survey.replicas[victim]? = some target
  other : victim ≠ best
  known : readable target = true ∧ readable candidate = true
  behind : target.offset ≤ candidate.offset
  /-- The same replica is chosen when the victim is gone. -/
  unmoved : ∃ best', choosePromotionCandidate (readings.survey.replicas.eraseIdx victim) =
    some best' ∧ (readings.survey.replicas.eraseIdx victim)[best']? = some candidate
  remains : 1 ≤ (readings.survey.replicas.eraseIdx victim).length
  masterless : readings.masters = []
  reached : readings.dialFailures = 0 ∧ readings.pendingPods = 0

private theorem promotionSurveyAdmits_reached {survey : ValkeyPodSurvey} {endpoints : Nat}
    (admits : promotionSurveyAdmits survey endpoints = true) :
    survey.masters = [] ∧ survey.dialFailures = 0 ∧ survey.pendingPods = 0 := by
  unfold promotionSurveyAdmits at admits
  split at admits
  · cases admits
  next dialed =>
    split at admits
    · cases admits
    next peopled =>
      simp only [not_or, Nat.not_lt, Nat.le_zero, not_not] at dialed peopled
      exact ⟨List.length_eq_zero_iff.mp peopled.1, dialed.2⟩

variable {readings : EscapeReadings} {pod : Pod}

theorem spared_of_victim {endpoints : Option Nat} (found : readings.victim endpoints = some pod) :
    ∃ victim best, ∃ target candidate : SurveyedPod, target.name = pod.name ∧
      Spared readings victim best target candidate := by
  simp only [EscapeReadings.victim, Option.bind_eq_bind, Option.bind_eq_some_iff] at found
  obtain ⟨count, -, found⟩ := found
  split at found
  · cases found
  next admitted =>
    simp only [not_or, Bool.not_eq_true, Bool.not_eq_false', Nat.not_lt] at admitted
    obtain ⟨admits, enough⟩ := admitted
    obtain ⟨masterless, reached⟩ := promotionSurveyAdmits_reached admits
    simp only [Option.bind_eq_some_iff] at found
    obtain ⟨best, chosen, victim, picked, taken⟩ := found
    obtain ⟨target, at_victim, -, other, known⟩ := chooseEscapeVictim_eq_some picked
    obtain ⟨before, candidate, after, split, length, first⟩ :=
      choosePromotionCandidate_eq_some chosen
    have at_best : readings.survey.replicas[best]? = some candidate := by
      rw [split, ← length]
      simp
    obtain ⟨best', chosen', same⟩ := choosePromotionCandidate_eraseIdx chosen other
    have freshest := (choosePromotionCandidate_spec chosen at_best).2.2 target
      (List.mem_of_getElem? at_victim) known
    have behind : target.offset ≤ candidate.offset := by
      simp only [fresher, decide_eq_false_iff_not, not_or, Int.not_lt] at freshest
      exact freshest.1
    have inside : victim < readings.survey.replicas.length :=
      (List.getElem?_eq_some_iff.mp at_victim).1
    refine ⟨victim, best, target, candidate, ?_, chosen, at_best, at_victim, other,
      ⟨known, first.admitted⟩, behind, ⟨best', chosen', same.trans at_best⟩, ?_, masterless,
      reached⟩
    · obtain ⟨obs, at_obs, rfl⟩ := Option.map_eq_some_iff.mp taken
      simp only [EscapeReadings.survey, List.getElem?_map, at_obs, Option.map_some] at at_victim
      rw [← Option.some.inj at_victim]
    · rw [List.length_eraseIdx_of_lt inside]
      omega

/-- No pod is pending, fails to answer or calls itself master. -/
structure EscapeReadings.Quiet (readings : EscapeReadings) : Prop where
  masterless : readings.masters = []
  reached : readings.dialFailures = 0
  settled : readings.pendingPods = 0

/-- The reading is the answer of a pod that does not call itself master. -/
structure ReplicaGateObs.Answered (input : ReadinessInput) (obs : ReplicaGateObs) : Prop where
  addressed : obs.pod.podIP ≠ ""
  answer : input.checkLag obs.pod.podIP = .ok obs.state
  replica : obs.state.isMaster = false

private theorem appendEscapeReading_quiet {state : LagState} {failed eligible : Bool}
    (quiet : (appendEscapeReading pod state failed eligible readings).Quiet) :
    failed = false ∧ state.isMaster = false ∧ readings.Quiet ∧
      (appendEscapeReading pod state failed eligible readings).obs =
        readings.obs ++ [⟨pod, state, eligible⟩] := by
  cases failed with
  | true =>
      have reached := quiet.reached
      simp [appendEscapeReading] at reached
  | false =>
      cases master : state.isMaster with
      | true =>
          have masterless := quiet.masterless
          simp [appendEscapeReading, master] at masterless
      | false =>
          simp only [appendEscapeReading, master, Bool.false_eq_true, if_false] at quiet ⊢
          exact ⟨trivial, trivial, ⟨quiet.masterless, quiet.reached, quiet.settled⟩, trivial⟩

private theorem EscapeReadings.locate_quiet (quiet : (readings.locate pod).Quiet) :
    pod.podIP ≠ "" ∧ readings.Quiet := by
  unfold locate at quiet
  split at quiet
  · have settled := quiet.settled
    simp at settled
  next addressed => exact ⟨addressed, quiet.masterless, quiet.reached, quiet.settled⟩

/-- A gate evaluated without an error rests on the pod's own answer. -/
theorem GateLoop.evaluate_state {loop : GateLoop} (unlabelled : pod.role ≠ .primary)
    (fine : (loop.evaluate pod).error.isSome = false) :
    loop.input.checkLag pod.podIP = .ok (loop.evaluate pod).state := by
  simp only [GateLoop.evaluate, evaluateReplicationGate, unlabelled, if_false] at fine ⊢
  cases answer : loop.input.checkLag pod.podIP with
  | error error => simp [answer] at fine
  | ok state =>
      simp only
      split
      · rfl
      · split
        · rfl
        · split <;> rfl

section Survey

variable {loop : GateLoop} (suppress : loop.suppress = true) (armed : loop.escapeArmed = true)

include suppress armed

private theorem EscapeReadings.visit_quiet {firstSeen : Nat} (unlabelled : pod.role ≠ .primary)
    (quiet : (readings.visit loop firstSeen pod).Quiet) :
    readings.Quiet ∧ ∃ obs : ReplicaGateObs, obs.pod = pod ∧ obs.Answered loop.input ∧
      (readings.visit loop firstSeen pod).obs = readings.obs ++ [obs] := by
  have kept := locate_obs pod readings
  unfold visit at quiet ⊢
  simp only [suppress, Bool.not_true, Bool.false_eq_true, if_false, armed, if_true] at quiet ⊢
  split
  next gateless =>
    rw [if_pos gateless] at quiet
    unfold classifyGatelessEscapePod at quiet ⊢
    split
    next pending =>
      rw [if_pos pending] at quiet
      exact absurd pending (locate_quiet quiet).1
    next addressed =>
      rw [if_neg addressed] at quiet
      cases answer : loop.input.checkLag pod.podIP with
      | error error =>
          simp only [answer] at quiet
          exact absurd (appendEscapeReading_quiet quiet).1 (by simp)
      | ok state =>
          simp only [answer] at quiet ⊢
          obtain ⟨-, replica, before, obs⟩ := appendEscapeReading_quiet quiet
          exact ⟨(locate_quiet before).2, _, rfl, ⟨addressed, answer, replica⟩, kept ▸ obs⟩
  next gated =>
    rw [if_neg gated] at quiet
    split
    next pending =>
      rw [if_pos pending] at quiet
      exact absurd pending (locate_quiet quiet).1
    next addressed =>
      rw [if_neg addressed] at quiet
      obtain ⟨fine, replica, before, obs⟩ := appendEscapeReading_quiet quiet
      exact ⟨(locate_quiet before).2, _, rfl,
        ⟨addressed, GateLoop.evaluate_state unlabelled fine, replica⟩, kept ▸ obs⟩

/-- A quiet survey holds one answer of every listed pod, in list order. -/
theorem GateLoop.readings_quiet {mem : Memory} {pods : List Pod} {held : EscapeReadings}
    (unlabelled : ∀ pod ∈ pods, pod.role ≠ .primary)
    (quiet : (loop.readings mem pods held).Quiet) :
    held.Quiet ∧ ∃ obs : List ReplicaGateObs, obs.map ReplicaGateObs.pod = pods ∧
      (∀ one ∈ obs, one.Answered loop.input) ∧
      (loop.readings mem pods held).obs = held.obs ++ obs := by
  induction pods generalizing held with
  | nil => exact ⟨quiet, [], rfl, by simp, by simp [GateLoop.readings]⟩
  | cons pod pods ih =>
      rw [List.forall_mem_cons] at unlabelled
      obtain ⟨after, rest, listed, answered, obs_eq⟩ := ih unlabelled.2 quiet
      obtain ⟨before, first, same, answer, first_eq⟩ :=
        EscapeReadings.visit_quiet suppress armed unlabelled.1 after
      refine ⟨before, first :: rest, by rw [List.map_cons, same, listed], ?_, ?_⟩
      · rw [List.forall_mem_cons]
        exact ⟨answer, answered⟩
      · have split := obs_eq.trans (congrArg (· ++ rest) first_eq)
        simpa [GateLoop.readings] using split

end Survey

/-- What was deleted since is a victim of these readings. -/
def OnlySpared (readings : EscapeReadings) (before after : World) : Prop :=
  ∀ name ∈ after.deletions, name ∈ before.deletions ∨
    ∃ victim best, ∃ target candidate : SurveyedPod, target.name = name ∧
      Spared readings victim best target candidate

instance (readings : EscapeReadings) : Std.Refl (OnlySpared readings) where
  refl _ _ mem := .inl mem

instance (readings : EscapeReadings) : IsTrans World (OnlySpared readings) where
  trans _ _ _ first second name mem := (second name mem).elim (first name) .inr

private theorem OnlySpared.of_eq {before after : World}
    (same : after.deletions = before.deletions) : OnlySpared readings before after :=
  fun _ mem => .inl (same ▸ mem)

/-- The escape deletes a victim of the readings or nothing. -/
theorem maybeEscapeStaleReplica_spares (loop : GateLoop) (readings : EscapeReadings) :
    Within (OnlySpared readings) (maybeEscapeStaleReplica loop readings) := by
  have consult : Within (OnlySpared readings)
      (isFailoverInFlight .readinessEscape loop.input.inFlight) :=
    .bind (.bind (.write fun _ => .of_eq rfl) fun _ => .pure _) fun _ => .bind (.read _) fun _ =>
      .bind (.write fun _ => .of_eq rfl) fun _ => .pure _
  refine .bind (.read _) fun mem => .ite (.pure _) (.bind (.read _) fun _ => .ite (.pure _)
    (.ite (.pure _) (.bind consult fun _ => .ite (.pure _) (.ite (.pure _) ?_))))
  cases found : readings.victim loop.input.endpoints with
  | none => exact .pure _
  | some pod =>
      have cull : Within (OnlySpared readings) (.write (World.cullPod pod.name)) := by
        refine .write fun w name mem => ?_
        rcases List.mem_cons.mp mem with rfl | earlier
        · exact .inr (spared_of_victim found)
        · exact .inl earlier
      refine .bind (.ite (.pure _) (.bind (.read _) fun _ => .ite (.bind cull fun _ => .pure _)
        (.pure _))) fun _ => .ite (.pure _) ?_
      exact .bind (.write fun _ => .of_eq rfl) fun _ => .bind (.write fun _ => .of_eq rfl) fun _ =>
        .write fun _ => .of_eq rfl

/-- An escape that deletes was answered by every pod, none of them a master. -/
theorem World.CullsUnled.surveyed {w : World} {input : ReadinessInput}
    (culls : w.CullsUnled input pod) :
    ((w.gateLoop input).readings w.mem w.pods.items {}).obs.map ReplicaGateObs.pod = w.pods.items ∧
      ∀ obs ∈ ((w.gateLoop input).readings w.mem w.pods.items {}).obs, obs.Answered input := by
  obtain ⟨suppress, escapes⟩ := culls
  obtain ⟨victim, best, target, candidate, -, spared⟩ := spared_of_victim escapes.victim
  have armed : (w.gateLoop input).escapeArmed = true := by
    simp only [World.gateLoop, suppress, Bool.true_and, Memory.staleReplicaEscapeArmedAt,
      Bool.and_eq_true]
    exact ⟨escapes.dwelt, escapes.allowed⟩
  have quiet : ((w.gateLoop input).readings w.mem w.pods.items {}).Quiet :=
    ⟨spared.masterless, spared.reached.1, spared.reached.2⟩
  obtain ⟨-, obs, listed, answered, obs_eq⟩ :=
    GateLoop.readings_quiet suppress armed (unlabelled_of_suppress suppress) quiet
  rw [obs_eq]
  exact ⟨listed, answered⟩

/-- Different replicas of a survey of listed pods have different names. -/
theorem Spared.names_ne {victim best : Nat} {target candidate : SurveyedPod}
    (spared : Spared readings victim best target candidate)
    (distinct : ((readings.obs.map ReplicaGateObs.pod).map Pod.name).Nodup) :
    target.name ≠ candidate.name := by
  have names : (readings.survey.replicas.map SurveyedPod.name).Nodup := by
    simpa [EscapeReadings.survey, Function.comp_def] using distinct
  have inside : victim < (readings.survey.replicas.map SurveyedPod.name).length := by
    rw [List.length_map]
    exact (List.getElem?_eq_some_iff.mp spared.at_victim).1
  intro same
  refine spared.other ((List.getElem?_inj inside names).mp ?_)
  rw [List.getElem?_map, List.getElem?_map, spared.at_victim, spared.at_best, Option.map_some,
    Option.map_some, same]

/-- The escape spares the replica to be promoted, and needs all pods and no master. -/
theorem escape_spares_candidate :
    (∀ loop readings, Within (OnlySpared readings) (maybeEscapeStaleReplica loop readings)) ∧
      ∀ input w, (reconcileReadinessGates input).wp (fun _ => True) (fun _ after =>
        suppressStaleDelete (w.drift input.before).pods.items = true →
          Deletes [] (w.drift input.before) after ∨
          ∃ readings victim best, ∃ target candidate : SurveyedPod,
            Deletes [target.name] (w.drift input.before) after ∧
            Spared readings victim best target candidate ∧ target.name ≠ candidate.name ∧
            readings.obs.map ReplicaGateObs.pod = (w.drift input.before).pods.items ∧
            ∀ obs ∈ readings.obs, obs.Answered input) w := by
  refine ⟨maybeEscapeStaleReplica_spares, fun input w => ?_⟩
  refine wp_mono (reconcileReadinessGates_deletes input w) (fun _ => id) ?_
  rintro _ after ⟨-, exactly⟩ suppress
  by_cases culls : ∃ pod, (w.drift input.before).Culls input pod
  · obtain ⟨pod, culls⟩ := culls
    have unled : (w.drift input.before).CullsUnled input pod :=
      culls.chosen.resolve_left fun ⟨_, _, _, condemned, _⟩ => by
        have labelled : suppressStaleDelete (w.drift input.before).pods.items = false :=
          condemned.labelled
        simp [suppress] at labelled
    obtain ⟨victim, best, target, candidate, name, spared⟩ := spared_of_victim unled.2.victim
    obtain ⟨listed, answered⟩ := unled.surveyed
    refine .inr ⟨_, victim, best, target, candidate, name ▸ exactly.culled pod culls, spared,
      spared.names_ne ?_, listed, answered⟩
    rw [listed]
    exact (w.drift input.before).pods.distinct
  · exact .inl (exactly.spared fun pod taken => culls ⟨pod, taken⟩)

/-- Two replicas of a dead master, which have waited for ten minutes. -/
def leaderlessWorld : World :=
  let cr : CR :=
    { name := "vk", spec := { mode := .sentinel, masterName := "vk", replicas := 2 } }
  let pod (ordinal : Nat) : Pod :=
    { name := s!"vk-{ordinal}", uid := s!"uid-{ordinal}", podIP := s!"10.0.0.{ordinal}"
      role := .replica, readinessGates := [.replicationReady] }
  { now := 600 * second, cr, v := cr
    pods := ⟨[pod 0, pod 1], by decide, by decide⟩
    mem := { noPrimarySince := some 0, staleReplicas := [("uid-0", 0), ("uid-1", 0)] } }

example : suppressStaleDelete leaderlessWorld.pods.items = true ∧
    ((reconcileReadinessGates
      { checkLag := fun ip =>
          .ok { linkUp := false, masterHost := "10.0.0.9"
                slaveReplOffset := some (if ip = "10.0.0.0" then 7 else 5) }
        endpoints := some 3 }).run leaderlessWorld).final.deletions = ["vk-1"] := by
  decide

end Velkir
