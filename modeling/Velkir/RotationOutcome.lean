import Velkir.Reconcile
import Velkir.RotateAuth

/-!
# What a recorded rotation outcome says about the pods

A success has moved every pod. A failure claims to have moved all of them back, but leaves out some.
-/

namespace Velkir

open Crash Proc MergePatch

section Driver

variable {input : AuthInput} {w : World} {currentHash observedHash : String}

variable {replicas : List String} {master : String}

theorem splitDataPlaneEndpoints_spec {pods : List Pod}
    (split : splitDataPlaneEndpoints pods = some (replicas, master)) :
    (∀ pod ∈ pods, pod.name ∈ replicas ++ [master]) ∧
      (∀ name ∈ replicas, ∃ pod ∈ pods, pod.role = .replica ∧ pod.name = name) ∧
      ∃ pod ∈ pods, pod.role = .primary ∧ pod.name = master := by
  unfold splitDataPlaneEndpoints at split
  split at split
  · cases split
  · rename_i settled
    split at split
    · rename_i primary only
      obtain ⟨rfl, rfl⟩ := Option.some.inj split
      have labelled : ∀ pod ∈ pods, pod.role = .primary ∨ pod.role = .replica := by
        intro pod mem
        grind
      have listed : primary ∈ pods.filter fun pod => pod.role = .primary := by simp [only]
      refine ⟨fun pod mem => ?_, fun name mem => ?_, primary, ?_⟩
      · rcases labelled pod mem with isPrimary | isReplica
        · have among : pod ∈ pods.filter fun pod => pod.role = .primary := by simp [mem, isPrimary]
          rw [only, List.mem_singleton] at among
          simp [among]
        · exact List.mem_append_left _ (List.mem_map_of_mem (by simp [mem, isReplica]))
      · obtain ⟨pod, among, rfl⟩ := List.mem_map.mp mem
        obtain ⟨inList, isReplica⟩ := List.mem_filter.mp among
        exact ⟨pod, inList, of_decide_eq_true isReplica, rfl⟩
      · simpa using List.mem_filter.mp listed
    · cases split

/-- The endpoints that the rollout did not reach. -/
def AuthInput.failed (input : AuthInput) (endpoints : List String) : List String :=
  endpoints.filter fun name => !input.rotates name

/-- The endpoints that it reached and the revert did not. -/
def AuthInput.revertFailed (input : AuthInput) (endpoints : List String) : List String :=
  endpoints.filter fun name => input.rotates name ∧ !input.reverts name

/-- What recording this phase says about the rollout. -/
def AuthInput.ends (input : AuthInput) (endpoints : List String) : AuthRotationPhase → Prop
  | .succeeded => input.failed endpoints = []
  | .failed => input.failed endpoints ≠ [] ∧ input.revertFailed endpoints = []
  | _ => input.failed endpoints ≠ [] ∧ input.revertFailed endpoints ≠ []

/-- The phase that an event announces. -/
def Event.rotationPhase : Event → AuthRotationPhase
  | .secretRotated _ => .succeeded
  | .secretRotationFailed _ => .failed
  | _ => .partially

/-- The record shows what it did before, or this. -/
structure Overwrites (phase : AuthRotationPhase) (hash : String) (before after : CR) : Prop where
  phase : currentAuthRotationPhase after = currentAuthRotationPhase before ∨
    currentAuthRotationPhase after = phase
  hash : observedAuthSecretHash after = observedAuthSecretHash before ∨
    observedAuthSecretHash after = hash

variable {phase : AuthRotationPhase} {hash : String}

private theorem Overwrites.rfl {cr : CR} : Overwrites phase hash cr cr :=
  ⟨.inl (Eq.refl _), .inl (Eq.refl _)⟩

private theorem mergeOption_rotation (base stored : Option AuthRotation) (target : AuthRotation) :
    mergeOption base (some target) stored = stored ∨
      ∃ merged, mergeOption base (some target) stored = some merged ∧
        (merged.phase = target.phase ∨ merged.phase = (stored.getD blank).phase) ∧
        (merged.observedSecretHash = target.observedSecretHash ∨
          merged.observedSecretHash = (stored.getD blank).observedSecretHash) := by
  cases base with
  | none => exact .inr ⟨_, rfl, replace_eq_target_or_stored .., replace_eq_target_or_stored ..⟩
  | some base =>
      by_cases same : base = target
      · exact .inl (if_pos same)
      · exact .inr ⟨_, if_neg same, replace_eq_target_or_stored .., replace_eq_target_or_stored ..⟩

private theorem Overwrites.of_merged {before after : CR} {base : Option AuthRotation}
    {target : AuthRotation} (named : phase ≠ .unset) (samePhase : target.phase = phase)
    (sameHash : target.observedSecretHash = hash)
    (stored : after.status.authRotation =
      mergeOption base (some target) before.status.authRotation) :
    Overwrites phase hash before after := by
  subst samePhase sameHash
  rcases mergeOption_rotation base before.status.authRotation target with
    same | ⟨merged, eq, phases, hashes⟩
  · rw [same] at stored
    exact ⟨.inl (by simp only [currentAuthRotationPhase, stored]),
      .inl (by simp only [observedAuthSecretHash, stored])⟩
  · rw [eq] at stored
    constructor
    · rcases phases with written | kept
      · exact .inr (by simp [currentAuthRotationPhase, stored, written, named])
      · refine .inl ?_
        cases found : before.status.authRotation with
        | none => simp [currentAuthRotationPhase, stored, found, kept, blank]
        | some record => simp [currentAuthRotationPhase, stored, found, kept]
    · rcases hashes with written | kept
      · exact .inr (by simp [observedAuthSecretHash, stored, written])
      · refine .inl ?_
        cases found : before.status.authRotation with
        | none => simp [observedAuthSecretHash, stored, found, kept, blank]
        | some record => simp [observedAuthSecretHash, stored, found, kept]

variable {message : String} {reply : Reply}

theorem writeAuthRotationStatus_quiet {lines : List Entry} :
    Within (Keeps fun w => w.journal = lines)
      (writeAuthRotationStatus phase hash message reply) := by
  refine .bind (.read _) fun _ => .ite (.pure _)
    (.bind (.read _) fun _ => .bind ?_ fun _ => .pure _)
  exact .bind (.read _) fun _ => .ite (.pure _) (.ite (.bind (.write fun _ kept => kept) fun _ =>
    .pure _) (.pure _))

theorem writeAuthRotationStatus_overwrites (named : phase ≠ .unset) :
    (writeAuthRotationStatus phase hash message reply).wp (fun _ => True) (fun _ final =>
      final.journal = w.journal ∧ Overwrites phase hash w.cr final.cr) w := by
  have merged : ∀ now, Overwrites phase hash w.cr (w.patchStatus (fun status => { status with
      authRotation := some (nextRotation now phase hash message status.authRotation) })
        .status []).cr := fun now => .of_merged named rfl rfl rfl
  unfold writeAuthRotationStatus patchStatus
  simp only [wp_bind, wp_read, wp_ite, wp_pure, wp_write, true_and]
  exact ⟨fun _ => .rfl, fun _ => ⟨fun _ => .rfl, fun _ => ⟨fun _ => ⟨rfl, merged _⟩,
    fun _ => .rfl⟩⟩⟩

/-- The hash that is recorded with this phase. -/
def recordedHash (currentHash observedHash : String) (phase : AuthRotationPhase) : String :=
  if phase = .succeeded then currentHash else observedHash

/-- How the rollout ended, what the record then shows, and what is announced. -/
structure Ended (input : AuthInput) (endpoints : List String) (currentHash observedHash : String)
    (phase : AuthRotationPhase) (before after : World) : Prop where
  ends : input.ends endpoints phase
  record : Overwrites phase (recordedHash currentHash observedHash phase) before.cr after.cr
  journal : after.journal = before.journal ∨
    ∃ event : Event, event.rotationPhase = phase ∧ after.journal = .event event :: before.journal

variable {endpoints : List String}

/-- The phase is recorded, and then announced unless that fails. -/
theorem Ended.of_written {event : Event} {announce : Proc World Unit} (named : phase ≠ .unset)
    (ends : input.ends endpoints phase) (announced : event.rotationPhase = phase)
    (announces : ∀ middle, announce.wp (fun _ => True) (fun _ final =>
      final.cr = middle.cr ∧ final.journal = .event event :: middle.journal) middle) :
    Proc.wp (fun _ => True) (do
      if ← writeAuthRotationStatus phase (recordedHash currentHash observedHash phase) message
          reply then announce)
      (fun _ => Ended input endpoints currentHash observedHash phase w) w := by
  simp only [wp_bind, wp_ite, wp_pure]
  refine wp_mono (writeAuthRotationStatus_overwrites named) (fun _ => id)
    fun _ middle written => ⟨fun _ => ?_, fun _ => ⟨ends, written.2, .inl written.1⟩⟩
  refine wp_mono (announces middle) (fun _ => id) fun _ final said => ⟨ends, ?_, .inr ⟨event, ?_⟩⟩
  · rw [said.1]
    exact written.2
  · rw [said.2, written.1]
    exact ⟨announced, rfl⟩

theorem finishAuthRotation_ended {replicas : Nat} :
    (finishAuthRotation input replicas endpoints currentHash observedHash).wp (fun _ => True)
      (fun _ final => ∃ phase, Ended input endpoints currentHash observedHash phase w final) w := by
  have announces : ∀ (event : Event) (middle : World), (recordEvent event).wp (fun _ => True)
      (fun _ final => final.cr = middle.cr ∧ final.journal = .event event :: middle.journal)
        middle := by
    intro event middle
    simp [recordEvent, log]
  have ended : ∀ {proc : Proc World Unit} (phase : AuthRotationPhase),
      proc.wp (fun _ => True)
        (fun _ => Ended input endpoints currentHash observedHash phase w) w →
      proc.wp (fun _ => True) (fun _ final =>
        ∃ phase, Ended input endpoints currentHash observedHash phase w final) w :=
    fun phase done => wp_mono done (fun _ => id) fun _ _ ended => ⟨phase, ended⟩
  unfold finishAuthRotation
  simp only [wp_ite]
  refine ⟨fun allRotated => ?_, fun someFailed => ⟨fun allReverted => ?_, fun someLeft => ?_⟩⟩
  · have announced : Event.rotationPhase (.secretRotated replicas) = .succeeded := rfl
    refine ended .succeeded (Ended.of_written (by simp) allRotated announced fun middle => ?_)
    simp only [cacheAuthPassword, wp_bind, wp_write, true_and]
    exact announces _ _
  · exact ended .failed (Ended.of_written (by simp) ⟨someFailed, allReverted⟩ rfl (announces _))
  · exact ended .partially (Ended.of_written (by simp) ⟨someFailed, someLeft⟩ rfl (announces _))

variable (input w currentHash observedHash) in
/-- The driver leaves everything, or rotates and records the end. -/
theorem driveAuthRotation_ended :
    (driveAuthRotation input currentHash observedHash).wp (fun _ => True)
      (fun _ final => final.cr = w.cr ∧ final.journal = w.journal ∨
        ∃ replicas master phase middle,
          splitDataPlaneEndpoints w.pods.items = some (replicas, master) ∧
          Overwrites .inProgress observedHash w.cr middle.cr ∧
          middle.journal = .rotating observedHash currentHash :: w.journal ∧
          Ended input (replicas ++ [master]) currentHash observedHash phase middle final) w := by
  unfold driveAuthRotation
  simp only [wp_ite, wp_bind, wp_read]
  refine ⟨fun _ => wp_pure.mpr (.inl ⟨rfl, rfl⟩), fun _ => ?_⟩
  cases split : splitDataPlaneEndpoints w.pods.items with
  | none => exact wp_pure.mpr (.inl ⟨rfl, rfl⟩)
  | some endpoints =>
      simp only [wp_bind]
      refine wp_mono (writeAuthRotationStatus_overwrites (by simp)) (fun _ => id)
        fun _ started written => ?_
      simp only [log, wp_write, true_and]
      refine wp_mono finishAuthRotation_ended (fun _ => id) fun _ final ended => ?_
      obtain ⟨phase, ended⟩ := ended
      refine .inr ⟨_, _, phase, started.note (.rotating observedHash currentHash), rfl, written.2,
        ?_, ended⟩
      rw [World.note_journal, written.1]

/-- The stored record shows this phase, or again with an announcement. -/
def Records (phase : AuthRotationPhase) (before after : World) : Prop :=
  currentAuthRotationPhase after.cr = phase ∧
    (currentAuthRotationPhase before.cr ≠ phase ∨
      ∃ event : Event, event.rotationPhase = phase ∧ ∃ lines,
        after.journal = .event event :: lines ++ before.journal)

/-- The stored record comes to show the new hash. -/
def Advances (observedHash currentHash : String) (before after : World) : Prop :=
  observedHash ≠ currentHash ∧ observedAuthSecretHash before.cr ≠ currentHash ∧
    observedAuthSecretHash after.cr = currentHash

theorem driveAuthRotation_records (settled : phase ≠ .inProgress)
    (recorded : Records phase w ((driveAuthRotation input currentHash observedHash).run w).final) :
    ∃ replicas master, splitDataPlaneEndpoints w.pods.items = some (replicas, master) ∧
      input.ends (replicas ++ [master]) phase := by
  rcases (driveAuthRotation_ended input w currentHash observedHash).2 with ⟨kept, quiet⟩ |
    ⟨replicas, master, ending, middle, split, started, rotating, ended⟩
  · rcases recorded with ⟨shows, before | ⟨event, -, lines, announced⟩⟩
    · rw [kept] at shows
      exact absurd shows before
    · rw [quiet] at announced
      have lengths := congrArg List.length announced
      simp only [List.cons_append, List.length_cons, List.length_append] at lengths
      omega
  · refine ⟨replicas, master, split, ?_⟩
    suffices ending = phase from this ▸ ended.ends
    rcases recorded with ⟨shows, before | ⟨event, announces, lines, announced⟩⟩
    · rcases ended.record.phase with same | same
      · rcases started.phase with early | early
        · exact absurd (early.symm.trans (same.symm.trans shows)) before
        · exact absurd (shows.symm.trans (same.trans early)) settled
      · exact same.symm.trans shows
    · rcases ended.journal with quiet | ⟨event', tells, said⟩
      · rw [quiet, rotating] at announced
        simp at announced
      · rw [said] at announced
        obtain ⟨rfl, -⟩ := by simpa using announced
        exact tells.symm.trans announces

private theorem driveAuthRotation_advances (advanced : Advances observedHash currentHash w
      ((driveAuthRotation input currentHash observedHash).run w).final) :
    ∃ replicas master, splitDataPlaneEndpoints w.pods.items = some (replicas, master) ∧
      input.ends (replicas ++ [master]) .succeeded := by
  obtain ⟨differs, before, shows⟩ := advanced
  rcases (driveAuthRotation_ended input w currentHash observedHash).2 with ⟨kept, -⟩ |
    ⟨replicas, master, ending, middle, split, started, -, ended⟩
  · rw [kept] at shows
    exact absurd shows before
  · refine ⟨replicas, master, split, ?_⟩
    suffices ending = .succeeded from this ▸ ended.ends
    have fresh : observedAuthSecretHash middle.cr ≠ currentHash := by
      rcases started.hash with early | early
      · exact early ▸ before
      · exact early ▸ differs
    have written : recordedHash currentHash observedHash ending = currentHash := by
      rcases ended.record.hash with same | same
      · exact absurd (same.symm.trans shows) fresh
      · exact same.symm.trans shows
    by_contra other
    rw [recordedHash, if_neg other] at written
    exact differs written

/-- What a rotation of the listed pods comes to. -/
def World.rotation (w : World) (oldPwd newPwd : String) (faults : RotationFaults)
    (plane : DataPlane) : Rotation :=
  match splitDataPlaneEndpoints w.pods.items with
  | some (replicas, master) => rotatePods oldPwd newPwd faults replicas master plane
  | none => ⟨[], [], plane⟩

/-- A pod and the primary with its name are one. -/
theorem splitDataPlaneEndpoints_apart {pods : Pods}
    (split : splitDataPlaneEndpoints pods.items = some (replicas, master)) : master ∉ replicas := by
  obtain ⟨-, fromReplicas, primary, listed, isPrimary, rfl⟩ := splitDataPlaneEndpoints_spec split
  intro mem
  obtain ⟨replica, among, isReplica, same⟩ := fromReplicas _ mem
  have eq : replica = primary := List.inj_on_of_nodup_map pods.distinct among listed same
  rw [eq, isPrimary] at isReplica
  cases isReplica

variable {oldPwd newPwd : String} {faults : RotationFaults} {plane : DataPlane}

variable {rotation : Rotation} {name : String}

theorem mem_under_failed (input : AuthInput) :
    name ∈ (input.under rotation).failed endpoints ↔ name ∈ endpoints ∧
      name ∈ (classifyRotateResults rotation.results).1.map PodResult.endpoint := by
  simp [AuthInput.failed, AuthInput.under]

private theorem mem_under_revertFailed (input : AuthInput) :
    name ∈ (input.under rotation).revertFailed endpoints ↔ name ∈ endpoints ∧
      name ∉ (classifyRotateResults rotation.results).1.map PodResult.endpoint ∧
      name ∈ (classifyRotateResults rotation.revertResults).1.map PodResult.endpoint := by
  simp [AuthInput.revertFailed, AuthInput.under]

theorem World.rotation_spec (named : ∀ pod ∈ w.pods.items, pod.name ≠ "")
    (recorded : ∃ replicas master, splitDataPlaneEndpoints w.pods.items = some (replicas, master) ∧
      (input.under (w.rotation oldPwd newPwd faults plane)).ends (replicas ++ [master]) phase) :
    ∃ replicas, ∃ primary ∈ w.pods.items, primary.role = .primary ∧
      w.rotation oldPwd newPwd faults plane =
        rotatePods oldPwd newPwd faults replicas primary.name plane ∧
      primary.name ∉ replicas ∧ "" ∉ replicas ++ [primary.name] ∧
      (∀ pod ∈ w.pods.items, pod.name ∈ replicas ++ [primary.name]) ∧
      (input.under (w.rotation oldPwd newPwd faults plane)).ends (replicas ++ [primary.name])
        phase := by
  obtain ⟨replicas, master, split, ends⟩ := recorded
  obtain ⟨covered, fromReplicas, primary, listed, isPrimary, rfl⟩ :=
    splitDataPlaneEndpoints_spec split
  refine ⟨replicas, primary, listed, isPrimary, by simp [World.rotation, split],
    splitDataPlaneEndpoints_apart split, fun mem => ?_, covered, ends⟩
  rcases List.mem_append.mp mem with mem | mem
  · obtain ⟨replica, among, -, blank⟩ := fromReplicas _ mem
    exact named replica among blank
  · exact named primary listed (List.mem_singleton.mp mem).symm

/-- A failed rotation is undone exactly when pods with a new `masterauth` took the password. -/
theorem driveAuthRotation_restores_iff (input : AuthInput) (currentHash observedHash : String)
    (oldPwd newPwd : String) (faults : RotationFaults) (plane : DataPlane) (w : World)
    (named : ∀ pod ∈ w.pods.items, pod.name ≠ "")
    (start : ∀ pod ∈ w.pods.items, plane pod.name = ⟨oldPwd, oldPwd⟩)
    (recorded : Records .failed w
      ((driveAuthRotation (input.under (w.rotation oldPwd newPwd faults plane)) currentHash
        observedHash).run w).final) :
    (∀ pod ∈ w.pods.items,
        (w.rotation oldPwd newPwd faults plane).plane pod.name = ⟨oldPwd, oldPwd⟩) ↔
      oldPwd = newPwd ∨ ∀ pod ∈ w.pods.items,
        Touches oldPwd newPwd (faults.forward pod.name).attempts →
          Lands oldPwd newPwd oldPwd (faults.forward pod.name).attempts := by
  obtain ⟨replicas, primary, -, -, eq, apart, allNamed, covered, someFailed, noneLeft⟩ :=
    World.rotation_spec named (driveAuthRotation_records (by simp) recorded)
  rw [eq] at someFailed noneLeft ⊢
  have failed : (classifyRotateResults
      (rotatePods oldPwd newPwd faults replicas primary.name plane).results).1 ≠ [] := by
    intro none
    apply someFailed
    rw [List.eq_nil_iff_forall_not_mem]
    intro name mem
    rw [mem_under_failed, none] at mem
    cases mem.2
  have reverted : (classifyRotateResults
      (rotatePods oldPwd newPwd faults replicas primary.name plane).revertResults).1 = [] := by
    rw [← List.map_eq_nil_iff, List.eq_nil_iff_forall_not_mem]
    intro name mem
    obtain ⟨listed, took⟩ := rotatePods_revertFailed apart allNamed failed mem
    have left := (mem_under_revertFailed input).mpr ⟨listed, took, mem⟩
    rw [noneLeft] at left
    cases left
  rw [forall₂_congr fun pod mem =>
    rotatePods_plane_iff apart allNamed failed reverted (covered pod mem) (start pod mem)]
  by_cases same : oldPwd = newPwd
  · simp [same]
  · simp only [same, false_or]

end Driver

/-- A primary and a replica. -/
def rotationPods : Pods :=
  ⟨[{ name := "vk-0", podIP := "a", role := .primary },
    { name := "vk-1", podIP := "b", role := .replica }], by decide, by decide⟩

def rotationWorld : World :=
  let cr : CR := { name := "vk", spec := { mode := .sentinel, authSecretName := "auth" } }
  { now := 100, cr, v := cr, pods := rotationPods }

/-- Both are on the old password. -/
def oldPlane : DataPlane := fun _ => ⟨"old", "old"⟩

/-- The world after the driver has rotated under these faults. -/
def rotated (faults : RotationFaults) : World :=
  ((driveAuthRotation (AuthInput.under {} (rotationWorld.rotation "old" "new" faults oldPlane))
    "new#" "old#").run rotationWorld).final

/-- The replica's last reply is lost, and its retries find no connection. -/
def lostReply : RotationFaults where
  forward name :=
    if name = "vk-1" then
      { first := { requirepass := .lost }
        second := some { dialFails := true }
        third := some { dialFails := true } }
    else {}

/-- The replica stays on the new password while the record says it is back. -/
theorem driveAuthRotation_restores_lostReply :
    Records .failed rotationWorld (rotated lostReply) ∧
    (rotationWorld.rotation "old" "new" lostReply oldPlane).plane "vk-0" = ⟨"old", "old"⟩ ∧
    (rotationWorld.rotation "old" "new" lostReply oldPlane).plane "vk-1" = ⟨"new", "new"⟩ :=
  ⟨⟨by decide, .inl (by decide)⟩, by decide, by decide⟩

/-- A replica that cannot be reached makes the rotation fail. -/
def unreachable : RotationFaults where
  forward name :=
    let attempt : Attempt := { dialFails := decide (name = "vk-1") }
    { first := attempt, second := some attempt, third := some attempt }

theorem driveAuthRotation_restores_unreachable :
    Records .failed rotationWorld (rotated unreachable) ∧
    ∀ pod ∈ rotationWorld.pods.items,
      (rotationWorld.rotation "old" "new" unreachable oldPlane).plane pod.name =
        ⟨"old", "old"⟩ := by
  have recorded : Records .failed rotationWorld (rotated unreachable) :=
    ⟨by decide, .inl (by decide)⟩
  have named : ∀ pod ∈ rotationWorld.pods.items, pod.name ≠ "" := by decide
  have restores := driveAuthRotation_restores_iff {} "new#" "old#" "old" "new" unreachable oldPlane
    rotationWorld named (fun _ _ => rfl) recorded
  exact ⟨recorded, restores.mpr (.inr (by decide))⟩

/-- A rotation that succeeded has moved every pod, one as the master. -/
theorem driveAuthRotation_moves (input : AuthInput) (currentHash observedHash : String)
    (oldPwd newPwd : String) (faults : RotationFaults) (plane : DataPlane) (w : World)
    (secret : newPwd ≠ "") (named : ∀ pod ∈ w.pods.items, pod.name ≠ "") {final : World}
    (ran : final = ((driveAuthRotation (input.under (w.rotation oldPwd newPwd faults plane))
      currentHash observedHash).run w).final)
    (recorded : Records .succeeded w final ∨ Advances observedHash currentHash w final) :
    (∀ pod ∈ w.pods.items,
        (w.rotation oldPwd newPwd faults plane).plane pod.name = ⟨newPwd, newPwd⟩) ∧
      ∃ primary ∈ w.pods.items, primary.role = .primary ∧
        ((w.rotation oldPwd newPwd faults plane).results.filter fun result =>
          result.phase = .master).map PodResult.endpoint = [primary.name] := by
  subst ran
  obtain ⟨replicas, primary, listed, isPrimary, eq, apart, allNamed, covered, noneFailed⟩ :=
    World.rotation_spec named
      (recorded.elim (driveAuthRotation_records (by simp)) driveAuthRotation_advances)
  have hasMaster : primary.name ≠ "" := named primary listed
  rw [eq] at noneFailed ⊢
  have unfailed : (classifyRotateResults
      (rotatePods oldPwd newPwd faults replicas primary.name plane).results).1 = [] := by
    rw [← List.map_eq_nil_iff, List.eq_nil_iff_forall_not_mem]
    intro name mem
    have reached : name ∈ replicas ++ [primary.name] := by
      rw [rotatePods_results, mem_classify_failed apart, legEndpoints,
        if_neg fun blank => secret blank.2, if_neg hasMaster] at mem
      exact mem.1
    have left := (mem_under_failed input).mpr ⟨reached, mem⟩
    rw [noneFailed] at left
    cases left
  refine ⟨fun pod mem => rotatePods_moved apart hasMaster secret unfailed (covered pod mem),
    primary, listed, isPrimary, ?_⟩
  rw [rotatePods_results, rotateAuth_results apart, if_neg fun blank => secret blank.2,
    if_neg hasMaster]
  simp [List.filter_map, Function.comp_def]

theorem driveAuthRotation_moves_unhindered :
    Records .succeeded rotationWorld (rotated {}) ∧
    Advances "old#" "new#" rotationWorld (rotated {}) ∧
    (∀ pod ∈ rotationWorld.pods.items,
      (rotationWorld.rotation "old" "new" {} oldPlane).plane pod.name = ⟨"new", "new"⟩) ∧
    ∃ primary ∈ rotationWorld.pods.items, primary.role = .primary ∧
      ((rotationWorld.rotation "old" "new" {} oldPlane).results.filter fun result =>
        result.phase = .master).map PodResult.endpoint = [primary.name] := by
  have recorded : Records .succeeded rotationWorld (rotated {}) := ⟨by decide, .inl (by decide)⟩
  have named : ∀ pod ∈ rotationWorld.pods.items, pod.name ≠ "" := by decide
  exact ⟨recorded, ⟨by decide, by decide, by decide⟩, driveAuthRotation_moves {} "new#" "old#" "old"
    "new" {} oldPlane rotationWorld (by decide) named rfl (.inl recorded)⟩

end Velkir
