import Velkir.GateTimers
import Velkir.Machine

/-!
# Runs of Phase 8

One process runs Phase 8 again and again in a cluster that changes as it likes, and may drop its
trackers in between.
-/

namespace Velkir.GateRuns

open Crash History

/-- The fields of the memory that `pruneStale` resets. -/
def pruneStale (mem : Memory) : Memory :=
  { mem with
    rolloutTrigger := {}
    replicasRolled := false
    lastState := none
    staleReplicas := []
    noPrimarySince := none
    staleReplicaEscapeLastFired := none }

/-- A finished pass: the world when it listed the pods and the world it left. -/
structure Pass where
  before : World
  input : ReadinessInput
  after : World

/-- What the process remembers and the passes it has made, the last one first. -/
structure Process where
  mem : Memory := {}
  passes : List Pass := []

/-- A pass, or pruning the trackers. -/
inductive Act
  | pass (w : World) (input : ReadinessInput)
  | prune

/-- The world a pass starts in, with the process's timers and a new journal. -/
def Process.resume (process : Process) (w : World) : World :=
  { w with
    mem := { w.mem with
      staleReplicas := process.mem.staleReplicas
      noPrimarySince := process.mem.noPrimarySince
      staleReplicaEscapeLastFired := process.mem.staleReplicaEscapeLastFired }
    journal := [] }

/-- A pass of the process. -/
def Process.made (process : Process) (w : World) (input : ReadinessInput) : Pass where
  before := (process.resume w).drift input.before
  input := input
  after := ((reconcileReadinessGates input).run (process.resume w)).final

/-- One act of a process. -/
def Process.step : Act → Process → Process
  | .pass w input, process =>
      { mem := (process.made w input).after.mem, passes := process.made w input :: process.passes }
  | .prune, process => { process with mem := pruneStale process.mem }

/-- The passes of a process. -/
def passes (acts : List Act) : List Pass := (Machine.run Process.step acts {}).passes

namespace Pass

variable (pass : Pass)

def now : Nat := pass.before.now

/-- The gate of the pod with this identity was found open. -/
def Opened (uid : String) : Prop := pass.before.Opens pass.input uid

/-- The gate of the replica with this identity was found closed. -/
def Closed (uid : String) : Prop := pass.before.Closes pass.input uid

def SeesPrimary : Prop := pass.before.SeesPrimary pass.input

/-- The replica was deleted inline. -/
def Recreates (pod : Pod) : Prop :=
  pod ∈ pass.before.pods.items ∧ pod.name ∈ pass.after.recreations

/-- A replica was deleted by the escape. -/
def Escapes : Prop := pass.after.escapes ≠ []

end Pass

section Step

variable (process : Process) (w : World) (input : ReadinessInput)

theorem made_timed : Timed input (process.made w input).before (process.made w input).after :=
  (reconcileReadinessGates_timed input (process.resume w)).2

end Step

/-- A remembered pass found the gate closed, and none since found it open. -/
def Tracked (process : Process) : Prop :=
  ∀ uid time, process.mem.closedSince uid = some time →
    Since (fun pass => ¬pass.Opened uid) (fun pass => pass.now = time ∧ pass.Closed uid)
      process.passes

variable {process : Process}

private theorem Tracked.step (tracked : Tracked process) (act : Act) :
    Tracked (process.step act) := by
  intro uid time found
  cases act with
  | prune => cases found
  | pass w input =>
      obtain ⟨unopened, known | ⟨now, closed⟩⟩ :=
        (made_timed process w input).tracker uid time found
      · exact .later unopened (tracked uid time known)
      · exact .start ⟨now.symm, closed⟩

/-- A deleted replica was behind for the threshold while a pod was primary. -/
def Dwelt (pass : Pass) (earlier : List Pass) : Prop :=
  ∀ pod, pass.Recreates pod → pass.Closed pod.uid ∧ pass.SeesPrimary ∧
    Since (fun before => ¬before.Opened pod.uid)
      (fun first => first.now + staleReplicaThreshold ≤ pass.now ∧ first.Closed pod.uid) earlier

private theorem Tracked.dwelt (tracked : Tracked process) (w : World) (input : ReadinessInput) :
    Dwelt (process.made w input) process.passes := by
  rintro pod ⟨listed, recreated⟩
  rcases (made_timed process w input).recreated pod.name recreated with
    before | ⟨same, mem, name, closed, primary, time, known, overdue⟩
  · cases before
  · have eq : same = pod := List.inj_on_of_nodup_map (process.made w input).before.pods.distinct
      mem listed name
    subst eq
    refine ⟨closed, primary, (tracked _ time known).mono_start ?_⟩
    rintro first ⟨rfl, closed⟩
    exact ⟨overdue, closed⟩

/-- A replica is deleted inline only after a full dwell. -/
theorem recreated_only_after_dwell (acts : List Act) : Always Dwelt (passes acts) := by
  have sound : Tracked (Machine.run Process.step acts {}) ∧
      Always Dwelt (Machine.run Process.step acts {}).passes := by
    refine Machine.run_invariant (fun process => Tracked process ∧ Always Dwelt process.passes)
      (fun act process sound => ⟨sound.1.step act, ?_⟩) acts ⟨nofun, .nil⟩
    cases act with
    | prune => exact sound.2
    | pass w input => exact .cons (sound.1.dwelt w input) sound.2
  exact sound.2

/-- A pass over two gated pods without a link; the first has this label. -/
def orphans (label : Role) (time : Nat) : Act :=
  let cr : CR := { name := "v", spec := { mode := .sentinel, masterName := "main" } }
  let pod (name ip : String) (role : Role) : Pod :=
    { name, podIP := ip, role, readinessGates := [.replicationReady] }
  .pass
    { now := time * second, cr, v := cr
      pods := ⟨[pod "v-0" "10.0.0.1" label, pod "v-1" "10.0.0.2" .replica], by simp [pod],
        by simp [pod]⟩ }
    { checkLag := fun _ => .ok
        { linkUp := false, masterHost := "10.0.0.9", slaveReplOffset := some 7 }
      endpoints := some 3 }

/-- The replica goes in the first pass that is late enough. -/
example : (passes [orphans .primary 0, orphans .primary 60, orphans .primary 90]).map
    (fun pass => pass.after.recreations) = [["v-1"], [], []] := by
  decide

/-- The clock does not go back. -/
def Ordered (passes : List Pass) : Prop :=
  passes.Pairwise fun later earlier => earlier.now ≤ later.now

/-- An escape deletes one replica, after a dwell and long after the last. -/
structure Spaced (pass : Pass) (earlier : List Pass) : Prop where
  single : pass.after.escapes.length = 1
  apart : ∀ other ∈ earlier, other.Escapes → other.now + staleReplicaEscapeCooldown ≤ pass.now
  dwelt : ∃ first ∈ earlier, first.now + staleReplicaEscapeDwell ≤ pass.now
  unled : ∀ other ∈ pass :: earlier, pass.now < other.now + staleReplicaEscapeDwell →
    ¬other.SeesPrimary

/-- The remembered start is a pass's, and no primary was seen since. -/
def Unled (process : Process) : Prop :=
  ∀ time, process.mem.noPrimarySince = some time →
    Since (fun pass => ¬pass.SeesPrimary) (fun pass => pass.now = time ∧ ¬pass.SeesPrimary)
      process.passes

/-- An escape is remembered by its stamp, or is older than the start. -/
def Stamped (process : Process) : Prop :=
  ∀ pass ∈ process.passes, pass.Escapes →
    (∃ time, process.mem.staleReplicaEscapeLastFired = some time ∧ pass.now ≤ time) ∨
      ∀ time, process.mem.noPrimarySince = some time → pass.now ≤ time

private theorem Unled.step (unled : Unled process) (act : Act) : Unled (process.step act) := by
  intro time found
  cases act with
  | prune => cases found
  | pass w input =>
      obtain ⟨unseen, known | now⟩ := (made_timed process w input).since time found
      · exact .later unseen (unled time known)
      · exact .start ⟨now.symm, unseen⟩

private theorem Stamped.step (stamped : Stamped process) (act : Act)
    (ordered : Ordered (process.step act).passes) : Stamped (process.step act) := by
  intro pass mem escapes
  cases act with
  | prune => exact .inr nofun
  | pass w input =>
      have timed := made_timed process w input
      rw [Ordered, Process.step, List.pairwise_cons] at ordered
      rcases timed.fired with ⟨quiet, last⟩ | ⟨-, last, -⟩
      · -- The new pass did not escape, so this is an earlier one.
        have earlier : pass ∈ process.passes := by
          refine (List.mem_cons.mp mem).resolve_left ?_
          rintro rfl
          exact escapes quiet
        rcases stamped pass earlier escapes with ⟨time, known, le⟩ | before
        · exact .inl ⟨time, last.trans known, le⟩
        · refine .inr fun time found => ?_
          rcases (timed.since time found).2 with known | now
          · exact before time known
          · rw [now]
            exact ordered.1 pass earlier
      · refine .inl ⟨_, last, ?_⟩
        rcases List.mem_cons.mp mem with rfl | earlier
        · exact Nat.le_refl _
        · exact ordered.1 pass earlier

/-- In order of time, passes after the start of a window keep it open. -/
theorem unseen_of_since {passes : List Pass} {time : Nat}
    (since : Since (fun pass => ¬pass.SeesPrimary)
      (fun pass => pass.now = time ∧ ¬pass.SeesPrimary) passes) (ordered : Ordered passes) :
    ∀ other ∈ passes, time < other.now → ¬other.SeesPrimary := by
  induction since with
  | @start line rest here =>
      intro other mem late
      rcases List.mem_cons.mp mem with rfl | older
      · exact here.2
      · have before := (List.pairwise_cons.mp ordered).1 other older
        have start := here.1
        omega
  | later kept _ ih =>
      intro other mem late
      rcases List.mem_cons.mp mem with rfl | older
      · exact kept
      · exact ih (List.pairwise_cons.mp ordered).2 other older late

private theorem spaced_made (unled : Unled process) (stamped : Stamped process) {w : World}
    {input : ReadinessInput} (escapes : (process.made w input).Escapes)
    (ordered : Ordered (process.made w input :: process.passes)) :
    Spaced (process.made w input) process.passes := by
  rcases (made_timed process w input).fired with ⟨quiet, -⟩ |
    ⟨⟨name, single⟩, -, unseen, ⟨since, known, dwelt⟩, cooled⟩
  · exact absurd quiet escapes
  · have window := unled since known
    refine ⟨by rw [single]; rfl, fun other mem escaped => ?_, ?_, ?_⟩
    · rcases stamped other mem escaped with ⟨time, last, le⟩ | before
      · have rest := cooled time last
        exact Nat.le_trans (Nat.add_le_add_right le _) rest
      · have le := before since known
        exact Nat.le_trans (Nat.add_le_add_right le _) dwelt
    · obtain ⟨first, mem, start, -⟩ := window.exists_start
      exact ⟨first, mem, start ▸ dwelt⟩
    · rw [List.forall_mem_cons]
      refine ⟨fun _ => unseen, fun other mem near => ?_⟩
      refine unseen_of_since window (List.pairwise_cons.mp ordered).2 other mem ?_
      have bound : since + staleReplicaEscapeDwell ≤ (process.made w input).now := dwelt
      omega

/-- The escapes keep their distance as long as the clock does. -/
def Paced (pass : Pass) (earlier : List Pass) : Prop :=
  pass.Escapes → Ordered (pass :: earlier) → Spaced pass earlier

/-- What holds after every act. -/
structure Sound (process : Process) : Prop where
  unled : Unled process
  stamped : Ordered process.passes → Stamped process
  paced : Always Paced process.passes

private theorem Sound.start : Sound {} where
  unled _ found := by cases found
  stamped _ _ mem := by cases mem
  paced := .nil

private theorem Sound.step (sound : Sound process) (act : Act) : Sound (process.step act) := by
  cases act with
  | prune =>
      exact ⟨sound.unled.step .prune, fun ordered => (sound.stamped ordered).step .prune ordered,
        sound.paced⟩
  | pass w input =>
      have stamped : Ordered (process.made w input :: process.passes) → Stamped process :=
        fun ordered => sound.stamped (List.pairwise_cons.mp ordered).2
      refine ⟨sound.unled.step _, fun ordered => (stamped ordered).step _ ordered,
        .cons (fun escapes ordered => ?_) sound.paced⟩
      exact spaced_made sound.unled (stamped ordered) escapes ordered

/-- However trackers are dropped, escapes keep their distance from each other and from a primary. -/
theorem escapes_spaced (acts : List Act) : Always Paced (passes acts) :=
  (Machine.run_invariant Sound (fun act _ sound => sound.step act) acts .start).paced

/-- After its trackers were dropped the process waits for a dwell again. -/
example : (passes [orphans .replica 0, orphans .replica 600, .prune, orphans .replica 900,
      orphans .replica 1200, orphans .replica 1500]).map (fun pass => pass.after.escapes) =
    [["v-1"], [], [], ["v-1"], []] := by
  decide

end Velkir.GateRuns
