import Velkir.Reconcile

/-!
# Rollout steps during a failover

Stripping the primary label makes the outgoing primary look like a stale replica, which a later step
may delete.
-/

namespace Velkir

open Crash Proc History

/-- A deleted pod was exposed to the rollout step that deleted it. -/
def RolledExposed (line : Entry) (before : List Entry) : Prop :=
  ∀ pod time, line = .rolled pod time → ∃ view earlier, before = .rolling view time :: earlier ∧
    ∃ exposed, exposed.name = pod ∧ view.Exposes exposed

theorem rolledExposed_of_kind {line : Entry} (kind : line.kind ≠ .rolled) (before : List Entry) :
    RolledExposed line before := by
  rintro pod time rfl
  exact absurd rfl kind

private theorem rolledExposed_tolerates {touched : List Part} {kinds : List Kind}
    (without : .rolled ∉ kinds) :
    Tolerates touched kinds (Keeps fun w => Always RolledExposed w.journal) :=
  always_tolerates fun _ mem => rolledExposed_of_kind fun kind => without (kind ▸ mem)

private theorem reconcilePodRollout_rolledExposed (quorumOK : Bool) (pods : List Pod)
    (sts : Option StatefulSet) (input : PodRolloutInput) :
    Within (Keeps fun w => Always RolledExposed w.journal)
      (reconcilePodRollout quorumOK pods sts input) := by
  refine .of_wp fun w start => ?_
  unfold reconcilePodRollout
  simp only [wp_bind, wp_read, wp_ite, wp_pure]
  refine ⟨fun _ => start, fun _ => ?_⟩
  cases sts with
  | none => simpa using start
  | some sts =>
      have rolling : Always RolledExposed
          (.rolling (w.rolloutView quorumOK pods sts) w.now :: w.journal) :=
        .cons (rolledExposed_of_kind (by simp [Entry.kind]) _) start
      simp only [logHere, wp_bind, wp_write]
      refine ⟨rolling, ?_⟩
      have event : ∀ line before, line.kind = .event → Always RolledExposed before →
          Always RolledExposed (line :: before) := fun line before kind always =>
        .cons (rolledExposed_of_kind (by simp [kind]) _) always
      refine rollView_wp (fun _ => rolling)
        (fun _ _ => ⟨event _ _ rfl rolling, event _ _ rfl rolling⟩) fun victim takes => ?_
      have rolled : Always RolledExposed (.rolled victim.name w.now ::
          .rolling (w.rolloutView quorumOK pods sts) w.now :: w.journal) := by
        refine .cons (fun pod time eq => ?_) rolling
        obtain ⟨rfl, rfl⟩ := Entry.rolled.inj eq
        exact ⟨_, _, rfl, victim, rfl, takes.exposed⟩
      refine rollPod_wp (fun _ => rolling) (fun _ _ => rolled) ?_
      rintro middle (⟨rfl, -⟩ | ⟨rfl, -⟩)
      · exact ⟨rolled, event _ _ rfl rolled, event _ _ rfl rolled⟩
      · exact ⟨rolling, event _ _ rfl rolling, event _ _ rfl rolling⟩

/-- The failover was issued under this latch, and nothing has ended it. -/
def FailoverPending (pod : String) (latch : Latch) : List Entry → Prop :=
  Since (fun line => line.supersedes latch = false) (fun line => line = .failoverIssued pod latch)

instance (pod : String) (latch : Latch) : DecidablePred (FailoverPending pod latch) :=
  inferInstanceAs (DecidablePred (Since _ _))

private def Entry.rollout : Entry → Option RolloutView
  | .rolling view _ => some view
  | _ => none

/-- A rollout step is not shown a pod to delete whose failover is pending. -/
def HidesPending (line : Entry) (before : List Entry) : Prop :=
  ∀ view time, line = .rolling view time → ∀ pod latch, FailoverPending pod latch before →
    time ≤ latch.deadline → ∀ listed ∈ view.pods, listed.name = pod → ¬view.Exposes listed

private theorem hidesPending_of_unexposed {journal : List Entry}
    (unexposed : ∀ line ∈ journal, ∀ view ∈ line.rollout, ∀ pod ∈ view.pods, ¬view.Exposes pod) :
    Always HidesPending journal := by
  refine always_of_forall fun line mem before => ?_
  rintro view time rfl pod latch - - listed listed_mem -
  exact unexposed _ mem view rfl listed listed_mem

/-- A deleted pod's failover is no longer pending. -/
def SparesPending (line : Entry) (before : List Entry) : Prop :=
  ∀ pod time, line = .rolled pod time → ∀ latch, FailoverPending pod latch before →
    latch.deadline < time

private theorem sparesPending_of_exposed {line : Entry} {before : List Entry}
    (exposed : RolledExposed line before) (hides : Always HidesPending before) :
    SparesPending line before := by
  rintro pod time rolled latch pending
  obtain ⟨view, earlier, rfl, victim, name, exposes⟩ := exposed pod time rolled
  by_contra intime
  have before : FailoverPending pod latch earlier := by
    rcases since_cons.mp pending with start | ⟨-, pending⟩
    · simp at start
    · exact pending
  exact (always_cons.mp hides).1 view time rfl pod latch before (by omega) victim exposes.listed
    name exposes

/-- Every pod a run deletes was exposed to the step that deleted it. -/
theorem operator_rolledExposed (acts : List (Act PassInput Drift)) {w : World}
    (start : w.journal = []) : Always RolledExposed (operator.run acts w).journal := by
  have rules : ∀ input, PassRules (fun w => Always RolledExposed w.journal)
      (fun w => Always RolledExposed w.journal) (fun w => Always RolledExposed w.journal) input :=
    fun input => .of_tolerates (rolledExposed_tolerates (by decide))
      (fun _ => (reconcileStatefulSet_within _ _).mono (rolledExposed_tolerates (by decide)))
      fun _ _ _ => reconcilePodRollout_rolledExposed _ _ _ _
  exact operator_invariant rules (by rw [start]; exact .nil)

/-- If no step is shown a pod whose failover is pending, no step deletes one. -/
theorem operator_sparesPending (acts : List (Act PassInput Drift)) {w : World}
    (start : w.journal = []) (hides : Always HidesPending (operator.run acts w).journal) :
    Always SparesPending (operator.run acts w).journal := by
  refine always_iff.mpr fun later line before split => ?_
  have exposed := always_iff.mp (operator_rolledExposed acts start) later line before split
  rw [split] at hides
  exact sparesPending_of_exposed exposed (always_cons.mp hides.of_append).2

/-- The primary is the last pod behind the new revision. -/
def lastStaleWorld : World :=
  let pod (ordinal : Nat) (role : Role) (revision : String) : Pod :=
    { name := s!"vk-{ordinal}", podIP := s!"10.0.0.{ordinal + 1}", role, revision
      conditions := [{ type := .ready, status := .true }] }
  let cr : CR := { name := "vk", finalizer := true
                   spec := { mode := .sentinel, masterName := "vk", replicas := 3 } }
  let sts : StatefulSet := { replicas := some 3, updateRevision := "b", currentRevision := "a"
                             containers := [⟨"valkey", "valkey/valkey:8.1.6-alpine"⟩] }
  { now := 100, cr, v := cr, sts := some sts
    pods := ⟨[pod 0 .primary "a", pod 1 .replica "b", pod 2 .replica "b"], by decide, by decide⟩ }

/-- The sentinels name ordinal zero, with or without a quorum. -/
def handoverPass (quorumOK : Bool) : PassInput :=
  let seen : ObservedPrimary :=
    { addr := "10.0.0.1:6379", epoch := 4, quorumOK, lastPolledAt := 99 }
  let obs : Obs := { snap := some seen }
  { observe := { derive := obs, switchMaster := obs }
    sentinelInfra := { obs }
    labels := { maintain := obs, relabel := obs }
    orchestration := { dispatch := { obs, checkLag := fun _ => some {} } } }

/-- How many writes the first such pass makes up to the strip. -/
def writesToStrip : Nat := 28

example :
    let stripped (writes : Nat) : Bool := (operator.run [.crash (handoverPass true) writes]
      lastStaleWorld).journal.any (·.kind = .stripped)
    stripped writesToStrip = true ∧ stripped (writesToStrip - 1) = false := by
  decide

/-- The latch of the failover that the first such pass issues. -/
def handoverLatch : Latch :=
  { preStripAddr := "10.0.0.1:6379"
    deadline := 100 + failoverInFlightLatchTTL
    preStripEpoch := 4 }

/-- Two passes, the second with or without a quorum. -/
def handoverActs (quorumOK : Bool) : List (Act PassInput Drift) :=
  [.call (handoverPass true), .call (handoverPass quorumOK)]

/-- With a quorum the second pass deletes the pending primary. -/
theorem handoverActs_run :
    let rolled := (operator.run (handoverActs true) lastStaleWorld).journal.dropWhile
      (· ≠ .rolled "vk-0" 100)
    let spared := (operator.run (handoverActs false) lastStaleWorld).journal
    (rolled.head? = some (.rolled "vk-0" 100) ∧
        FailoverPending "vk-0" handoverLatch rolled.tail) ∧
      FailoverPending "vk-0" handoverLatch spared ∧
      ∀ line ∈ spared, ∀ view ∈ line.rollout, ∀ pod ∈ view.pods, ¬view.Exposes pod := by
  decide

/-- The second pass deletes the primary whose failover the first pass issued. -/
theorem operator_rolls_pending :
    ∃ later earlier, (operator.run (handoverActs true) lastStaleWorld).journal =
        later ++ .rolled "vk-0" 100 :: earlier ∧
      FailoverPending "vk-0" handoverLatch earlier ∧ 100 ≤ handoverLatch.deadline := by
  obtain ⟨rolled, pending⟩ := handoverActs_run.1
  exact ⟨_, _, split_dropWhile rolled, pending, by decide⟩

/-- Without a quorum the second pass leaves it alone. -/
theorem operator_spares_quorumless :
    FailoverPending "vk-0" handoverLatch
        (operator.run (handoverActs false) lastStaleWorld).journal ∧
      Always SparesPending (operator.run (handoverActs false) lastStaleWorld).journal := by
  obtain ⟨pending, unexposed⟩ := handoverActs_run.2
  have start : lastStaleWorld.journal = [] := rfl
  exact ⟨pending, operator_sparesPending _ start (hidesPending_of_unexposed unexposed)⟩

end Velkir
