import Velkir.PodRollout

/-!
# The primary label during a relabel

Phase 7 stamps the new primary before it demotes the old one, so a label that was there stays on
some pod.
-/

namespace Velkir

open Crash Proc

/-- Some listed pod is labelled primary. -/
def PrimaryAmong (listed : List Pod) (w : World) : Prop :=
  ∃ pod ∈ listed, w.pods.role pod.name = some .primary

/-- This is the only labelled primary. -/
def OnlyPrimary (listed : List Pod) (pod : Pod) (w : World) : Prop :=
  ∀ other ∈ listed, w.pods.role other.name = some .primary ↔ other = pod

instance (listed : List Pod) (w : World) : Decidable (PrimaryAmong listed w) :=
  inferInstanceAs (Decidable (∃ pod ∈ listed, _))

variable {roles : Roles} {input : RoleLabelsInput} {pods : List Pod}

section Patches

variable {inv : World → Prop}
  (same : ∀ before after, SameRoles before after → inv before → inv after)

include same

private theorem patchOne_keeps {want : Role} {pod : Pod} (write : ∀ w notes, inv w →
      inv (w.patchPod pod.name (fun pod => { pod with role := want }) notes)) :
    Within (Keeps inv) (patchOne input want pod) := by
  have gate := (applyRoleTransitionGate_sameRoles input pod want).mono same
  exact .ite (.pure _) (.ite (.pure _) (.bind (.write fun w => write w _) fun _ =>
    .bind (.read _) fun _ => .ite (.bind gate fun _ => .pure _) (.pure _)))

theorem patchRoles_keeps {test : Role → Bool}
    (write : ∀ pod ∈ pods, ∀ want, roles pod = some want → test want = true → ∀ w notes, inv w →
      inv (w.patchPod pod.name (fun pod => { pod with role := want }) notes)) :
    Within (Keeps inv) (patchRoles input roles test pods) := by
  refine .each fun pod mem => ?_
  unfold patchRole
  cases assigned : roles pod with
  | none => exact .pure _
  | some want =>
      dsimp only
      split
      · rename_i passes
        exact patchOne_keeps same (write pod mem want assigned passes)
      · exact .pure _

end Patches

theorem PrimaryAmong.of_sameRoles {listed : List Pod} (before after : World)
    (same : SameRoles before after) : PrimaryAmong listed before → PrimaryAmong listed after := by
  rintro ⟨pod, mem, primary⟩
  exact ⟨pod, mem, (same pod.name).trans primary⟩

theorem World.patchPod_role (w : World) (name other : String) (want : Role)
    (notes : List Entry) :
    (w.patchPod name (fun pod => { pod with role := want }) notes).pods.role other =
      if other = name then (w.pods.role other).map fun _ => want else w.pods.role other := by
  simp only [World.patchPod, Pods.role_patch]
  split
  · simp [Pods.role, Function.comp_def]
  · rfl

private theorem promotions_keep (listed : List Pod) (input : RoleLabelsInput) (roles : Roles)
    (pods : List Pod) :
    Within (Keeps (PrimaryAmong listed))
      (patchRoles input roles (· = .primary) pods) := by
  refine patchRoles_keeps PrimaryAmong.of_sameRoles fun pod _ want _ promotes w notes => ?_
  rintro ⟨held, mem, primary⟩
  refine ⟨held, mem, ?_⟩
  have want_eq : want = .primary := by simpa using promotes
  rw [World.patchPod_role, want_eq, primary]
  split <;> rfl

private theorem demotions_keep {target : Pod}
    (others : ∀ pod ∈ pods, roles pod ≠ some .primary → pod.name ≠ target.name) :
    Within (Keeps fun w => w.pods.role target.name = some .primary)
      (patchRoles input roles (· ≠ .primary) pods) := by
  refine patchRoles_keeps (fun before after same primary => (same _).trans primary) ?_
  intro pod mem want assigned demotes w notes primary
  have demoted : roles pod ≠ some .primary := by
    rw [assigned]
    simpa using demotes
  rw [World.patchPod_role, if_neg fun eq => others pod mem demoted eq.symm]
  exact primary

/-- If the pods are assigned one primary, some pod is labelled throughout. -/
theorem writeRoles_primaryAmong {pods : Pods} {target : Pod} (listed : target ∈ pods.items)
    (only : ∀ pod ∈ pods.items, roles pod = some .primary ↔ pod = target) {w : World}
    (stored : w.pods = pods) (start : PrimaryAmong pods.items w) :
    (writeRoles input pods (some roles)).wp (PrimaryAmong pods.items)
      (fun _ => PrimaryAmong pods.items) w := by
  have promote := (promotions_keep pods.items input roles pods.items).wp start
  have promoted := @patchRoles_roles input w roles (· = .primary) pods.items pods.distinct
    fun pod mem _ _ => by rw [stored]; exact Pods.role_of_mem mem
  have apart : ∀ pod ∈ pods.items, roles pod ≠ some .primary → pod.name ≠ target.name := by
    intro pod mem other same
    have eq : pod = target := List.inj_on_of_nodup_map pods.distinct mem listed same
    exact other ((only pod mem).mpr eq)
  simp only [writeRoles, wp_bind, wp_ite, wp_pure]
  refine wp_mono (wp_and promote promoted) (fun _ => And.left) ?_
  rintro ok middle ⟨here, roles_after⟩
  refine ⟨fun _ => here, fun success => ?_⟩
  -- The target carries the label from here on.
  have stamped : middle.pods.role target.name = some .primary := by
    rw [(roles_after (by simpa using success)).1 target listed, (only target listed).mpr rfl]
    rfl
  have witness : ∀ state : World, state.pods.role target.name = some .primary →
      PrimaryAmong pods.items state := fun state primary => ⟨target, listed, primary⟩
  refine wp_mono ((demotions_keep apart).wp stamped) witness fun ok last primary => ?_
  refine ⟨fun _ => witness last primary, fun _ => ?_⟩
  have report : Within (Frame [] [.event]) (reportUnlabelled input roles pods) :=
    reportUnlabelled_within (by decide)
  have kept : ∀ after, Frame [] [.event] last after → PrimaryAmong pods.items after := by
    intro after frame
    have pods_eq : after.pods = last.pods := frame.kept .pods (by decide)
    exact witness after (pods_eq ▸ primary)
  exact wp_mono (report last) kept fun _ after frame => kept after frame

/-- A quorum-backed address relabels only with the roles it stands for. -/
theorem rolesFromObserved_eq {crName : String} {observed : ObservedPrimary} {freshPolls : Nat}
    {host : List Char} (parses : GoText.splitHost observed.addr.toList = some host)
    (decided : rolesFromObserved crName pods observed freshPolls = some roles) :
    podIPMatchesAny host pods = true ∧ roles = observedRoles host := by
  unfold rolesFromObserved at decided
  rw [parses] at decided
  dsimp only at decided
  split at decided
  · cases decided
  · rename_i named
    split at decided
    · cases decided
    · exact ⟨by simpa using named, (Option.some.inj decided).symm⟩

/-- With distinct addresses, an observed address of a pod names one primary. -/
theorem observedRoles_only {host : List Char} (ips : (pods.map Pod.podIP).Nodup)
    (named : podIPMatchesAny host pods = true) :
    ∃ pod ∈ pods, pod.podIP.toList = host ∧
      ∀ other ∈ pods, observedRoles host other = some .primary ↔ other = pod := by
  simp only [podIPMatchesAny, decide_eq_true_eq, List.any_eq_true] at named
  obtain ⟨-, pod, mem, has⟩ := named
  have at_host : pod.podIP.toList = host := by
    simp only [Pod.hasIP, decide_eq_true_eq] at has
    exact has.2
  refine ⟨pod, mem, at_host, fun other other_mem => ?_⟩
  constructor
  · intro assigned
    have other_has : other.hasIP host = true := by
      by_contra apart
      simp [observedRoles, apart] at assigned
    simp only [Pod.hasIP, decide_eq_true_eq] at other_has
    refine List.inj_on_of_nodup_map ips other_mem mem ?_
    exact String.toList_inj.mp (other_has.2.trans at_host.symm)
  · rintro rfl
    simp [observedRoles, has]

section Relabel

variable {w : World} {input : RoleLabelsInput} {observed : ObservedPrimary} {host : List Char}
  (sentinel : w.v.spec.mode = .sentinel) (seen : input.relabel.snap = some observed)
  (parses : GoText.splitHost observed.addr.toList = some host)

include sentinel seen parses

/-- Unless suppressed, the relabel follows the address of a listed pod. -/
theorem decidedRoles_observed
    (decided : (w.maintained input.maintain).decidedRoles w.pods.items input.relabel = some roles) :
    podIPMatchesAny host w.pods.items = true ∧ roles = observedRoles host := by
  obtain ⟨v_eq, -⟩ := w.maintained_eq input.maintain
  simp only [World.decidedRoles, v_eq, sentinel, seen, ne_eq, not_true_eq_false,
    ↓reduceIte] at decided
  split at decided
  · cases decided
  · split at decided
    · cases decided
    · exact rolesFromObserved_eq parses decided

private theorem reconcileRoleLabels_primaryAmong (fetched : w.Fetched)
    (ips : (w.pods.items.map Pod.podIP).Nodup) (start : PrimaryAmong w.pods.items w) :
    (reconcileRoleLabels input).wp (PrimaryAmong w.pods.items)
      (fun _ => PrimaryAmong w.pods.items) w := by
  have still : ∀ after : World, after.pods = w.pods → PrimaryAmong w.pods.items after :=
    fun after same => PrimaryAmong.of_sameRoles w after (fun _ => by rw [same]) start
  refine reconcileRoleLabels_wp fetched still start fun after same => ?_
  cases decided : (w.maintained input.maintain).decidedRoles w.pods.items input.relabel with
  | none => exact wp_pure.mpr (still after same)
  | some roles =>
      obtain ⟨named, rfl⟩ := decidedRoles_observed sentinel seen parses decided
      obtain ⟨pod, listed, -, only⟩ := observedRoles_only ips named
      exact writeRoles_primaryAmong listed only same (still after same)

end Relabel

/-- Phase 7 assigns the role to the pod at the observed address, and some pod keeps the label. -/
theorem reconcileRoleLabels_primaryLabel {w : World} (fetched : w.Fetched)
    (sentinel : w.v.spec.mode = .sentinel) (ips : (w.pods.items.map Pod.podIP).Nodup)
    (input : RoleLabelsInput) {observed : ObservedPrimary}
    (seen : input.relabel.snap = some observed) {host : List Char}
    (parses : GoText.splitHost observed.addr.toList = some host) :
    (∀ roles, ((decideRoles input w.pods).run w).value = some roles →
      ∃ pod ∈ w.pods.items, pod.podIP.toList = host ∧
        (∀ other ∈ w.pods.items, roles other = some .primary ↔ other = pod) ∧
        (input.listFails = false → (∀ name, input.labelReply name = .ok) →
          OnlyPrimary w.pods.items pod ((reconcileRoleLabels input).run w).final)) ∧
    (PrimaryAmong w.pods.items w →
      (reconcileRoleLabels input).wp (PrimaryAmong w.pods.items)
        (fun _ => PrimaryAmong w.pods.items) w) := by
  refine ⟨fun roles decided => ?_,
    reconcileRoleLabels_primaryAmong sentinel seen parses fetched ips⟩
  rw [(decideRoles_wp fetched).2.1] at decided
  obtain ⟨named, rfl⟩ := decidedRoles_observed sentinel seen parses decided
  obtain ⟨pod, listed, at_host, only⟩ := observedRoles_only ips named
  refine ⟨pod, listed, at_host, only, fun lists replies other mem => ?_⟩
  have success := reconcileRoleLabels_succeeds input w lists replies
  have role_after : some (w.roleAfter input other) = observedRoles host other := by
    simp [World.roleAfter, decided, observedRoles]
  rw [((reconcileRoleLabels_roles fetched).2 success).1 other mem, role_after]
  exact only other mem

/-- The second poll moves the label to ordinal two, and some pod has it. -/
theorem reconcileRoleLabels_moves_label :
    (∃ pod ∈ failedOverWorld.pods.items, pod.podIP.toList = "10.0.0.3".toList ∧
      OnlyPrimary failedOverWorld.pods.items pod
        ((reconcileRoleLabels (secondPoll "10.0.0.3:6379")).run failedOverWorld).final) ∧
      (reconcileRoleLabels (secondPoll "10.0.0.3:6379")).wp
        (PrimaryAmong failedOverWorld.pods.items)
        (fun _ => PrimaryAmong failedOverWorld.pods.items) failedOverWorld := by
  have parses : GoText.splitHost "10.0.0.3:6379".toList = some "10.0.0.3".toList := by
    decide
  obtain ⟨roles, decided⟩ : ∃ roles,
      ((decideRoles (secondPoll "10.0.0.3:6379") failedOverWorld.pods).run
        failedOverWorld).value = some roles :=
    Option.isSome_iff_exists.mp (by decide)
  obtain ⟨labels, kept⟩ := reconcileRoleLabels_primaryLabel (w := failedOverWorld) rfl rfl
    (by decide) (secondPoll "10.0.0.3:6379") rfl parses
  obtain ⟨pod, listed, at_host, -, only⟩ := labels roles decided
  exact ⟨⟨pod, listed, at_host, only rfl fun _ => rfl⟩, kept (by decide)⟩

end Velkir
