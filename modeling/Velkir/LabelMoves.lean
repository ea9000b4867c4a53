import Velkir.Observer
import Velkir.PrimaryLabel

/-!
# Moves of the primary label

Phase 7 moves the primary label only after two fresh polls have named the new primary. Frames move
it without a poll.
-/

namespace Velkir

open Crash Proc

section Promotion

variable {input : RoleLabelsInput} {target : Pod}

/-- The pod is not labelled primary. -/
def Unpromoted (target : Pod) (w : World) : Prop :=
  w.pods.role target.name ≠ some .primary

private theorem Unpromoted.of_sameRoles (before after : World) (same : SameRoles before after)
    (start : Unpromoted target before) : Unpromoted target after := by
  rw [Unpromoted, same]
  exact start

private theorem writeRoles_unpromoted {pods : Pods} (listed : target ∈ pods.items)
    {roles : Option Roles} (unassigned : ∀ assigned ∈ roles, assigned target ≠ some .primary) :
    Within (Keeps (Unpromoted target)) (writeRoles input pods roles) := by
  cases roles with
  | none => exact .pure _
  | some roles =>
      have patch : ∀ test,
          Within (Keeps (Unpromoted target)) (patchRoles input roles test pods.items) := by
        refine fun test => patchRoles_keeps Unpromoted.of_sameRoles
          fun pod mem want assigned _ w notes unlabelled => ?_
        unfold Unpromoted at unlabelled ⊢
        rw [World.patchPod_role]
        split
        · rename_i named
          have eq : pod = target := List.inj_on_of_nodup_map pods.distinct mem listed named.symm
          have other : want ≠ .primary := by
            rintro rfl
            exact unassigned roles rfl (eq ▸ assigned)
          cases w.pods.role target.name with
          | none => simp
          | some _ => simpa using other
        · exact unlabelled
      have report : Within (Keeps (Unpromoted target)) (reportUnlabelled input roles pods) := by
        have frame : Within (Frame [] [.event]) (reportUnlabelled input roles pods) :=
          reportUnlabelled_within (by decide)
        refine frame.mono fun before after frame unlabelled => ?_
        have pods_eq : after.pods = before.pods := frame.kept .pods (by decide)
        exact Unpromoted.of_sameRoles before after (fun _ => by rw [pods_eq]) unlabelled
      exact .bind (patch _) fun _ => .ite (.pure _) (.bind (patch _) fun _ => .ite (.pure _)
        (.bind report fun _ => .pure _))

private theorem reconcileRoleLabels_unpromoted {w : World} (fetched : w.Fetched)
    (listed : target ∈ w.pods.items) (unlabelled : target.role ≠ .primary)
    (unassigned : ∀ assigned ∈ (w.maintained input.maintain).decidedRoles w.pods.items
      input.relabel, assigned target ≠ some .primary) :
    (reconcileRoleLabels input).wp (Unpromoted target) (fun _ => Unpromoted target) w := by
  have start : ∀ after : World, after.pods = w.pods → Unpromoted target after := by
    intro after same
    rw [Unpromoted, same, Pods.role_of_mem listed]
    simpa using unlabelled
  exact reconcileRoleLabels_wp fetched start (start w rfl) fun after same =>
    (writeRoles_unpromoted listed unassigned).wp (start after same)

end Promotion

/-- No two of the pods share an address. -/
def DistinctIPs (pods : List Pod) : Prop :=
  ∀ pod ∈ pods, ∀ other ∈ pods, pod.podIP ≠ "" → pod.podIP = other.podIP → pod = other

/-- Every pod has a name. -/
def Named (pods : List Pod) : Prop :=
  ∀ pod ∈ pods, pod.name ≠ ""

instance (pods : List Pod) : Decidable (DistinctIPs pods) :=
  inferInstanceAs (Decidable (∀ pod ∈ pods, _))

instance (pods : List Pod) : Decidable (Named pods) :=
  inferInstanceAs (Decidable (∀ pod ∈ pods, _))

private theorem lastNamed_eq {test : Pod → Bool} {pods : List Pod} {pod : Pod} (mem : pod ∈ pods)
    (passes : test pod = true) :
    ∃ last ∈ pods, test last = true ∧ lastNamed test pods = last.name := by
  have inside : pod ∈ pods.filter test := List.mem_filter.mpr ⟨mem, passes⟩
  have nonempty : pods.filter test ≠ [] := List.ne_nil_of_mem inside
  obtain ⟨here, test_last⟩ := List.mem_filter.mp (List.getLast_mem nonempty)
  refine ⟨(pods.filter test).getLast nonempty, here, test_last, ?_⟩
  rw [lastNamed, List.getLast?_eq_some_getLast nonempty]
  rfl

private theorem unsettledMove_of_move {host : List Char} {pods : List Pod} {freshPolls : Nat}
    {source target : Pod} (names : (pods.map Pod.name).Nodup) (named : Named pods)
    (ips : DistinctIPs pods) (source_mem : source ∈ pods) (labelled : source.role = .primary)
    (target_mem : target ∈ pods) (unlabelled : target.role ≠ .primary)
    (at_host : target.hasIP host = true) (few : freshPolls < newPrimaryStableMinPolls) :
    unsettledMove host pods freshPolls = true := by
  obtain ⟨current, current_mem, current_primary, current_eq⟩ :=
    @lastNamed_eq (fun pod => pod.role = .primary) pods source source_mem (by simpa using labelled)
  obtain ⟨desired, desired_mem, desired_at, desired_eq⟩ :=
    @lastNamed_eq (fun pod => pod.hasIP host) pods target target_mem at_host
  have same : desired = target := by
    simp only [Pod.hasIP, decide_eq_true_eq] at desired_at at_host
    refine ips desired desired_mem target target_mem desired_at.1 ?_
    exact String.toList_inj.mp (desired_at.2.trans at_host.2.symm)
  have apart : current.name ≠ target.name := by
    intro eq
    have : current = target := List.inj_on_of_nodup_map names current_mem target_mem eq
    subst this
    exact unlabelled (by simpa using current_primary)
  simp only [unsettledMove, decide_eq_true_eq]
  rw [current_eq, desired_eq, same]
  exact ⟨named current current_mem, named target target_mem, apart, few⟩

/-- The label moves to the pod of two fresh polls, or by the bootstrap rule. -/
theorem decidedRoles_move {w : World} {obs : Obs} (sentinel : w.v.spec.mode = .sentinel)
    (names : (w.pods.items.map Pod.name).Nodup) (named : Named w.pods.items)
    (ips : DistinctIPs w.pods.items) {source target : Pod} (source_mem : source ∈ w.pods.items)
    (labelled : source.role = .primary) (target_mem : target ∈ w.pods.items)
    (unlabelled : target.role ≠ .primary) {roles : Roles}
    (decided : w.decidedRoles w.pods.items obs = some roles)
    (assigned : roles target = some .primary) :
    ∃ observed, obs.snap = some observed ∧ observed.quorumOK = true ∧
      (GoText.splitHost observed.addr.toList = none ∨
        GoText.splitHost observed.addr.toList = some target.podIP.toList ∧
          newPrimaryStableMinPolls ≤ (observePrimaryStability observed.addr observed.lastPolledAt
            w.mem.primaryStability).2) := by
  unfold World.decidedRoles at decided
  simp only [sentinel, ne_eq, not_true_eq_false, ↓reduceIte] at decided
  cases seen : obs.snap with
  | none =>
      have some_labelled : anyValkeyPodLabelled w.pods.items = true :=
        List.any_eq_true.mpr ⟨source, source_mem, by simp [labelled]⟩
      rw [seen] at decided
      simp only [rolesWithoutSnapshot, some_labelled, ↓reduceIte, Option.some.injEq] at decided
      rw [← decided] at assigned
      cases assigned
  | some observed =>
      rw [seen] at decided
      dsimp only at decided
      split_ifs at decided with lost latched
      refine ⟨observed, rfl, by simpa using lost, ?_⟩
      cases parses : GoText.splitHost observed.addr.toList with
      | none => exact .inl rfl
      | some host =>
          right
          obtain ⟨-, roles_eq⟩ := rolesFromObserved_eq parses decided
          have at_host : target.hasIP host = true := by
            by_contra apart
            simp [roles_eq, observedRoles, apart] at assigned
          have host_eq : target.podIP.toList = host := by
            simp only [Pod.hasIP, decide_eq_true_eq] at at_host
            exact at_host.2
          refine ⟨by rw [host_eq], ?_⟩
          by_contra few
          have unsettled := unsettledMove_of_move names named ips source_mem labelled target_mem
            unlabelled at_host (Nat.lt_of_not_le few)
          simp [rolesFromObserved, parses, unsettled] at decided

/-- The settling damp is the same. -/
def SameStability (before after : World) : Prop :=
  after.mem.primaryStability = before.mem.primaryStability

instance : Std.Refl SameStability where
  refl _ := rfl

instance : IsTrans World SameStability where
  trans _ _ _ first second := second.trans first

private theorem writeRoles_sameStability (input : RoleLabelsInput) (pods : Pods)
    (roles : Option Roles) : Within SameStability (writeRoles input pods roles) := by
  cases roles with
  | none => exact .pure _
  | some roles =>
      have patch : ∀ test, Within SameStability (patchRoles input roles test pods.items) :=
        fun test => patchRoles_within (fun _ _ _ _ _ => rfl) (fun _ _ => trivial) test _
      have event : ∀ event, Within SameStability (recordEvent event) :=
        fun event => .write fun _ => rfl
      have report : Within SameStability (reportUnlabelled input roles pods) :=
        .when (event _) (.bind (.read _) fun _ => .ite (event _) (.pure _))
      exact .bind (patch _) fun _ => .ite (.pure _) (.bind (patch _) fun _ => .ite (.pure _)
        (.bind report fun _ => .pure _))

/-- The damp stays as it is, or counts a snapshot that reports agreement. -/
def Counted (obs : Obs) (before after : World) : Prop :=
  SameStability before after ∨ ∃ observed ∈ obs.snap, observed.quorumOK = true ∧
    after.mem.primaryStability = (observePrimaryStability observed.addr observed.lastPolledAt
      before.mem.primaryStability).1

private theorem trackObserved_counted {obs : Obs} {observed : ObservedPrimary} (pods : List Pod)
    (seen : obs.snap = some observed) (agreed : observed.quorumOK = true) (w : World) :
    (trackObserved pods observed).wp (fun _ => True) (fun _ final => Counted obs w final) w := by
  unfold trackObserved
  cases GoText.splitHost observed.addr.toList with
  | none => exact wp_pure.mpr (.inl rfl)
  | some host =>
      simp only [wp_ite, wp_bind, wp_read, wp_write, wp_pure, recordEvent,
        log, true_and]
      exact ⟨fun _ => .inl rfl, fun _ => .inr ⟨observed, seen, agreed, rfl⟩⟩

private theorem desiredRolesForCR_counted (pods : Pods) (obs : Obs) (w : World) :
    (desiredRolesForCR pods obs).wp (fun _ => True) (fun _ final => Counted obs w final) w := by
  simp only [desiredRolesForCR, readSnapshot, logHere, wp_bind, wp_read, wp_ite,
    wp_pure, wp_write, true_and]
  refine ⟨fun _ => .inl rfl, fun _ => ?_⟩
  cases seen : obs.snap with
  | none => exact wp_pure.mpr (.inl rfl)
  | some observed =>
      simp only [wp_ite, wp_bind, wp_pure]
      refine ⟨fun _ => .inl rfl, fun agreed => failoverLatchActive_wp (fun _ => ?_) fun _ =>
        ⟨trivial, ?_⟩⟩
      · exact ⟨fun _ => .inl rfl, fun open' => absurd rfl open'⟩
      · refine ⟨by simp, fun _ => ?_⟩
        have agreed : observed.quorumOK = true := by simpa using agreed
        exact wp_mono (trackObserved_counted pods.items seen agreed _) (fun _ => id)
          fun _ _ counted => counted

private theorem reconcileRoleLabels_counted (input : RoleLabelsInput) (w : World) :
    Counted input.relabel w ((reconcileRoleLabels input).run w).final := by
  have holds : (reconcileRoleLabels input).wp (fun _ => True)
      (fun _ final => Counted input.relabel w final) w := by
    simp only [reconcileRoleLabels, wp_ite, wp_pure, wp_bind, wp_read]
    refine ⟨fun _ => .inl rfl, fun _ => ?_⟩
    refine wp_mono (maintainFailoverDispatchMarker_final input.maintain input.clearReply w)
      (fun _ => id) fun _ maintained status => ?_
    have unchanged : SameStability w maintained := by
      obtain ⟨-, -, -, stability⟩ := w.maintained_eq input.maintain
      rw [SameStability, status.mem, stability]
    refine wp_mono (desiredRolesForCR_counted w.pods input.relabel maintained)
      (fun _ => id) fun roles decided counted => ?_
    refine wp_mono (writeRoles_sameStability input w.pods roles decided)
      (fun _ _ => trivial) fun _ final written => ?_
    rw [SameStability] at unchanged written
    rw [Counted, SameStability, written, ← unchanged]
    exact counted
  exact holds.2

/-- The observer, the settling damp and what polls resolved, newest first. -/
structure LabelState where
  observer : Option Observer := none
  stability : Option PrimaryStability := none
  resolved : List (String × Nat) := []

/-- A pass over a resource in sentinel mode. -/
structure Pass where
  world : World
  input : RoleLabelsInput := {}
  fetched : world.Fetched
  sentinel : world.v.spec.mode = .sentinel
  named : Named world.pods.items

/-- What happens to the label's owner. -/
inductive LabelAct
  | ensure (masterName password : String) (endpoints : List Endpoint) (now : Nat)
  | observe (act : ObserverAct)
  | pass (pass : Pass)
  | restart

namespace LabelState

/-- The world in which Phase 7 runs. -/
def world (pass : Pass) (state : LabelState) : World :=
  { pass.world with mem.primaryStability := state.stability }

/-- Phase 7 reads what the observer has published. -/
def input (pass : Pass) (state : LabelState) : RoleLabelsInput :=
  { pass.input with
    relabel.snap := state.observer.map fun observer => observer.snapshot.observed }

/-- What a pass does to the labels. -/
def labels (pass : Pass) (state : LabelState) : Outcome World Bool :=
  (reconcileRoleLabels (state.input pass)).run (state.world pass)

/-- What a poll has resolved, if it was one and it found agreement. -/
def resolvedBy (act : ObserverAct) (observer : Observer) : List (String × Nat) :=
  if act.isPoll ∧ (Observer.step act observer).snapshot.quorumOK then
    [((Observer.step act observer).snapshot.addr,
      (Observer.step act observer).snapshot.lastPolledAt)]
  else []

/-- One act of a run. -/
def step : LabelAct → LabelState → LabelState
  | .ensure masterName password endpoints now, state =>
      { state with observer := some (newObserver masterName password endpoints now) }
  | .observe act, state =>
      match state.observer with
      | none => state
      | some observer => { state with
          observer := some (Observer.step act observer)
          resolved := resolvedBy act observer ++ state.resolved }
  | .pass pass, state =>
      { state with stability := (state.labels pass).final.mem.primaryStability }
  | .restart, state => { state with observer := none, stability := none }

/-- A pod takes over the label at an address that two polls resolved. -/
def MovesOnTwoPolls : LabelAct → LabelState → Prop
  | .pass pass, state =>
      ∀ source ∈ pass.world.pods.items, ∀ target ∈ pass.world.pods.items,
        source.role = .primary → target.role ≠ .primary →
        (∃ w ∈ (state.labels pass).final :: (state.labels pass).trail,
          w.pods.role target.name = some .primary) →
        ∃ entry ∈ state.resolved,
          GoText.splitHost entry.1.toList = some target.podIP.toList ∧
            2 ≤ state.resolved.countP fun other => other.1 = entry.1
  | _, _ => True

/-- A pass finds what the last agreeing poll resolved; addresses differ. -/
def ReadsResolved : LabelAct → LabelState → Prop
  | .pass pass, state =>
      DistinctIPs pass.world.pods.items ∧
        ∀ observer ∈ state.observer, observer.snapshot.quorumOK = true →
          state.resolved.head?.map Prod.fst = some observer.snapshot.addr ∧
            (GoText.splitHost observer.snapshot.addr.toList).isSome = true
  | _, _ => True

instance : ∀ act state, Decidable (MovesOnTwoPolls act state)
  | .pass _, _ => inferInstanceAs (Decidable (∀ source ∈ _, _))
  | .ensure .., _ | .observe _, _ | .restart, _ => isTrue trivial

instance : ∀ act state, Decidable (ReadsResolved act state)
  | .pass _, _ => inferInstanceAs (Decidable (_ ∧ _))
  | .ensure .., _ | .observe _, _ | .restart, _ => isTrue trivial

/-- What polls resolved to an address, up to a stamp. -/
def votes (resolved : List (String × Nat)) (addr : String) (latest : Nat) : Nat :=
  resolved.countP fun entry => entry.1 = addr ∧ entry.2 ≤ latest

/-- The damp counted no more than was resolved; agreement is the newest's. -/
structure Accounted (state : LabelState) : Prop where
  streak : ∀ streak ∈ state.stability,
    streak.freshCount ≤ votes state.resolved streak.addr streak.lastPolled
  consistent : ∀ observer ∈ state.observer, observer.Consistent
  newest : ∀ observer ∈ state.observer, observer.snapshot.quorumOK = true →
    state.resolved.head?.map Prod.snd = some observer.snapshot.lastPolledAt

private theorem countP_lt_countP {α : Type*} {few many : α → Bool} {items : List α} {item : α}
    (weaker : ∀ item, few item = true → many item = true) (mem : item ∈ items)
    (new : many item = true) (old : few item = false) : items.countP few < items.countP many := by
  induction items with
  | nil => cases mem
  | cons head rest ih =>
      have rest_le : rest.countP few ≤ rest.countP many :=
        List.countP_mono_left fun item _ => weaker item
      rw [List.countP_cons, List.countP_cons]
      rcases List.mem_cons.mp mem with rfl | later
      · rw [if_pos new, if_neg (by simp [old])]
        omega
      · have later_lt := ih later
        by_cases picked : few head = true
        · rw [if_pos picked, if_pos (weaker head picked)]
          omega
        · rw [if_neg picked]
          omega

private theorem votes_cons_le (entries resolved : List (String × Nat)) (addr : String)
    (latest : Nat) : votes resolved addr latest ≤ votes (entries ++ resolved) addr latest := by
  rw [votes, votes, List.countP_append]
  exact Nat.le_add_left _ _

private theorem votes_le (resolved : List (String × Nat)) (addr : String) (latest : Nat) :
    votes resolved addr latest ≤ resolved.countP fun entry => entry.1 = addr :=
  List.countP_mono_left fun entry _ both => by simp_all

variable {resolved : List (String × Nat)} {addr : String} {polledAt : Nat}

/-- A newer vote is one that was not among the votes up to an older stamp. -/
theorem votes_lt {latest : Nat} (voted : (addr, polledAt) ∈ resolved) (newer : latest < polledAt) :
    votes resolved addr latest < votes resolved addr polledAt := by
  refine countP_lt_countP ?_ voted ?_ ?_
  · intro entry both
    simp only [decide_eq_true_eq] at both ⊢
    exact ⟨both.1, both.2.trans newer.le⟩
  · simp
  · simpa using newer

/-- Counting an address that a poll resolved stays within the votes. -/
theorem observePrimaryStability_votes (voted : (addr, polledAt) ∈ resolved)
    {stability : Option PrimaryStability} (within : ∀ streak ∈ stability,
      streak.freshCount ≤ votes resolved streak.addr streak.lastPolled) :
    (∀ streak ∈ (observePrimaryStability addr polledAt stability).1,
      streak.freshCount ≤ votes resolved streak.addr streak.lastPolled) ∧
    (observePrimaryStability addr polledAt stability).2 ≤
      resolved.countP fun entry => entry.1 = addr := by
  have bound := votes_le resolved addr
  have one : 1 ≤ votes resolved addr polledAt :=
    List.countP_pos_iff.mpr ⟨_, voted, by simp⟩
  have fresh : ∀ firstPolled, ∀ streak ∈ some (PrimaryStability.mk addr firstPolled polledAt 1),
      streak.freshCount ≤ votes resolved streak.addr streak.lastPolled := by
    intro firstPolled streak same
    cases same
    exact one
  cases stability with
  | none =>
      unfold observePrimaryStability
      split_ifs
      · exact ⟨nofun, Nat.zero_le _⟩
      · exact ⟨fresh polledAt, one.trans (bound _)⟩
  | some streak =>
      have counted := within streak rfl
      unfold observePrimaryStability
      dsimp only
      split_ifs with empty other newer
      · exact ⟨nofun, Nat.zero_le _⟩
      · exact ⟨fresh polledAt, one.trans (bound _)⟩
      · have same : streak.addr = addr := not_not.mp other
        have grown : streak.freshCount + 1 ≤ votes resolved addr polledAt := by
          rw [same] at counted
          exact Nat.lt_of_le_of_lt counted (votes_lt voted newer)
        refine ⟨?_, grown.trans (bound _)⟩
        intro next found
        cases found
        rw [same]
        exact grown
      · have same : streak.addr = addr := not_not.mp other
        refine ⟨?_, counted.trans (same ▸ bound _)⟩
        intro next found
        cases found
        exact counted

variable {state : LabelState} {observer : Observer}

/-- The newest poll that found agreement resolved this address at this stamp. -/
theorem Accounted.head_eq (accounted : state.Accounted) (runs : state.observer = some observer)
    (agreed : observer.snapshot.quorumOK = true)
    (read : state.resolved.head?.map Prod.fst = some observer.snapshot.addr) :
    (observer.snapshot.addr, observer.snapshot.lastPolledAt) ∈ state.resolved := by
  have stamp := accounted.newest observer runs agreed
  cases newest : state.resolved.head? with
  | none => simp [newest] at read
  | some entry =>
      rw [newest, Option.map_some, Option.some_inj] at read stamp
      rw [← read, ← stamp]
      exact List.mem_of_head? newest

private theorem step_observe_accounted (act : ObserverAct) (runs : state.observer = some observer)
    (accounted : state.Accounted) :
    Accounted { state with
      observer := some (Observer.step act observer)
      resolved := resolvedBy act observer ++ state.resolved } := by
  have consistent := Observer.step_consistent act observer (accounted.consistent observer runs)
  refine ⟨fun streak mem => ?_, fun after found => ?_, fun after found agreed => ?_⟩
  · exact (accounted.streak streak mem).trans (votes_cons_le _ _ _ _)
  · cases found
    exact consistent
  · cases found
    cases act with
    | poll replies now =>
        have voted : resolvedBy (.poll replies now) observer =
            [((Observer.step (.poll replies now) observer).snapshot.addr,
              (Observer.step (.poll replies now) observer).snapshot.lastPolledAt)] :=
          if_pos ⟨rfl, agreed⟩
        rw [voted]
        rfl
    | frame subscription frame now =>
        have pushed := Observer.step_frame_pushed subscription frame now observer
        have before : observer.snapshot.quorumOK = true := by
          rw [(accounted.consistent observer runs).quorumOK, ← pushed.quorum]
          exact consistent.quorumOK.mp agreed
        rw [pushed.lastPolledAt]
        exact accounted.newest observer runs before

private theorem step_pass_accounted {pass : Pass} (reads : ReadsResolved (.pass pass) state)
    (accounted : state.Accounted) : (step (.pass pass) state).Accounted := by
  refine ⟨fun streak mem => ?_, accounted.consistent, accounted.newest⟩
  rcases reconcileRoleLabels_counted (state.input pass) (state.world pass) with
    same | ⟨observed, seen, agreed, counted⟩
  · have unchanged : (step (.pass pass) state).stability = state.stability := same
    exact accounted.streak streak (unchanged ▸ mem)
  · obtain ⟨observer, runs, rfl⟩ := Option.map_eq_some_iff.mp seen
    have voted := accounted.head_eq runs agreed (reads.2 observer runs agreed).1
    exact (observePrimaryStability_votes voted accounted.streak).1 streak (counted ▸ mem)

private theorem step_accounted (act : LabelAct) (state : LabelState)
    (reads : ReadsResolved act state)
    (accounted : state.Accounted) : (step act state).Accounted := by
  cases act with
  | ensure masterName password endpoints now =>
      refine ⟨accounted.streak, fun observer found => ?_, fun observer found agreed => ?_⟩
      · cases found
        exact Observer.newObserver_consistent masterName password endpoints now
      · cases found
        cases agreed
  | observe act =>
      cases runs : state.observer with
      | none =>
          simp only [step, runs]
          exact accounted
      | some observer =>
          simp only [step, runs]
          exact step_observe_accounted act runs accounted
  | pass pass => exact step_pass_accounted reads accounted
  | restart => exact ⟨nofun, nofun, nofun⟩

private theorem moves_of_readsResolved (act : LabelAct) (state : LabelState)
    (reads : ReadsResolved act state) (accounted : state.Accounted) :
    MovesOnTwoPolls act state := by
  cases act with
  | pass pass =>
      intro source source_mem target target_mem labelled unlabelled moved
      -- The pod was assigned the role, or no state of the pass would have it labelled.
      obtain ⟨roles, decided, assigned⟩ : ∃ roles ∈ ((state.world pass).maintained
          (state.input pass).maintain).decidedRoles pass.world.pods.items
            (state.input pass).relabel, roles target = some .primary := by
        by_contra unassigned
        push Not at unassigned
        have never := @reconcileRoleLabels_unpromoted (state.input pass) target (state.world pass)
          pass.fetched target_mem unlabelled unassigned
        obtain ⟨w, reached, primary⟩ := moved
        rcases List.mem_cons.mp reached with rfl | along
        · exact never.2 primary
        · exact never.1 w along primary
      obtain ⟨v_eq, -, pods_eq, stability⟩ :=
        (state.world pass).maintained_eq (state.input pass).maintain
      have items : ((state.world pass).maintained (state.input pass).maintain).pods =
          pass.world.pods := pods_eq
      obtain ⟨observed, seen, agreed, rest⟩ := decidedRoles_move
        (w := (state.world pass).maintained (state.input pass).maintain)
        (by rw [v_eq]; exact pass.sentinel) (by rw [items]; exact pass.world.pods.distinct)
        (by rw [items]; exact pass.named) (by rw [items]; exact reads.1)
        (by rw [items]; exact source_mem) labelled (by rw [items]; exact target_mem) unlabelled
        (by rw [items]; exact decided) assigned
      obtain ⟨observer, runs, rfl⟩ := Option.map_eq_some_iff.mp seen
      obtain ⟨read, parses⟩ := reads.2 observer runs agreed
      have voted := accounted.head_eq runs agreed read
      rcases rest with malformed | ⟨at_target, fresh⟩
      · rw [ObserverSnapshot.observed] at malformed
        simp [malformed] at parses
      · rw [stability] at fresh
        exact ⟨_, voted, at_target,
          fresh.trans (observePrimaryStability_votes voted accounted.streak).2⟩
  | ensure | observe | restart => trivial

/-- The label moves only to an address that two polls resolved, if passes read resolved ones. -/
theorem passes_move_on_two_polls {acts : List LabelAct}
    (reads : Machine.Meets step ReadsResolved acts {}) :
    Machine.Meets step MovesOnTwoPolls acts {} :=
  reads.of_invariant Accounted step_accounted moves_of_readsResolved ⟨nofun, nofun, nofun⟩

/-- Two pods, of which the first one is the primary. -/
def pairWorld : World :=
  let cr : CR := { name := "vk", spec := { mode := .sentinel, replicas := 2 } }
  let old : Pod := { name := "vk-0", podIP := "10.0.0.1", role := .primary }
  let new : Pod := { name := "vk-1", podIP := "10.0.0.2", role := .replica }
  { now := 100, cr, v := cr, pods := ⟨[old, new], by decide, by decide⟩ }

def pairPass : Pass :=
  { world := pairWorld, fetched := rfl, sentinel := rfl, named := by decide }

/-- All sentinels report this address. -/
def allReport (addr : String) (now : Nat) : LabelAct :=
  .observe (.poll (fun _ => some { addr, quorumOK := true }) now)

/-- A poll resolves the first pod, a frame names the second, a pass reads it. -/
def framedMove : List LabelAct :=
  [.ensure "m" "" Observer.threeSentinels 1, allReport "10.0.0.1:6379" 10,
    .observe (.frame 0 (.switchMaster "m" "10.0.0.1:6379" "10.0.0.2:6379") 12), .pass pairPass,
    allReport "10.0.0.2:6379" 20]

/-- The next pass moves the label after one poll of the new address. -/
theorem passes_move_on_one_poll :
    (Machine.run step framedMove {}).resolved = [("10.0.0.2:6379", 20), ("10.0.0.1:6379", 10)] ∧
      ((Machine.run step framedMove {}).labels pairPass).final.pods.role "vk-1" = some .primary ∧
      ((Machine.run step framedMove {}).labels pairPass).final.pods.role "vk-0" = some .replica ∧
      ¬Machine.Meets step MovesOnTwoPolls (framedMove ++ [.pass pairPass]) {} := by
  decide

/-- Two polls resolve the second pod, with a pass after each. -/
def polledMove : List LabelAct :=
  [.ensure "m" "" Observer.threeSentinels 1, allReport "10.0.0.1:6379" 10,
    allReport "10.0.0.2:6379" 20, .pass pairPass, allReport "10.0.0.2:6379" 30]

/-- The second pass moves the label. -/
theorem passes_move_on_two_polls_pair :
    ((Machine.run step polledMove {}).labels pairPass).final.pods.role "vk-1" = some .primary ∧
      Machine.Meets step MovesOnTwoPolls (polledMove ++ [.pass pairPass]) {} := by
  exact ⟨by decide, passes_move_on_two_polls (by decide)⟩

end LabelState

end Velkir
