import Velkir.DeriveState

/-!
# Role labels

Phase 7 labels the pods by the observer's view or by the bootstrap rule, and stamps a primary before
it demotes one.
-/

namespace Velkir

open Crash Proc

/-- Some pod already carries a role. -/
def anyValkeyPodLabelled (pods : List Pod) : Bool :=
  pods.any fun pod => pod.role = .primary ∨ pod.role = .replica

/-- The bootstrap rule: ordinal zero is the primary. -/
def desiredRoleForPod (pod : Pod) (crName : String) : Role :=
  match pod.podIndex with
  | some index => if index = "0" then .primary else .replica
  | none => if pod.name = crName ++ "-0" then .primary else .replica

/-- The pod has the given nonempty address. -/
def Pod.hasIP (pod : Pod) (host : List Char) : Bool :=
  pod.podIP ≠ "" ∧ pod.podIP.toList = host

/-- Some pod has this address. -/
def podIPMatchesAny (host : List Char) (pods : List Pod) : Bool :=
  host ≠ [] ∧ pods.any fun pod => pod.hasIP host

/-- The last pod that passes the test. -/
def lastNamed (test : Pod → Bool) (pods : List Pod) : String :=
  ((pods.filter test).getLast?.map Pod.name).getD ""

/-- Fold one poll into the settling damp; also the streak's length. -/
def observePrimaryStability (addr : String) (polledAt : Nat) :
    Option PrimaryStability → Option PrimaryStability × Nat
  | none =>
      if addr = "" then (none, 0)
      else (some { addr, firstPolled := polledAt, lastPolled := polledAt, freshCount := 1 }, 1)
  | some streak =>
      if addr = "" then (none, 0)
      else if streak.addr ≠ addr then
        (some { addr, firstPolled := polledAt, lastPolled := polledAt, freshCount := 1 }, 1)
      else if streak.lastPolled < polledAt then
        (some { streak with freshCount := streak.freshCount + 1, lastPolled := polledAt },
          streak.freshCount + 1)
      else (some streak, streak.freshCount)

def newPrimaryStableMinPolls : Nat := 2

/-- A move of the primary label that too few fresh polls have confirmed. -/
def unsettledMove (host : List Char) (pods : List Pod) (freshPolls : Nat) : Bool :=
  let current := lastNamed (fun pod => pod.role = .primary) pods
  let desired := lastNamed (fun pod => pod.hasIP host) pods
  current ≠ "" ∧ desired ≠ "" ∧ current ≠ desired ∧ freshPolls < newPrimaryStableMinPolls

/-- The roles to write, per pod. No role for a pod leaves its label alone. -/
abbrev Roles := Pod → Option Role

/-- Ordinal zero is primary. -/
def bootstrapRoles (crName : String) : Roles :=
  fun pod => some (desiredRoleForPod pod crName)

/-- The assignment that follows an observed host. -/
def observedRoles (host : List Char) : Roles :=
  fun pod => some (if pod.hasIP host then .primary else .replica)

/-- Without a snapshot labels stand; unlabelled pods get bootstrap roles. -/
def rolesWithoutSnapshot (crName : String) (pods : List Pod) : Roles :=
  if anyValkeyPodLabelled pods then fun _ => none else bootstrapRoles crName

/-- The roles of an agreed primary, or nothing when suppressed. -/
def rolesFromObserved (crName : String) (pods : List Pod) (observed : ObservedPrimary)
    (freshPolls : Nat) : Option Roles :=
  match GoText.splitHost observed.addr.toList with
  | none => some (bootstrapRoles crName)
  | some host =>
      if !podIPMatchesAny host pods then none
      else if unsettledMove host pods freshPolls then none
      else some (observedRoles host)

/-- Count the fresh polls of an observed primary that is one of the pods. -/
def trackObserved (pods : List Pod) (observed : ObservedPrimary) : Proc World Nat :=
  match GoText.splitHost observed.addr.toList with
  | none => return 0
  | some host => do
      if !podIPMatchesAny host pods then
        recordEvent (.noMasterAgreement observed.addr)
        return 0
      let freshPolls ← .read fun w =>
        (observePrimaryStability observed.addr observed.lastPolledAt w.mem.primaryStability).2
      .write fun w => { w with
        mem.primaryStability := (observePrimaryStability observed.addr observed.lastPolledAt
          w.mem.primaryStability).1 }
      return freshPolls

/-- The roles the pods should have, or nothing when relabelling is suppressed. -/
def desiredRolesForCR (pods : Pods) (obs : Obs) : Proc World (Option Roles) := do
  let v ← .read World.v
  if v.spec.mode ≠ .sentinel then return some (bootstrapRoles v.name)
  let snap ← readSnapshot obs
  logHere fun w => .relabelling snap pods w.now
  match snap with
  -- without a snapshot the latch is not consulted
  | none => return some (rolesWithoutSnapshot v.name pods.items)
  | some observed =>
      if !observed.quorumOK then return none
      if ← failoverLatchActive observed.addr observed.epoch then return none
      let freshPolls ← trackObserved pods.items observed
      return rolesFromObserved v.name pods.items observed freshPolls

/-- How the API server answers Phase 7, per pod where needed. -/
structure RoleLabelsInput where
  listFails : Bool := false
  maintain : Obs := {}
  clearReply : Reply := .ok
  relabel : Obs := {}
  labelReply : String → Reply := fun _ => .ok
  gateReply : String → Reply := fun _ => .ok
  conditionReply : String → Reply := fun _ => .ok
  primaryListFails : Bool := false

/-- The replication gate is stamped on this resource's pods. -/
def replicationGateEnabled (spec : Spec) : Bool :=
  spec.mode ≠ .standalone ∧ spec.readinessGateEnabled ≠ some false

/-- The world with a patched pod. -/
def World.patchPod (name : String) (update : Pod → Pod) (notes : List Entry) (w : World) : World :=
  { w with pods := w.pods.patch name update, journal := notes ++ w.journal }

/-- Adapt a pod's replication gate to its new role, best effort. -/
def applyRoleTransitionGate (input : RoleLabelsInput) (pod : Pod) (want : Role) :
    Proc World Unit := do
  let gated := pod.readinessGates.contains .replicationReady
  match want with
  | .primary =>
      if gated then
        if input.gateReply pod.name ≠ .ok then return
        .write (World.patchPod pod.name (fun pod => { pod with
          readinessGates := pod.readinessGates.filter (· ≠ .replicationReady) }) [])
      if input.conditionReply pod.name = .ok then
        .write (World.patchPod pod.name (fun pod => { pod with
          conditions := pod.conditions.filter fun condition =>
            condition.type ≠ .replicationReady }) [])
  | .replica =>
      if !gated ∧ input.gateReply pod.name = .ok then
        .write (World.patchPod pod.name (fun pod => { pod with
          readinessGates := pod.readinessGates ++ [.replicationReady] }) [])
  | _ => return

/-- Write one pod's label. A pod that already has it is skipped. -/
def patchOne (input : RoleLabelsInput) (want : Role) (pod : Pod) : Proc World Bool := do
  if pod.role = want then return true
  if input.labelReply pod.name ≠ .ok then return false
  .write fun w => w.patchPod pod.name (fun pod => { pod with role := want })
    (.event (.podLabelReconciled pod.name pod.role want) ::
      if want = .primary then [.stamped pod.name w.now] else [])
  if replicationGateEnabled (← .read fun w => w.v.spec) then
    applyRoleTransitionGate input pod want
  return true

/-- Patch a role that passes the test. -/
def patchRole (input : RoleLabelsInput) (roles : Roles) (test : Role → Bool) (pod : Pod) :
    Proc World Bool :=
  match roles pod with
  | some want => if test want then patchOne input want pod else pure true
  | none => pure true

/-- Write the labels of the pods for which the assignment passes a test. -/
def patchRoles (input : RoleLabelsInput) (roles : Roles) (test : Role → Bool) (pods : List Pod) :
    Proc World Bool :=
  .each (patchRole input roles test) pods

/-- The events about pods that lack a role or a primary. -/
def reportUnlabelled (input : RoleLabelsInput) (roles : Roles) (pods : Pods) :
    Proc World Unit := do
  let labelled := anyValkeyPodLabelled
    (pods.items.map fun pod => { pod with role := (roles pod).getD pod.role })
  if pods.items ≠ [] ∧ !labelled then recordEvent (.allValkeyPodsDown pods.items.length)
  let w ← .read id
  if w.v.spec.mode ≠ .standalone ∧ pods.items ≠ [] ∧ !input.primaryListFails ∧
      w.pods.items.all (fun pod => pod.role ≠ .primary) then
    recordEvent (.replicationPrimaryLost pods.items.length)

/-- Write the desired roles. No roles at all leave every label alone. -/
def writeRoles (input : RoleLabelsInput) (pods : Pods) : Option Roles → Proc World Bool
  | none => return true
  | some roles => do
      -- promotions come first, so that the primary label is never absent in between
      if !(← patchRoles input roles (· = .primary) pods.items) then return false
      if !(← patchRoles input roles (· ≠ .primary) pods.items) then return false
      reportUnlabelled input roles pods
      return true

/-- Phase 7: bring the role labels in line with the desired roles. -/
def reconcileRoleLabels (input : RoleLabelsInput) : Proc World Bool := do
  if input.listFails then return false
  let pods ← .read World.pods
  maintainFailoverDispatchMarker input.maintain input.clearReply
  let roles ← desiredRolesForCR pods input.relabel
  writeRoles input pods roles

/-- No label has changed. -/
def SameRoles (before after : World) : Prop :=
  ∀ name, after.pods.role name = before.pods.role name

instance : Std.Refl SameRoles where
  refl _ _ := rfl

instance : IsTrans World SameRoles where
  trans _ _ _ first second name := (second name).trans (first name)

variable {name : String} {update : Pod → Pod} {notes : List Entry}

private theorem World.patchPod_sameRoles (keeps : ∀ pod, (update pod).role = pod.role) (w : World) :
    SameRoles w (w.patchPod name update notes) :=
  fun other => w.pods.role_patch_of_keeps name other keeps

theorem applyRoleTransitionGate_sameRoles (input : RoleLabelsInput) (pod : Pod) (want : Role) :
    Within SameRoles (applyRoleTransitionGate input pod want) := by
  have patch : ∀ (update : Pod → Pod) (notes : List Entry),
      (∀ pod, (update pod).role = pod.role) →
        Within SameRoles (Proc.write (World.patchPod pod.name update notes)) :=
    fun update notes keeps => .write (World.patchPod_sameRoles keeps)
  unfold applyRoleTransitionGate
  cases want with
  | primary =>
      refine .ite (.ite (.pure _) (.bind (patch _ _ fun _ => rfl) fun _ => ?_)) ?_ <;>
        exact .ite (patch _ _ fun _ => rfl) (.pure _)
  | replica => exact .ite (patch _ _ fun _ => rfl) (.pure _)
  | unset | other => exact .pure _

variable {input : RoleLabelsInput} {w : World} {pod : Pod} {want : Role}

private theorem patchOne_roles (listed : w.pods.role pod.name = some pod.role) :
    (patchOne input want pod).wp (fun _ => True) (fun ok final => ok = true →
      ∀ name, final.pods.role name =
        if name = pod.name then some want else w.pods.role name) w := by
  unfold patchOne
  simp only [wp_ite, wp_pure, wp_bind, wp_write, wp_read]
  have same : pod.role = want → ∀ name, w.pods.role name =
      if name = pod.name then some want else w.pods.role name := by
    intro eq name
    split
    · rename_i this
      rw [this, listed, eq]
    · rfl
  have stamped : ∀ notes name,
      (w.patchPod pod.name (fun pod => { pod with role := want }) notes).pods.role name =
        if name = pod.name then some want else w.pods.role name := by
    intro notes name
    obtain ⟨found, found_eq, -⟩ := Option.map_eq_some_iff.mp listed
    simp only [World.patchPod, Pods.role_patch]
    split
    · rename_i this
      simp [this, found_eq]
    · rfl
  refine ⟨fun eq _ => same eq, fun _ => ⟨fun _ failed => by simp at failed, fun _ =>
    ⟨trivial, fun _ => ?_, fun _ _ => stamped _⟩⟩⟩
  refine wp_mono (applyRoleTransitionGate_sameRoles input pod want _) (fun _ _ => trivial) ?_
  intro _ final kept _ name
  rw [kept name, stamped]

variable {roles : Roles} {test : Role → Bool}

private theorem patchRole_roles
    (listed : ∀ want, (roles pod).filter test = some want → w.pods.role pod.name = some pod.role) :
    (patchRole input roles test pod).wp (fun _ => True) (fun ok final => ok = true →
      ∀ name, final.pods.role name =
        if name = pod.name then ((roles pod).filter test <|> w.pods.role name)
        else w.pods.role name) w := by
  unfold patchRole
  cases assigned : roles pod with
  | none => simp
  | some want =>
      by_cases passes : test want = true
      · have chosen : (some want).filter test = some want := by simp [Option.filter, passes]
        simpa [passes, chosen] using patchOne_roles (listed want (assigned ▸ chosen))
      · have dropped : (some want).filter test = none := by simp [Option.filter, passes]
        simp [passes, dropped]

theorem patchRoles_roles {pods : List Pod} (distinct : (pods.map Pod.name).Nodup)
    (listed : ∀ pod ∈ pods, ∀ want, (roles pod).filter test = some want →
      w.pods.role pod.name = some pod.role) :
    (patchRoles input roles test pods).wp (fun _ => True) (fun ok final => ok = true →
      (∀ pod ∈ pods, final.pods.role pod.name =
        ((roles pod).filter test <|> w.pods.role pod.name)) ∧
      ∀ name, name ∉ pods.map Pod.name → final.pods.role name = w.pods.role name) w := by
  induction pods generalizing w with
  | nil => simp [patchRoles, Proc.each, Proc.chain]
  | cons pod pods ih =>
      have fresh : pod.name ∉ pods.map Pod.name := (List.nodup_cons.mp distinct).1
      unfold patchRoles
      rw [each_cons]
      refine wp_andThen (wp_mono (patchRole_roles (listed pod (by simp)))
        (fun _ => id) ?_)
      rintro (_ | _) middle first
      · simp
      · have unchanged : ∀ other ∈ pods, middle.pods.role other.name = w.pods.role other.name := by
          intro other mem
          have apart : other.name ≠ pod.name := by
            intro eq
            exact fresh (eq ▸ List.mem_map_of_mem mem)
          rw [first rfl, if_neg apart]
        have rest := ih (List.nodup_cons.mp distinct).2 (w := middle) (by
          intro other mem want chosen
          rw [unchanged other mem]
          exact listed other (by simp [mem]) want chosen)
        rw [if_pos rfl]
        refine wp_mono rest (fun _ => id) ?_
        intro ok final later success
        obtain ⟨inside, outside⟩ := later success
        refine ⟨fun other mem => ?_, fun name apart => ?_⟩
        · rcases List.mem_cons.mp mem with rfl | mem
          · rw [outside _ fresh, first rfl, if_pos rfl]
          · rw [inside other mem, unchanged other mem]
        · simp only [List.map_cons, List.mem_cons, not_or] at apart
          rw [outside name apart.2, first rfl, if_neg apart.1]

variable {pods : Pods} {observed : ObservedPrimary}

section Footprint

variable {touched : List Part} {kinds : List Kind}

theorem trackObserved_within {pods : List Pod} (event : .event ∈ kinds) :
    Within (Frame touched kinds) (trackObserved pods observed) := by
  unfold trackObserved
  cases GoText.splitHost observed.addr.toList with
  | none => exact .pure _
  | some host =>
      refine .ite (.bind (log_within event) fun _ => .pure _) (.bind (.read _) fun _ =>
        .bind (.write fun w => ⟨fun part _ => ?_, ⟨[], rfl, by simp⟩, Nat.le_refl _⟩) fun _ =>
          .pure _)
      cases part <;> simp [Part.Kept, Carried]

/-- Counting polls changes the settling damp and may record an event. -/
theorem trackObserved_final (pods : List Pod) (observed : ObservedPrimary) (w : World) :
    (trackObserved pods observed).wp (fun _ => True) (fun _ final => ∃ streak lines,
      final = { w with mem.primaryStability := streak, journal := lines ++ w.journal } ∧
        ∀ line ∈ lines, line.kind = .event) w := by
  unfold trackObserved
  cases GoText.splitHost observed.addr.toList with
  | none => exact wp_pure.mpr ⟨_, [], rfl, by simp⟩
  | some host =>
      simp only [wp_ite, wp_bind, wp_read, wp_write, wp_pure, recordEvent,
        log, true_and]
      exact ⟨fun _ => ⟨_, [_], rfl, by simp [Entry.kind]⟩, fun _ => ⟨_, [], rfl, by simp⟩⟩

theorem desiredRolesForCR_within {obs : Obs} (latch : .latch ∈ touched)
    (observed : .observed ∈ kinds) (relabelling : .relabelling ∈ kinds) (event : .event ∈ kinds) :
    Within (Frame touched kinds) (desiredRolesForCR pods obs) := by
  refine .bind (.read _) fun v => .ite (.pure _) (.bind (readSnapshot_within observed) fun snap =>
    .bind (logHere_within fun _ => relabelling) fun _ => ?_)
  cases snap with
  | none => exact .pure _
  | some primary =>
      exact .ite (.pure _) (.bind (failoverLatchActive_within latch) fun _ =>
        .ite (.pure _) (.bind (trackObserved_within event) fun _ => .pure _))

theorem World.patchPod_frame (pods : .pods ∈ touched) (lines : ∀ line ∈ notes, line.kind ∈ kinds)
    (w : World) : Frame touched kinds w (w.patchPod name update notes) := by
  refine ⟨fun part untouched => ?_, ⟨notes, rfl, lines⟩, Nat.le_refl _⟩
  cases part with
  | pods => exact absurd pods untouched
  | _ => simp [Part.Kept, Carried, World.patchPod]

theorem reportUnlabelled_within (event : .event ∈ kinds) :
    Within (Frame touched kinds) (reportUnlabelled input roles pods) := by
  exact .when (log_within event) (.bind (.read _) fun _ => .ite (log_within event) (.pure _))

end Footprint

section Writes

/-- The line of a label patch; it stamps a primary only if it may. -/
def Entry.OfPatch (mayStamp : Prop) (time : Nat) (line : Entry) : Prop :=
  line.kind = .event ∨ mayStamp ∧ ∃ pod, line = .stamped pod time

variable {relation : World → World → Prop} [Std.Refl relation] [IsTrans World relation]
  {mayStamp : Prop} {input : RoleLabelsInput}
  (patch : ∀ w name update notes, (∀ line ∈ notes, line.OfPatch mayStamp w.now) →
    relation w (World.patchPod name update notes w))

include patch

private theorem applyRoleTransitionGate_within (pod : Pod) (want : Role) :
    Within relation (applyRoleTransitionGate input pod want) := by
  have write : ∀ update : Pod → Pod,
      Within relation (Proc.write (World.patchPod pod.name update [])) :=
    fun update => .write fun w => patch w _ _ _ (by simp)
  unfold applyRoleTransitionGate
  cases want with
  | primary =>
      refine .ite (.ite (.pure _) (.bind (write _) fun _ => ?_)) ?_ <;>
        exact .ite (write _) (.pure _)
  | replica => exact .ite (write _) (.pure _)
  | unset | other => exact .pure _

private theorem patchOne_within (stamps : want = .primary → mayStamp) (pod : Pod) :
    Within relation (patchOne input want pod) := by
  refine .ite (.pure _) (.ite (.pure _) (.bind (.write fun w => patch w _ _ _ ?_)
    fun _ => .bind (.read _) fun _ =>
      .ite (.bind (applyRoleTransitionGate_within patch _ _) fun _ => .pure _) (.pure _)))
  intro line mem
  rcases List.mem_cons.mp mem with rfl | mem
  · exact .inl rfl
  · split at mem
    · rename_i promotes
      exact .inr ⟨stamps promotes, pod.name, List.mem_singleton.mp mem⟩
    · simp at mem

theorem patchRoles_within (stamps : ∀ pod, roles pod = some .primary → mayStamp)
    (test : Role → Bool) (pods : List Pod) :
    Within relation (patchRoles input roles test pods) := by
  refine .each fun pod _ => ?_
  unfold patchRole
  cases assigned : roles pod with
  | none => exact .pure _
  | some want =>
      refine .ite (patchOne_within patch (fun promotes => ?_) pod) (.pure _)
      exact stamps pod (promotes ▸ assigned)

/-- Writing the roles stamps a primary only if some pod is assigned that role. -/
theorem writeRoles_keeps (plain : Tolerates [] [.event] relation) {roles : Option Roles}
    (stamps : ∀ assigned ∈ roles, ∀ pod, assigned pod = some .primary → mayStamp) (pods : Pods) :
    Within relation (writeRoles input pods roles) := by
  cases roles with
  | none => exact .pure _
  | some roles =>
      have write : ∀ test, Within relation (patchRoles input roles test pods.items) :=
        fun test => patchRoles_within patch (stamps roles rfl) test _
      have report : Within relation (reportUnlabelled input roles pods) :=
        (reportUnlabelled_within (List.mem_singleton_self _)).mono plain
      exact .bind (write _) fun _ => .ite (.pure _) (.bind (write _) fun _ => .ite (.pure _)
        (.bind report fun _ => .pure _))

end Writes

theorem writeRoles_within (input : RoleLabelsInput) (pods : Pods) (roles : Option Roles) :
    Within (Frame [.pods] [.stamped, .event]) (writeRoles input pods roles) := by
  have patch : ∀ w name update notes, (∀ line ∈ notes, line.OfPatch True w.now) →
      Frame [.pods] [.stamped, .event] w (World.patchPod name update notes w) := by
    intro w name update notes lines
    refine World.patchPod_frame (by decide) (fun line mem => ?_) w
    rcases lines line mem with event | ⟨-, pod, rfl⟩
    · simp [event]
    · simp [Entry.kind]
  exact writeRoles_keeps patch (fun _ _ frame => frame.mono) (fun _ _ _ _ => trivial) pods

/-- Phase 7 touches the labels, the latch and the durable marker. -/
theorem reconcileRoleLabels_within (input : RoleLabelsInput) :
    Within (Frame [.pods, .dispatch, .latch]
      [.observed, .maintained, .relabelling, .stamped, .event]) (reconcileRoleLabels input) :=
  .ite (.pure _) (.bind (.read _) fun _ => .bind
    (maintainFailoverDispatchMarker_within (by decide) (by decide) (by decide) (by decide))
    fun _ => .bind (desiredRolesForCR_within (by decide) (by decide) (by decide) (by decide))
      fun _ => (writeRoles_within _ _ _).mono fun _ _ frame => frame.mono)

/-- The roles that Phase 7 decides on. -/
def World.decidedRoles (w : World) (pods : List Pod) (obs : Obs) : Option Roles :=
  if w.v.spec.mode ≠ .sentinel then some (bootstrapRoles w.v.name)
  else
    match obs.snap with
    | none => some (rolesWithoutSnapshot w.v.name pods)
    | some observed =>
        if !observed.quorumOK then none
        else if (w.observe obs).latchActive observed.addr observed.epoch then none
        else rolesFromObserved w.v.name pods observed
          (observePrimaryStability observed.addr observed.lastPolledAt w.mem.primaryStability).2

private theorem trackObserved_value {pods : List Pod} {crName : String} :
    rolesFromObserved crName pods observed ((trackObserved pods observed).run w).value =
      rolesFromObserved crName pods observed
        (observePrimaryStability observed.addr observed.lastPolledAt
          w.mem.primaryStability).2 := by
  unfold rolesFromObserved trackObserved
  cases GoText.splitHost observed.addr.toList with
  | none => rfl
  | some host =>
      by_cases named : podIPMatchesAny host pods = true
      · simp [named]
      · simp [named]

private theorem failoverLatchActive_stability (addr : String) (epoch : Int) (w : World) :
    ((failoverLatchActive addr epoch).run w).final.mem.primaryStability =
      w.mem.primaryStability := by
  have holds : (failoverLatchActive addr epoch).wp (fun _ => True)
      (fun _ final => final.mem.primaryStability = w.mem.primaryStability) w :=
    failoverLatchActive_wp (fun _ => rfl) fun _ => ⟨trivial, rfl⟩
  exact holds.2

private theorem desiredRolesForCR_value (pods : Pods) (obs : Obs) (w : World) :
    ((desiredRolesForCR pods obs).run w).value = w.decidedRoles pods.items obs := by
  unfold desiredRolesForCR World.decidedRoles
  simp only [value_bind, value_read, final_read]
  by_cases mode : w.v.spec.mode = .sentinel
  · simp only [mode, ne_eq, not_true_eq_false, ↓reduceIte]
    cases seen : obs.snap with
    | none => simp [readSnapshot, logHere, seen]
    | some observed =>
        cases quorum : observed.quorumOK with
        | false => simp [readSnapshot, logHere, seen, quorum]
        | true =>
            simp only [readSnapshot, logHere, seen, quorum, final_bind, value_bind,
              value_pure, final_pure, final_write, Bool.not_true,
              Bool.false_eq_true, ↓reduceIte, failoverLatchActive_value, World.latchActive_note,
              run_ite]
            split
            · rfl
            · simp only [value_bind, value_pure, trackObserved_value,
                failoverLatchActive_stability, World.note_mem, World.observe]
  · simp [mode]

/-- The role of a pod once Phase 7 has succeeded. -/
def World.roleAfter (w : World) (input : RoleLabelsInput) (pod : Pod) : Role :=
  (((w.maintained input.maintain).decidedRoles w.pods.items input.relabel).bind
    fun roles => roles pod).getD pod.role

/-- By bootstrap rule, observed address, or a label left alone. -/
def World.LabelsPrimary (w : World) (input : RoleLabelsInput) (pod : Pod) : Prop :=
  if w.v.spec.mode ≠ .sentinel then desiredRoleForPod pod w.v.name = .primary
  else
    match input.relabel.snap with
    | none =>
        if anyValkeyPodLabelled w.pods.items then pod.role = .primary
        else desiredRoleForPod pod w.v.name = .primary
    | some observed =>
        if !observed.quorumOK ∨ ((w.maintained input.maintain).observe input.relabel).latchActive
            observed.addr observed.epoch then pod.role = .primary
        else
          match GoText.splitHost observed.addr.toList with
          | none => desiredRoleForPod pod w.v.name = .primary
          | some host =>
              if podIPMatchesAny host w.pods.items ∧ !unsettledMove host w.pods.items
                  (observePrimaryStability observed.addr observed.lastPolledAt
                    w.mem.primaryStability).2 then pod.hasIP host = true
              else pod.role = .primary

theorem World.maintained_eq (w : World) (obs : Obs) :
    (w.maintained obs).v = w.v ∧ (w.maintained obs).cr = w.cr ∧
      (w.maintained obs).pods = w.pods ∧
      (w.maintained obs).mem.primaryStability = w.mem.primaryStability := by
  unfold World.maintained
  split
  · exact ⟨rfl, rfl, rfl, rfl⟩
  · simp only
    split <;> exact ⟨rfl, rfl, rfl, rfl⟩

theorem World.roleAfter_eq_primary_iff :
    w.roleAfter input pod = .primary ↔ w.LabelsPrimary input pod := by
  obtain ⟨v_eq, -, -, stability⟩ := w.maintained_eq input.maintain
  unfold World.roleAfter World.decidedRoles World.LabelsPrimary
  rw [v_eq, stability]
  split
  · simp [bootstrapRoles]
  · cases input.relabel.snap with
    | none =>
        simp only [rolesWithoutSnapshot, Option.bind_some]
        split <;> simp [bootstrapRoles]
    | some observed =>
        dsimp only
        cases observed.quorumOK with
        | false => simp
        | true =>
            cases ((w.maintained input.maintain).observe input.relabel).latchActive observed.addr
                observed.epoch with
            | true => simp
            | false =>
                unfold rolesFromObserved
                cases GoText.splitHost observed.addr.toList with
                | none => simp [bootstrapRoles]
                | some host => grind [observedRoles]

instance (w : World) (input : RoleLabelsInput) (pod : Pod) :
    Decidable (w.LabelsPrimary input pod) :=
  decidable_of_iff _ World.roleAfter_eq_primary_iff

/-- Maintenance decides which roles follow, whatever became of the marker. -/
theorem StatusOnly.decidedRoles {before after : World} (same : StatusOnly before after)
    (fetched : before.Fetched) (pods : List Pod) (obs : Obs) :
    after.decidedRoles pods obs = before.decidedRoles pods obs := by
  obtain ⟨name, mode⟩ : after.v.name = before.v.name ∧ after.v.spec.mode = before.v.spec.mode :=
    Prod.mk.inj (same.identity.of_same fetched)
  have latch : (after.observe obs).latchActive = (before.observe obs).latchActive := by
    funext addr epoch
    simp only [World.latchActive, World.observe, same.mem, same.now]
  simp only [World.decidedRoles, name, mode, same.mem, latch]

theorem Pods.role_of_mem (mem : pod ∈ pods.items) : pods.role pod.name = some pod.role :=
  Pods.role_eq_some_iff.mpr ⟨pod, mem, rfl, rfl⟩

theorem Pods.role_eq_none (apart : name ∉ pods.items.map Pod.name) : pods.role name = none := by
  cases found : pods.role name with
  | none => rfl
  | some role =>
      obtain ⟨pod, mem, rfl, -⟩ := Pods.role_eq_some_iff.mp found
      exact absurd (List.mem_map_of_mem mem) apart

/-- Writing the promotions and then the demotions writes the whole assignment. -/
theorem patchRoles_both :
    (patchRoles input roles (· = .primary) w.pods.items).wp (fun _ => True)
      (fun ok middle => ok = true →
        (patchRoles input roles (· ≠ .primary) w.pods.items).wp (fun _ => True)
          (fun ok final => ok = true →
            (∀ pod ∈ w.pods.items,
              final.pods.role pod.name = some ((roles pod).getD pod.role)) ∧
            ∀ name, name ∉ w.pods.items.map Pod.name → final.pods.role name = none) middle) w := by
  refine wp_mono (patchRoles_roles w.pods.distinct fun pod mem _ _ => Pods.role_of_mem mem)
    (fun _ => id) ?_
  intro ok middle first success
  obtain ⟨promoted, others⟩ := first success
  have unpromoted : ∀ pod ∈ w.pods.items, ∀ want,
      (roles pod).filter (· ≠ .primary) = some want →
        middle.pods.role pod.name = some pod.role := by
    intro pod mem want chosen
    rw [promoted pod mem, Pods.role_of_mem mem]
    cases assigned : roles pod with
    | none => rfl
    | some role =>
        have demotion : role ≠ .primary := by
          obtain ⟨same, other⟩ := Option.filter_eq_some_iff.mp (assigned ▸ chosen)
          simpa [Option.some.inj same] using other
        simp [Option.filter, demotion]
  refine wp_mono (patchRoles_roles w.pods.distinct unpromoted) (fun _ => id) ?_
  intro ok final second success
  obtain ⟨demoted, others'⟩ := second success
  refine ⟨fun pod mem => ?_, fun name apart => ?_⟩
  · rw [demoted pod mem, promoted pod mem, Pods.role_of_mem mem]
    cases assigned : roles pod with
    | none => simp
    | some role => by_cases primary : role = .primary <;> simp [Option.filter, primary]
  · rw [others' name apart, others name apart, Pods.role_eq_none apart]

/-- The decision of Phase 7: maintain the marker, derive the roles. -/
def decideRoles (input : RoleLabelsInput) (pods : Pods) : Proc World (Option Roles) := do
  maintainFailoverDispatchMarker input.maintain input.clearReply
  desiredRolesForCR pods input.relabel

theorem decideRoles_wp (fetched : w.Fetched) :
    (decideRoles input w.pods).wp (fun after => after.pods = w.pods) (fun roles after =>
      roles = (w.maintained input.maintain).decidedRoles w.pods.items input.relabel ∧
        after.pods = w.pods) w := by
  obtain ⟨v_eq, cr_eq, pods_eq, -⟩ := w.maintained_eq input.maintain
  have maintain : Within (Frame [.dispatch, .latch] [.observed, .maintained])
      (maintainFailoverDispatchMarker input.maintain input.clearReply) :=
    maintainFailoverDispatchMarker_within (by decide) (by decide) (by decide) (by decide)
  have desire : Within (Frame [.latch] [.observed, .relabelling, .event])
      (desiredRolesForCR w.pods input.relabel) :=
    desiredRolesForCR_within (by decide) (by decide) (by decide) (by decide)
  rw [decideRoles, wp_bind]
  refine wp_mono (wp_and (maintain w)
    (maintainFailoverDispatchMarker_final input.maintain input.clearReply w))
    (fun middle reached => reached.1.kept .pods (by decide)) ?_
  rintro _ middle ⟨-, status⟩
  have middle_pods : middle.pods = w.pods := status.pods.trans pods_eq
  have decided : ((desiredRolesForCR w.pods input.relabel).run middle).value =
      (w.maintained input.maintain).decidedRoles w.pods.items input.relabel := by
    rw [desiredRolesForCR_value]
    refine status.decidedRoles ?_ _ _
    simpa only [World.Fetched, v_eq, cr_eq] using fetched
  have kept : ∀ after, Frame [.latch] [.observed, .relabelling, .event] middle after →
      after.pods = w.pods := fun after frame =>
    Eq.trans (frame.kept .pods (by decide)) middle_pods
  exact ⟨fun after mem => kept after ((desire middle).1 after mem), decided,
    kept _ (desire middle).2⟩

/-- Phase 7 writes the decided roles over pods that are as they were. -/
theorem reconcileRoleLabels_wp (fetched : w.Fetched) {along : World → Prop}
    {post : Bool → World → Prop} (start : ∀ after : World, after.pods = w.pods → along after)
    (failed : post false w) (write : ∀ after : World, after.pods = w.pods →
      (writeRoles input w.pods ((w.maintained input.maintain).decidedRoles w.pods.items
        input.relabel)).wp along post after) : (reconcileRoleLabels input).wp along post w := by
  have decision := @decideRoles_wp input w fetched
  rw [decideRoles, wp_bind] at decision
  simp only [reconcileRoleLabels, wp_ite, wp_pure, wp_bind, wp_read]
  refine ⟨fun _ => failed, fun _ => ?_⟩
  refine wp_mono decision start fun _ middle decision => ?_
  refine wp_mono decision start ?_
  rintro _ after ⟨rfl, same⟩
  exact write after same

theorem reconcileRoleLabels_roles (fetched : w.Fetched) :
    (reconcileRoleLabels input).wp (fun _ => True) (fun ok final => ok = true →
      (∀ pod ∈ w.pods.items, final.pods.role pod.name = some (w.roleAfter input pod)) ∧
      ∀ name, name ∉ w.pods.items.map Pod.name → final.pods.role name = none) w := by
  refine reconcileRoleLabels_wp fetched (fun _ _ => trivial) nofun fun start same_pods => ?_
  cases decided : (w.maintained input.maintain).decidedRoles w.pods.items input.relabel with
  | none =>
      simp only [writeRoles, wp_pure, forall_const, same_pods, World.roleAfter, decided]
      exact ⟨fun pod mem => Pods.role_of_mem mem, fun name apart => Pods.role_eq_none apart⟩
  | some roles =>
      simp only [writeRoles, wp_bind, wp_ite, wp_pure, World.roleAfter, decided,
        Option.bind_some]
      refine wp_mono (same_pods ▸ patchRoles_both (w := start)) (fun _ => id) ?_
      intro ok middle first
      refine ⟨fun failed => by simp at failed ⊢, fun promoted => ?_⟩
      refine wp_mono (first (by simpa using promoted)) (fun _ => id) ?_
      intro ok final second
      refine ⟨fun failed => by simp at failed ⊢, fun demoted => ?_⟩
      have report : Within (Frame [] [.event]) (reportUnlabelled input roles w.pods) :=
        reportUnlabelled_within (by decide)
      refine wp_mono (report final) (fun _ _ => trivial) fun _ last frame _ => ?_
      have kept : last.pods = final.pods := frame.kept .pods (by decide)
      rw [kept]
      exact second (by simpa using demoted)

theorem reconcileRoleLabels_primary (fetched : w.Fetched)
    (success : ((reconcileRoleLabels input).run w).value = true) :
    ((reconcileRoleLabels input).run w).final.pods.role name = some .primary ↔
      ∃ stored ∈ w.pods.items, stored.name = name ∧ w.LabelsPrimary input stored := by
  obtain ⟨inside, outside⟩ := (reconcileRoleLabels_roles fetched).2 success
  constructor
  · intro primary
    by_cases stored : name ∈ w.pods.items.map Pod.name
    · obtain ⟨pod, mem, rfl⟩ := List.mem_map.mp stored
      rw [inside pod mem, Option.some_inj, World.roleAfter_eq_primary_iff] at primary
      exact ⟨pod, mem, rfl, primary⟩
    · simp [outside name stored] at primary
  · rintro ⟨stored, mem, rfl, primary⟩
    rw [inside stored mem, Option.some_inj, World.roleAfter_eq_primary_iff]
    exact primary

theorem reconcileRoleLabels_succeeds (input : RoleLabelsInput) (w : World)
    (listed : input.listFails = false) (replies : ∀ name, input.labelReply name = .ok) :
    ((reconcileRoleLabels input).run w).value = true := by
  have one : ∀ want pod state, ((patchOne input want pod).run state).value = true := by
    intro want pod state
    simp only [patchOne, replies, ne_eq, not_true_eq_false, ↓reduceIte, run_ite]
    split
    · rfl
    · simp only [value_bind, value_read]
      split <;> rw [run_ite] <;> split <;> rfl
  have all : ∀ roles test pods state,
      ((patchRoles input roles test pods).run state).value = true := by
    intro roles test pods state
    refine each_succeeds fun pod _ middle => ?_
    unfold patchRole
    split
    · rw [run_ite]
      split
      · exact one _ pod middle
      · rfl
    · rfl
  simp only [reconcileRoleLabels, writeRoles, listed, Bool.false_eq_true, ↓reduceIte,
    value_bind]
  split
  · rfl
  · simp [all]

end Velkir
