import Velkir.Reconcile

/-!
# The storage-loss gate of a fresh resource

The gate takes the finalizer as the sign that a StatefulSet was created, but the finalizer is
written first.
-/

namespace Velkir

open Crash Proc History

/-- A StatefulSet was created. -/
def Created (journal : List Entry) : Prop :=
  ∃ line ∈ journal, line.kind = .created

instance : DecidablePred Created := fun journal =>
  inferInstanceAs (Decidable (∃ line ∈ journal, _))

/-- The gate refuses only after a creation. -/
def RefusesBootstrapped (line : Entry) (before : List Entry) : Prop :=
  line.kind = .refused → Created before

/-- The pass writes the finalizer onto a resource without one. -/
structure PassInput.Stamps (input : PassInput) (w : World) : Prop where
  fetched : w.gone = false ∧ input.fetchFails = false
  live : w.cr.annotations.paused ≠ some "true" ∧ w.cr.deleting = false
  unmarked : w.cr.finalizer = false
  accepted : input.finalizerReply = .ok

/-- Nothing stops the pass between the finalizer and the StatefulSet. -/
structure PassInput.Completes (input : PassInput) (w : World) : Prop where
  unlocked : input.lockContended = false
  secret : w.cr.spec.authSecretName = "" ∨ input.auth.secret ≠ .unavailable
  listed : input.listPodsFails = false ∧ input.getSTSFails = false
  configMaps : input.configMapsFail = false
  claims : input.resize.listFails = false ∧ w.pvcs = [] ∧ w.cr.status.pvcResize = none
  serviceAccounts : input.serviceAccountsFail = false
  applied : input.statefulSet.getFails = false ∧ input.statefulSet.applyReply = .ok

/-- The world where a pass is cut. -/
def World.cut (input : PassInput) (writes : Nat) (w : World) : World :=
  (((reconcile input).run w).trail.take writes).getLastD w

/-- No pass stops between writing the finalizer and creating the StatefulSet. -/
def MarksBootstrapped : Act PassInput Drift → World → Prop
  | .call input, w => input.Stamps w → w.sts = none → input.Completes w
  | .crash input writes, w =>
      w.cr.finalizer = false → (w.cut input writes).cr.finalizer = true →
        (w.cut input writes).sts ≠ none
  | .drift _, _ => True

variable {kinds : List Kind} {touched : List Part} {before : List Entry}

section Journal

theorem Created.of_frame {before after : World} (created : Created before.journal)
    (frame : Frame touched kinds before after) : Created after.journal := by
  obtain ⟨line, mem, kind⟩ := created
  obtain ⟨lines, journal, -⟩ := frame.journal
  exact ⟨line, by simp [journal, mem], kind⟩

theorem created_tolerates : Tolerates touched kinds (Keeps fun w => Created w.journal) :=
  fun _ _ frame created => created.of_frame frame

private theorem refusesBootstrapped_of_created (created : Created before) (line : Entry) :
    RefusesBootstrapped line before :=
  fun _ => created

end Journal

/-- The resource was bootstrapped, so that the gate may refuse. -/
structure Bootstrapped (w : World) : Prop where
  created : Created w.journal
  refusals : Always RefusesBootstrapped w.journal

private theorem bootstrapped_tolerates : Tolerates touched kinds (Keeps Bootstrapped) := by
  intro before after frame bootstrapped
  refine ⟨bootstrapped.created.of_frame frame, ?_⟩
  obtain ⟨lines, journal, -⟩ := frame.journal
  obtain ⟨line, mem, kind⟩ := bootstrapped.created
  rw [journal]
  refine bootstrapped.refusals.extend fun _ _ others _ => refusesBootstrapped_of_created ?_ _
  exact ⟨line, by simp [mem], kind⟩

theorem bootstrapped_rules (input : PassInput) :
    PassRules Bootstrapped Bootstrapped Bootstrapped input :=
  .of_tolerates bootstrapped_tolerates
    (fun _ => (reconcileStatefulSet_within _ _).mono bootstrapped_tolerates)
    fun _ _ _ => (reconcilePodRollout_within _ _ _ _).mono bootstrapped_tolerates

/-- A stored StatefulSet was created, and refusals are right so far. -/
structure Accounted (w : World) : Prop where
  stored : w.sts ≠ none → Created w.journal
  refusals : Always RefusesBootstrapped w.journal

/-- The parts and lines other than the StatefulSet and refusals. -/
def accountedParts : List Part :=
  [.pods, .pvcs, .stored, .identity, .dispatch, .watchdog, .resize, .latch, .lastState]

private def accountedKinds : List Kind := Kind.but [.refused]

private theorem always_refusesBootstrapped {lines : List Entry}
    (right : Always RefusesBootstrapped before)
    (kinds : ∀ line ∈ lines, line.kind ∈ accountedKinds) :
    Always RefusesBootstrapped (lines ++ before) := by
  refine right.append fun line mem _ refused => ?_
  have kind := kinds line mem
  simp [refused, accountedKinds] at kind

theorem accounted_tolerates :
    Tolerates accountedParts accountedKinds (Keeps Accounted) := by
  intro before after frame accounted
  refine ⟨fun present => (accounted.stored fun missing => present ?_).of_frame frame, ?_⟩
  · have kept : after.sts.map StatefulSet.template = before.sts.map StatefulSet.template :=
      frame.kept .sts (by decide)
    simpa [missing] using kept
  · obtain ⟨lines, journal, kinds⟩ := frame.journal
    rw [journal]
    exact always_refusesBootstrapped accounted.refusals kinds

variable {w : World}

private theorem Accounted.applySTS (accounted : Accounted w) (sts : StatefulSet) :
    Accounted (w.applySTS sts) := by
  unfold World.applySTS
  cases found : w.sts with
  | some existing => exact ⟨fun _ => accounted.stored (by simp [found]), accounted.refusals⟩
  | none =>
      exact ⟨fun _ => ⟨_, List.mem_cons_self, rfl⟩,
        .cons (fun refused => by simp [Entry.kind] at refused) accounted.refusals⟩

private theorem reconcileStatefulSet_accounted (state : State) (input : StatefulSetInput) :
    Within (Keeps Accounted) (reconcileStatefulSet state input) :=
  reconcileStatefulSet_keeps (fun _ _ frame => accounted_tolerates _ _ frame.mono)
    (fun sts _ accounted => accounted.applySTS sts) state input

private theorem reconcilePVCResize_accounted (input : PVCResizeInput) :
    Within (Keeps Accounted) (reconcilePVCResize input) := by
  refine reconcilePVCResize_keeps (fun sts w accounted => ⟨by simp, .cons ?_ accounted.refusals⟩)
    (fun _ _ frame => accounted_tolerates _ _ frame.mono) input
  simp [RefusesBootstrapped, Entry.kind]

private theorem accounted_rules (input : PassInput) :
    BodyRules Accounted Accounted Accounted Accounted input :=
  have tolerates : Tolerates restParts restKinds (Keeps Accounted) :=
    fun _ _ frame => accounted_tolerates _ _ frame.mono
  .of_tolerates (fun _ => id) tolerates tolerates (reconcilePVCResize_accounted _)
    (fun _ => reconcileStatefulSet_accounted _ _)
    fun _ _ _ => accounted_tolerates.within (reconcilePodRollout_within _ _ _ _)

variable {input : PassInput}

/-- A pass over an unmarked resource refuses nothing. -/
theorem reconcile_accounted (unmarked : w.cr.finalizer = false) (accounted : Accounted w) :
    (reconcile input).wp Accounted (fun _ => Accounted) w := by
  have forget := accounted_tolerates _ _ (w.forget_frame).mono accounted
  have fetched := accounted_tolerates _ _ (w.fetch_frame).mono accounted
  have gate : Within (Keeps Accounted)
      (detectPVCLossAndGate w.cr.finalizer input.pvcLoss) := by
    simp only [detectPVCLossAndGate, unmarked, Bool.not_false, true_or, if_true]
    exact .bind (.read _) fun _ => .pure _
  exact (accounted_rules input).reconcile_wp (fun _ => id) accounted ⟨forget, forget⟩ fetched gate
    (fun _ => id) fun paused _ here _ => (finishPass_keeps
      (fun _ _ frame => accounted_tolerates _ _ frame.mono) paused input).wp here

/-- Nothing was created yet. -/
structure Pristine (w : World) : Prop where
  sts : w.sts = none
  pvcs : w.pvcs = []
  stored : w.cr.status.pvcResize = none
  working : w.v.status.pvcResize = none

private theorem pristine_tolerates :
    Tolerates [.pods, .stored, .identity, .dispatch, .watchdog, .latch, .lastState] kinds
      (Keeps Pristine) := by
  intro before after frame pristine
  have sts : after.sts.map StatefulSet.template = before.sts.map StatefulSet.template :=
    frame.kept .sts (by decide)
  have pvcs : after.pvcs = before.pvcs := frame.kept .pvcs (by decide)
  have resize : Carried (fun cr => cr.status.pvcResize) before after :=
    frame.kept .resize (by decide)
  refine ⟨by simpa [pristine.sts] using sts, pvcs.trans pristine.pvcs,
    resize.1.trans pristine.stored, ?_⟩
  exact (resize.of_same (pristine.working.trans pristine.stored.symm)).trans pristine.working

/-- Without claims and without a resize there is nothing to do for Phase 4. -/
theorem reconcilePVCResize_pristine {input : PVCResizeInput} (pristine : Pristine w)
    (listed : input.listFails = false) :
    (reconcilePVCResize input).wp (fun _ => True)
      (fun ok final => ok = true ∧ Pristine final) w := by
  have phase : currentPVCResizePhase w.v = .unset := by
    simp [currentPVCResizePhase, pristine.working]
  have noted : ∀ line, Pristine (w.note line) := fun _ =>
    ⟨pristine.sts, pristine.pvcs, pristine.stored, pristine.working⟩
  unfold reconcilePVCResize
  simp only [logHere, wp_bind, wp_write, wp_read, World.note_v, true_and]
  cases w.v.spec.persistence with
  | none => simpa [clearPVCResizeStatus, pristine.working] using noted _
  | some desired =>
      simpa [listed, pristine.pvcs, storageClassUnreadable, detect, phase, clearPVCResizeStatus,
        pristine.working] using noted _

private theorem reconcileStatefulSet_creates {state : State} {input : StatefulSetInput}
    (pristine : Pristine w) (readable : input.getFails = false) (applied : input.applyReply = .ok) :
    (reconcileStatefulSet state input).wp (fun _ => True)
      (fun ok final => ok = true ∧ Created final.journal) w := by
  have unguarded : isPVCResizeGuardingPhase2 (currentPVCResizePhase w.v) = false := by
    simp [currentPVCResizePhase, pristine.working, isPVCResizeGuardingPhase2]
  simp [reconcileStatefulSet, unguarded, readable, pristine.sts, applySTS, logHere, applied,
    World.applySTS, Created, Entry.kind]

private theorem applyDesiredState_creates {start : World} {derived : State × ObservedFacts}
    {pods : List Pod} {sts : Option StatefulSet} (pristine : Pristine w)
    (completes : input.Completes start) :
    (applyDesiredState input derived pods sts).wp (fun _ => True)
      (fun _ final => Created final.journal) w := by
  have keeps : ∀ {touched kinds} {proc : Proc World Bool}, Within (Frame touched kinds) proc →
      Within (Keeps fun w => Created w.journal) proc := fun within =>
    within.mono created_tolerates
  have consult : ∀ site obs, Within (Keeps fun w => Created w.journal)
      (isFailoverInFlight site obs) := fun _ _ =>
    (isFailoverInFlight_frame _ _).mono created_tolerates
  unfold applyDesiredState
  refine wp_andThen (wp_pure.mpr ?_)
  simp only [completes.configMaps, Bool.not_false, if_true]
  refine wp_andThen (wp_mono (reconcilePVCResize_pristine pristine completes.claims.1)
    (fun _ => id) ?_)
  rintro _ quiet ⟨rfl, pristine⟩
  simp only [if_true]
  refine wp_andThen (wp_pure.mpr ?_)
  simp only [completes.serviceAccounts, Bool.not_false, if_true]
  refine wp_andThen (wp_mono (reconcileStatefulSet_creates pristine
    completes.applied.1 completes.applied.2) (fun _ => id) ?_)
  rintro _ middle ⟨rfl, created⟩
  -- What comes after Phase 2 only adds to the journal.
  have rest := Within.andThen
    (reconcileSentinelInfra_within consult derived.1 input.sentinelInfra
      fun _ _ frame => created_tolerates _ _ frame)
    (.andThen (.pure (!input.servicesFail)) (.andThen
      (.bind (.write fun w => created_tolerates _ _ (w.drift_frame input.beforeLabels))
        fun _ => .pure true)
      (.andThen (keeps (reconcileRoleLabels_within input.labels)) (.andThen
        (.bind (consultAll_within consult .orphanMaster input.orphanMasters) fun _ => .pure true)
        (.andThen (reconcileReadinessGates_within consult
          (fun _ _ frame => created_tolerates _ _ frame) input.readiness)
        (.andThen (keeps (reconcilePodRollout_within derived.2.quorumOK pods sts input.rollout))
        (.andThen (.bind (reconcileSentinelOrchestration_within derived.1 input.orchestration
          consult fun w start _ =>
            ((runPrimaryRolloutDispatch_within _ _).mono created_tolerates).wp start)
              fun _ => .pure true) (.pure true))))))))
  exact wp_mono (rest.wp created) (fun _ _ => trivial) fun _ _ => id

private theorem resolveAuth_succeeds {input : AuthInput}
    (secret : w.v.spec.authSecretName = "" ∨ input.secret ≠ .unavailable) :
    (resolveAuth input).wp (fun _ => True) (fun ok _ => ok = true) w := by
  have rotate : ∀ hash, (maybeRotateAuth input hash).wp (fun _ => True)
      (fun _ => (pure true : Proc World Bool).wp (fun _ => True) fun ok _ => ok = true) w :=
    fun _ => ⟨fun _ _ => trivial, wp_pure.mpr rfl⟩
  unfold resolveAuth
  simp only [wp_bind, wp_read, wp_ite]
  refine ⟨fun _ => rotate "", fun named => ?_⟩
  cases found : input.secret with
  | unavailable => exact absurd found (secret.resolve_left named)
  | found hash => exact wp_bind.mpr (rotate hash)

private theorem reconcilePhases_creates {start : World} (pristine : Pristine w)
    (secret : w.v.spec.authSecretName = "" ∨ input.auth.secret ≠ .unavailable)
    (completes : input.Completes start) :
    (reconcilePhases false input).wp (fun _ => True) (fun _ final => Created final.journal) w := by
  have auth : Within (Keeps Pristine) (resolveAuth input.auth) :=
    resolveAuth_within _ (fun _ _ frame => pristine_tolerates _ _
      (frame.mono (by decide) (List.Subset.refl _)))
      fun _ _ => pristine_tolerates.within (isFailoverInFlight_frame _ _) (by decide)
        (List.Subset.refl _)
  unfold reconcilePhases
  have resolved := (resolveAuth_succeeds secret).2
  have pristine := (auth.wp pristine).2
  refine wp_andThen ⟨fun _ _ => trivial, ?_⟩
  simp only [resolved, if_true]
  refine wp_andThen ?_
  simp only [detectPVCLossAndGate, wp_bind, wp_read, Bool.not_false, true_or, if_true,
    wp_pure]
  have apply : (observeAndApply input).wp (fun _ => True) (fun _ final => Created final.journal)
      ((resolveAuth input.auth).run w).final := by
    simp only [observeAndApply, completes.listed.1, completes.listed.2, Bool.false_eq_true,
      or_self, if_false, wp_bind, wp_read]
    have observe : ∀ pods sts, Within (Keeps Pristine)
        (observeRolloutState pods sts input.observe) := fun _ _ =>
      pristine_tolerates.within (observeRolloutState_within _ _ _) (by decide) (List.Subset.refl _)
    exact wp_mono ((observe _ _).wp pristine) (fun _ _ => trivial) fun _ _ here =>
      applyDesiredState_creates here completes
  refine wp_andThen (wp_mono apply (fun _ => id) ?_)
  rintro (_ | _) middle created
  · exact created
  · have clear : Within (Keeps fun w => Created w.journal)
        (clearSingleShotAnnotations input.annotationsReply) :=
      (clearSingleShotAnnotations_within _).mono created_tolerates
    exact wp_mono ((clear.andThen (.pure true)).wp created) (fun _ _ => trivial) fun _ _ => id

/-- The finalizer of a resource stands for a created StatefulSet. -/
def Marked (w : World) : Prop :=
  w.cr.finalizer = true → Created w.journal

theorem marked_tolerates :
    Tolerates [.pods, .sts, .pvcs, .identity, .dispatch, .watchdog, .resize, .latch, .lastState]
      kinds (Keeps Marked) := by
  intro before after frame marked present
  have kept := (frame.kept .stored (by decide)).1
  exact (marked (kept.symm.trans present)).of_frame frame

private theorem finishPass_marked (paused : Bool) (input : PassInput) :
    Within (Keeps Marked) (finishPass paused input) :=
  .bind (.write fun _ => id) fun _ =>
    .bind (marked_tolerates.within (evaluateRolloutWatchdog_within _) (by decide)
      (List.Subset.refl _)) fun _ =>
      .bind (marked_tolerates.within (updateStatus_within _ _) (by decide) (List.Subset.refl _))
        fun _ => .pure _

private theorem deleteCR_unmarked (input : DeletionInput) :
    Within (Keeps fun w => w.cr.finalizer = false) (deleteCR input) := by
  have unmarked : Tolerates [.pvcs] [] (Keeps fun w => w.cr.finalizer = false) :=
    fun _ _ frame unmarked => (frame.kept .stored (by decide)).1.trans unmarked
  refine .bind (.ite (.pure _) (.bind (.read _) fun _ => .bind
    ((retainClaims_within (by decide) _).mono unmarked)
      fun _ => .ite (.pure _) (.ite (.pure _) (.ite (.pure _) (.bind (.write fun _ _ => rfl)
        fun _ => .pure _))))) fun _ => ?_
  exact .ite (.write fun _ => id) (.pure _)

/-- The phases mark a resource only if they create the StatefulSet. -/
theorem reconcileBody_marked (unmarked : w.cr.finalizer = false) (missing : w.sts = none)
    (fetched : w.gone = false ∧ input.fetchFails = false)
    (completes : input.Stamps w → input.Completes w) :
    (reconcileBody w.fetch.v input).wp (fun _ => True) (fun _ => Marked) w.fetch := by
  have idle : Marked w.fetch := fun present => by simp [World.fetch, unmarked] at present
  have copy : w.fetch.v.finalizer = false := unmarked
  unfold reconcileBody
  refine wp_ite.mpr ⟨fun _ => wp_pure.mpr idle, fun live => ?_⟩
  refine wp_bind.mpr (ensurePVCRetentionFinalizer_wp (fun skipped => ?_) (fun _ _ => ?_)
    fun present _ accepted _ => ⟨trivial, ?_⟩)
  · have deleting : w.fetch.v.deleting = true := skipped.resolve_right (by simp [copy])
    simp only [deleting, Bool.not_true, Bool.false_eq_true, if_false, wp_ite, wp_pure,
      wp_bind, if_true]
    refine ⟨fun _ => idle, fun _ => ?_⟩
    exact wp_mono ((deleteCR_unmarked input.deletion).wp unmarked) (fun _ _ => trivial)
      fun _ _ still present => by simp [still] at present
  · exact wp_pure.mpr idle
  · have done := completes ⟨fetched, ⟨live, present⟩, unmarked, accepted⟩
    have pristine : Pristine w.fetch.stamped :=
      ⟨missing, done.claims.2.1, done.claims.2.2, done.claims.2.2⟩
    simp only [Bool.not_true, Bool.false_eq_true, if_false, done.unlocked, present, copy,
      wp_bind]
    exact wp_mono (reconcilePhases_creates pristine done.secret done) (fun _ => id)
      fun _ _ created => wp_pure.mpr fun _ => created

/-- A pass marks a resource only if it creates the StatefulSet. -/
theorem reconcile_marked (unmarked : w.cr.finalizer = false) (missing : w.sts = none)
    (completes : input.Stamps w → input.Completes w) :
    (reconcile input).wp (fun _ => True) (fun _ => Marked) w := by
  have idle : Marked w := fun present => by simp [unmarked] at present
  unfold reconcile reconcileFetched forgetCR
  simp only [wp_bind, wp_read, wp_ite, wp_pure, wp_write]
  refine ⟨fun _ => ⟨trivial, marked_tolerates _ _ (w.forget_frame.mono (by decide)
    (List.Subset.refl _)) idle⟩, fun there => ⟨fun _ => idle, fun readable => ⟨trivial, ?_⟩⟩⟩
  have fetched : w.gone = false ∧ input.fetchFails = false :=
    ⟨by simpa using there, by simpa using readable⟩
  refine wp_mono (reconcileBody_marked unmarked missing fetched completes) (fun _ => id)
    fun _ middle marked => ⟨fun _ => ?_, fun _ => marked⟩
  exact wp_mono ((finishPass_marked _ input).wp marked) (fun _ _ => trivial) fun _ _ => id

/-- Between acts, finalizer and StatefulSet both stand for a creation. -/
structure Bootstrap (w : World) : Prop where
  accounted : Accounted w
  marked : Marked w

theorem Bootstrapped.bootstrap (bootstrapped : Bootstrapped w) : Bootstrap w :=
  ⟨⟨fun _ => bootstrapped.created, bootstrapped.refusals⟩, fun _ => bootstrapped.created⟩

theorem Bootstrap.bootstrapped (bootstrap : Bootstrap w) (created : Created w.journal) :
    Bootstrapped w :=
  ⟨created, bootstrap.accounted.refusals⟩

private theorem bootstrap_call (bootstrap : Bootstrap w)
    (completes : input.Stamps w → w.sts = none → input.Completes w) :
    Bootstrap ((reconcile input).run w).final := by
  have keeps : Created w.journal → Bootstrap ((reconcile input).run w).final := fun created =>
    ((bootstrapped_rules input).reconcile_keeps (bootstrap.bootstrapped created)).2.bootstrap
  cases marked : w.cr.finalizer with
  | true => exact keeps (bootstrap.marked marked)
  | false =>
      by_cases missing : w.sts = none
      · exact ⟨(reconcile_accounted marked bootstrap.accounted).2,
          (reconcile_marked marked missing fun stamps => completes stamps missing).2⟩
      · exact keeps (bootstrap.accounted.stored missing)

private theorem Bootstrap.forget (bootstrap : Bootstrap w) : Bootstrap w.forget :=
  ⟨accounted_tolerates _ _ w.forget_frame.mono bootstrap.accounted,
    marked_tolerates _ _ (w.forget_frame.mono (by decide) (List.Subset.refl _)) bootstrap.marked⟩

private theorem bootstrap_crash {writes : Nat} (bootstrap : Bootstrap w)
    (covered : w.cr.finalizer = false → (w.cut input writes).cr.finalizer = true →
      (w.cut input writes).sts ≠ none) : Bootstrap (operator.exec (.crash input writes) w) := by
  cases marked : w.cr.finalizer with
  | true =>
      have bootstrapped := bootstrap.bootstrapped (bootstrap.marked marked)
      exact System.exec_crash bootstrapped ((bootstrapped_rules input).reconcile_keeps bootstrapped)
        fun _ middle => middle.bootstrap.forget
  | false =>
      have accounted : Accounted (w.cut input writes) := wp_cut bootstrap.accounted
        (reconcile_accounted marked bootstrap.accounted)
      have cut : Bootstrap (w.cut input writes) :=
        ⟨accounted, fun present => accounted.stored (covered marked present)⟩
      exact cut.forget

private theorem Bootstrap.drift (bootstrap : Bootstrap w) (change : Drift) :
    Bootstrap (w.drift change) :=
  ⟨accounted_tolerates _ _ (w.drift_frame change).mono bootstrap.accounted, bootstrap.marked⟩

/-- If no pass stops between finalizer and creation, the gate refuses only after a creation. -/
theorem operator_refusesBootstrapped (acts : List (Act PassInput Drift)) {w : World}
    (start : w.journal = []) (unmarked : w.cr.finalizer = false) (missing : w.sts = none)
    (marks : operator.Meets MarksBootstrapped acts w) :
    Always RefusesBootstrapped (operator.run acts w).journal := by
  have begins : Bootstrap w :=
    ⟨⟨fun present => absurd missing present, by rw [start]; exact .nil⟩,
      fun present => by simp [unmarked] at present⟩
  have step : ∀ act middle, MarksBootstrapped act middle → Bootstrap middle →
      Bootstrap (operator.exec act middle) := by
    intro act middle condition bootstrap
    cases act with
    | call input => exact bootstrap_call bootstrap condition
    | crash input writes => exact bootstrap_crash bootstrap condition
    | drift change => exact bootstrap.drift change
  exact (System.run_induction step marks begins).accounted.refusals

/-- A new resource that names a password Secret. -/
def freshWorld : World :=
  let cr : CR := { name := "vk", spec := { mode := .replication, authSecretName := "vk-auth" } }
  { now := 100, cr, v := cr }

/-- A pass that finds the Secret or not. -/
def secretPass (found : Bool) : PassInput :=
  { auth := { secret := if found then .found "hash" else .unavailable } }

/-- The Secret appears after the first pass, and the second one refuses. -/
theorem operator_refuses_fresh :
    ∃ later before, (operator.run [.call (secretPass false), .call (secretPass true)]
        freshWorld).journal = later ++ .refused :: before ∧ ¬Created before := by
  let journal := (operator.run [.call (secretPass false), .call (secretPass true)]
    freshWorld).journal
  have run : (journal.dropWhile (· ≠ .refused)).head? = some .refused ∧
      ¬Created (journal.dropWhile (· ≠ .refused)).tail := by
    decide
  exact ⟨_, _, split_dropWhile run.1, run.2⟩

/-- With the Secret there from the beginning, nothing is refused. -/
theorem operator_refuses_none_bootstrapped :
    Created (operator.run [.call (secretPass true), .call (secretPass true)] freshWorld).journal ∧
      Always RefusesBootstrapped
        (operator.run [.call (secretPass true), .call (secretPass true)] freshWorld).journal := by
  have created : Created
      (operator.run [.call (secretPass true), .call (secretPass true)] freshWorld).journal := by
    decide
  have completes : (secretPass true).Completes freshWorld :=
    ⟨rfl, .inr (by decide), ⟨rfl, rfl⟩, rfl, ⟨rfl, rfl, rfl⟩, rfl, rfl, rfl⟩
  have second : (operator.exec (.call (secretPass true)) freshWorld).cr.finalizer = true := by
    decide
  have marks : operator.Meets MarksBootstrapped
      [.call (secretPass true), .call (secretPass true)] freshWorld :=
    ⟨fun _ _ => completes, fun stamps => absurd stamps.unmarked (by rw [second]; decide), trivial⟩
  exact ⟨created, operator_refusesBootstrapped _ rfl rfl rfl marks⟩

end Velkir
