import Velkir.Reconcile

/-!
# The StatefulSet that a resize recreates

The checks of Phase 2 compare with an existing StatefulSet, so a recreated one is whatever the spec
says by then.
-/

namespace Velkir

open Crash Proc History

/-- The replica count lies above every labelled primary. -/
def CoversPrimaries (pods : List Pod) (crName : String) (replicas : Int) : Prop :=
  ∀ pod ∈ pods, pod.role = .primary → ordinalFromPodName pod.name crName < replicas

/-- The second image has no lower major than the first, where both have one. -/
def KeepsMajor (source target : String) : Prop :=
  match parseValkeyTag source, parseValkeyTag target with
  | .ok old, .ok new => old.major ≤ new.major
  | _, _ => True

instance (pods : List Pod) (crName : String) (replicas : Int) :
    Decidable (CoversPrimaries pods crName replicas) :=
  inferInstanceAs (Decidable (∀ pod ∈ pods, _ → _))

instance (source target : String) : Decidable (KeepsMajor source target) := by
  unfold KeepsMajor
  split <;> infer_instance

/-- No scale-down and no downgrade between two StatefulSets. -/
structure GuardsSurvive (crName : String) (preflight : Option Bool) (pods : List Pod)
    (deleted recreated : StatefulSet) : Prop where
  scale : CoversPrimaries pods crName (deleted.replicas.getD 0) →
    CoversPrimaries pods crName (recreated.replicas.getD 0)
  image : preflight ≠ some false →
    KeepsMajor (findValkeyContainerImage deleted) (findValkeyContainerImage recreated)

/-- The spec asks for nothing that the guards would have refused. -/
structure SpecSurvives (crName : String) (pods : List Pod) (deleted : StatefulSet) (spec : Spec) :
    Prop where
  scale : CoversPrimaries pods crName (deleted.replicas.getD 0) →
    CoversPrimaries pods crName spec.replicas
  image : spec.upgradePreflight ≠ some false →
    KeepsMajor (findValkeyContainerImage deleted) spec.image.reference

/-- A resize deleted this StatefulSet, and none has been created since. -/
def OrphanedSince (deleted : StatefulSet) : List Entry → Prop :=
  Since (fun line => line.kind ≠ .created) (fun line => line = .orphaned deleted)

instance (deleted : StatefulSet) : DecidablePred (OrphanedSince deleted) :=
  inferInstanceAs (DecidablePred (Since _ _))

/-- A recreated StatefulSet keeps the guards exactly when the spec does. -/
def RecreatesGuarded (crName : String) (line : Entry) (before : List Entry) : Prop :=
  ∀ recreated pods, line = .created recreated pods →
    ∃ spec earlier, before = .applying none spec pods :: earlier ∧
      ∀ deleted, OrphanedSince deleted earlier →
        (GuardsSurvive crName spec.upgradePreflight pods.items deleted recreated ↔
          SpecSurvives crName pods.items deleted spec)

private def CreatedFromSpec (line : Entry) (before : List Entry) : Prop :=
  ∀ sts pods, line = .created sts pods →
    ∃ spec earlier, before = .applying none spec pods :: earlier ∧ sts = buildValkeySTS spec

theorem createdFromSpec_of_kind {line : Entry} (kind : line.kind ≠ .created)
    (before : List Entry) : CreatedFromSpec line before := by
  rintro sts pods rfl
  exact absurd rfl kind

theorem createdFromSpec_tolerates {touched : List Part} {kinds : List Kind}
    (without : .created ∉ kinds) :
    Tolerates touched kinds (Keeps fun w => Always CreatedFromSpec w.journal) :=
  always_tolerates fun _ mem => createdFromSpec_of_kind fun kind => without (kind ▸ mem)

private theorem applySTS_createdFromSpec {sts : StatefulSet} {reply : Reply} {w : World}
    (start : Always CreatedFromSpec w.journal)
    (built : w.sts = none → sts = buildValkeySTS w.v.spec) :
    (applySTS sts reply).wp (fun w => Always CreatedFromSpec w.journal)
      (fun _ w => Always CreatedFromSpec w.journal) w := by
  have asked : Always CreatedFromSpec (.applying w.sts w.v.spec w.pods :: w.journal) :=
    .cons (createdFromSpec_of_kind (by simp [Entry.kind]) _) start
  unfold applySTS
  simp only [logHere, wp_bind, wp_read, wp_write, wp_ite, wp_pure]
  have applied : Always CreatedFromSpec
      ((w.note (.applying w.sts w.v.spec w.pods)).applySTS sts).journal := by
    unfold World.applySTS
    cases found : w.sts with
    | some existing => simpa [found] using asked
    | none =>
        rw [found] at asked
        simp only [World.note_sts, found]
        refine .cons (fun created pods eq => ?_) asked
        obtain ⟨rfl, rfl⟩ := Entry.created.inj eq
        exact ⟨_, _, rfl, built found⟩
  exact ⟨asked, fun _ => ⟨applied, applied⟩, fun _ => asked⟩

private theorem reconcileStatefulSet_createdFromSpec (state : State) (input : StatefulSetInput) :
    Within (Keeps fun w => Always CreatedFromSpec w.journal)
      (reconcileStatefulSet state input) := by
  refine .of_wp fun w start => ?_
  unfold reconcileStatefulSet
  simp only [wp_bind, wp_read, wp_ite, wp_pure, recordEvent, log,
    wp_write]
  have failed : Always CreatedFromSpec (.event .scalePrecheckFailed :: w.journal) :=
    .cons (createdFromSpec_of_kind (by decide) _) start
  refine ⟨fun _ => start, fun _ => ⟨fun _ => ⟨failed, failed⟩, fun _ => ?_⟩⟩
  cases found : w.sts with
  | none => exact applySTS_createdFromSpec start fun _ => rfl
  | some existing =>
      have record : ∀ recorded : Option Event,
          (∀ event, recorded = some event → (Entry.event event).kind = .event) →
            Within (Keeps fun w =>
              Always CreatedFromSpec w.journal ∧ w.sts = some existing) (recordOptional recorded) :=
        fun recorded kind => ((recordOptional_within kind).mono
          (createdFromSpec_tolerates (by decide))).and (recordOptional_sts recorded _)
      simp only [wp_bind, wp_read, wp_ite, wp_pure]
      refine wp_mono ((record _ fun _ => checkValkeyImageTransition_kind).wp ⟨start, found⟩)
        (fun _ => And.left) fun _ middle here => ⟨fun _ => here.1, fun _ => ?_⟩
      refine wp_mono ((record _ fun _ => scaleDecision_kind).wp here) (fun _ => And.left)
        fun _ last there => applySTS_createdFromSpec there.1 fun missing => ?_
      cases there.2.symm.trans missing

/-- Every StatefulSet a run creates is the one built from the spec. -/
theorem operator_createdFromSpec (acts : List (Act PassInput Drift)) {w : World}
    (start : w.journal = []) : Always CreatedFromSpec (operator.run acts w).journal := by
  have rules : ∀ input, PassRules (fun w => Always CreatedFromSpec w.journal)
      (fun w => Always CreatedFromSpec w.journal) (fun w => Always CreatedFromSpec w.journal)
      input := fun input =>
    .of_tolerates (createdFromSpec_tolerates (by decide))
      (fun _ => reconcileStatefulSet_createdFromSpec _ _)
      fun _ _ _ => (reconcilePodRollout_within _ _ _ _).mono (createdFromSpec_tolerates (by decide))
  exact operator_invariant rules (by rw [start]; exact .nil)

private theorem guardsSurvive_buildValkeySTS_iff {crName : String} {pods : List Pod}
    {deleted : StatefulSet} {spec : Spec} :
    GuardsSurvive crName spec.upgradePreflight pods deleted (buildValkeySTS spec) ↔
      SpecSurvives crName pods deleted spec :=
  ⟨fun survive => ⟨survive.scale, survive.image⟩, fun survive => ⟨survive.scale, survive.image⟩⟩

/-- A recreated StatefulSet keeps the guards exactly when the spec asks for nothing forbidden. -/
theorem operator_recreatesGuarded (acts : List (Act PassInput Drift)) {w : World}
    (start : w.journal = []) :
    Always (RecreatesGuarded w.cr.name) (operator.run acts w).journal := by
  refine always_iff.mpr fun later line before split recreated pods created => ?_
  obtain ⟨spec, earlier, asked, rfl⟩ :=
    always_iff.mp (operator_createdFromSpec acts start) later line before split recreated pods
      created
  exact ⟨spec, earlier, asked, fun _ _ => guardsSurvive_buildValkeySTS_iff⟩

/-- The spec of a resource with three replicas of major nine. -/
def nineSpec : Spec :=
  { mode := .sentinel, replicas := 3, image := ⟨"valkey/valkey", "9.0.1"⟩, persistence := some 2 }

/-- The StatefulSet built from it before its claims were to grow. -/
def nineSTS : StatefulSet :=
  { replicas := some 3, containers := [⟨"valkey", "valkey/valkey:9.0.1"⟩], claimSizes := [1] }

def highPrimary : Pods :=
  ⟨[{ name := "vk-0", role := .replica }, { name := "vk-2", role := .primary }],
    by decide, by decide⟩

/-- Its claim is to grow. -/
def resizingWorld : World :=
  let cr : CR := { name := "vk", finalizer := true, spec := nineSpec }
  { now := 100, cr, v := cr, sts := some nineSTS, pods := highPrimary
    pvcs :=
      [{ name := "data-vk-0", request := 1, capacity := 1, storageClassName := some "fast" }] }

/-- Two passes delete and patch, all change, and a third creates again. -/
def resizeActs (spec : Spec) : List (Act PassInput Drift) :=
  let pass : PassInput := { resize := { allowExpansion := some true } }
  let grown : PVC :=
    { name := "data-vk-0", request := 2, capacity := 2, storageClassName := some "fast" }
  [.call pass, .call pass, .drift { spec := some spec, pvcs := some [grown] }, .call pass]

/-- The edit asks for one replica of major eight. -/
def eightSpec : Spec :=
  { nineSpec with replicas := 1, image := ⟨"valkey/valkey", "8.1.6"⟩ }

/-- The edited spec is applied as it is, with fewer pods and a lower major. -/
theorem operator_recreates_unguarded :
    ∃ later earlier spec, (operator.run (resizeActs eightSpec) resizingWorld).journal =
        later ++ .created (buildValkeySTS spec) highPrimary ::
          .applying none spec highPrimary :: earlier ∧
      OrphanedSince nineSTS earlier ∧ spec.upgradePreflight ≠ some false ∧
      CoversPrimaries highPrimary.items "vk" (nineSTS.replicas.getD 0) ∧
      ¬CoversPrimaries highPrimary.items "vk" ((buildValkeySTS spec).replicas.getD 0) ∧
      ¬KeepsMajor (findValkeyContainerImage nineSTS)
        (findValkeyContainerImage (buildValkeySTS spec)) := by
  let journal := (operator.run (resizeActs eightSpec) resizingWorld).journal
  exact ⟨journal.takeWhile (·.kind ≠ .created), (journal.dropWhile (·.kind ≠ .created)).tail.tail,
    applySpecDefaults eightSpec, by decide⟩

theorem operator_recreates_edited :
    resizingWorld.journal = [] ∧ Always (RecreatesGuarded resizingWorld.cr.name)
      (operator.run (resizeActs eightSpec) resizingWorld).journal :=
  ⟨rfl, operator_recreatesGuarded _ rfl⟩

end Velkir
