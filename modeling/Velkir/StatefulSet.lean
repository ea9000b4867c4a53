import Velkir.Api
import Velkir.Version

/-!
# Applying the data StatefulSet

Phase 2 refuses a major downgrade, scaling down the primary, and scaling in a rollout, all over an
existing one.
-/

namespace Velkir

open Crash Proc

/-- The phase in the record. -/
def currentPVCResizePhase (v : CR) : PVCResizePhase :=
  (v.status.pvcResize.map PVCResize.phase).getD .unset

/-- The resize phases during which the StatefulSet must not be applied. -/
def isPVCResizeGuardingPhase2 : PVCResizePhase → Bool
  | .validated | .stsOrphaned | .pvcsPatched => true
  | _ => false

/-- The states in which a replica-count change is deferred. -/
def isInRolloutState : State → Bool
  | .rolloutPending | .rolloutReplicas | .rolloutPrimary | .failoverInFlight
  | .rolloutComplete => true
  | _ => false

/-- The image of the `valkey` container. -/
def findValkeyContainerImage (sts : StatefulSet) : String :=
  ((sts.containers.find? fun container => container.name = "valkey").map Container.image).getD ""

/-- Whether the spec's image may replace the existing one; the event. -/
def checkValkeyImageTransition (spec : Spec) (existing : StatefulSet) : Bool × Option Event :=
  let currentImage := findValkeyContainerImage existing
  if currentImage = "" then (true, none)
  else
    match parseValkeyTag currentImage, parseValkeyTag spec.image.reference with
    | .ok source, .ok target =>
        if source = target then (true, none)
        else if isDowngrade source target then
          if spec.upgradePreflight = some false then (true, some .imageTransitionOverridden)
          else (false, some .imageTransitionRejected)
        else if isSkipMinor source target then (true, some .imageTransitionWarning)
        else (true, none)
    | _, _ => (true, none)

/-- The lower of two ordinals, where a negative first one stands for none yet. -/
def lowerOrdinal (lowest ordinal : Int) : Int :=
  if lowest < 0 ∨ ordinal < lowest then ordinal else lowest

/-- The lowest ordinal labelled primary, or `-1`. -/
def findPrimaryOrdinal (pods : List Pod) (crName : String) : Int :=
  pods.foldl (fun lowest pod =>
    let ordinal := ordinalFromPodName pod.name crName
    if pod.role = .primary ∧ 0 ≤ ordinal then lowerOrdinal lowest ordinal else lowest) (-1)

/-- Whether a scale-down is refused to protect the primary. -/
def scaleDownPrimaryRefusal (desired current : Int) (primaryOrdinal : Option Int) : Bool :=
  if current ≤ desired then false
  else
    match primaryOrdinal with
    | none => true
    | some ordinal => 0 ≤ ordinal ∧ desired ≤ ordinal

/-- The replica count to apply over a StatefulSet, with the event. -/
def scaleDecision (state : State) (desired current : Int) (primaryOrdinal : Option Int) :
    Int × Option Event :=
  if desired < current ∧ scaleDownPrimaryRefusal desired current primaryOrdinal then
    (current, some (.scaleRefused desired current primaryOrdinal))
  else if desired ≠ current ∧ isInRolloutState state then
    (current, some (.scaleDeferred current desired state))
  else (desired, none)

/-- The StatefulSet that the spec asks for. -/
def buildValkeySTS (spec : Spec) : StatefulSet where
  replicas := some spec.replicas
  containers := [{ name := "valkey", image := spec.image.reference }]
  claimSizes := spec.persistence.toList

/-- How the API server answers Phase 2. -/
structure StatefulSetInput where
  getFails : Bool := false
  listFails : Bool := false
  applyReply : Reply := .ok
  deriving DecidableEq

/-- The status an applied StatefulSet keeps. -/
def StatefulSet.status (sts : StatefulSet) : String × String × Int :=
  (sts.updateRevision, sts.currentRevision, sts.readyReplicas)

/-- The world after the StatefulSet was applied. -/
def World.applySTS (sts : StatefulSet) (w : World) : World :=
  match w.sts with
  | some existing => { w with sts := some (sts.withStatus existing.status) }
  | none => { w.note (.created sts w.pods) with sts := some sts }

/-- Apply the StatefulSet; existing claim templates stay. -/
def applySTS (sts : StatefulSet) (reply : Reply) : Proc World Bool := do
  let existing ← .read World.sts
  logHere fun w => .applying existing w.v.spec w.pods
  if reply = .ok ∧ (existing.map StatefulSet.claimSizes).getD sts.claimSizes = sts.claimSizes then
    .write (World.applySTS sts)
    return true
  return false

/-- Record an event, if there is one. -/
def recordOptional : Option Event → Proc World Unit
  | some event => recordEvent event
  | none => pure ()

/-- Phase 2: apply the data StatefulSet. -/
def reconcileStatefulSet (state : State) (input : StatefulSetInput) : Proc World Bool := do
  let v ← .read World.v
  if isPVCResizeGuardingPhase2 (currentPVCResizePhase v) then return true
  let sts := buildValkeySTS v.spec
  if input.getFails then
    recordEvent .scalePrecheckFailed
    return false
  match ← .read World.sts with
  | some existing =>
      let (allowed, event) := checkValkeyImageTransition v.spec existing
      recordOptional event
      if !allowed then return true
      let pods ← .read World.pods
      let (replicas, event) := scaleDecision state v.spec.replicas (existing.replicas.getD 0)
        (if input.listFails then none else some (findPrimaryOrdinal pods.items v.name))
      recordOptional event
      applySTS { sts with replicas := some replicas } input.applyReply
  | none => applySTS sts input.applyReply

variable {existing : StatefulSet} {event : Event}

theorem checkValkeyImageTransition_kind {spec : Spec}
    (recorded : (checkValkeyImageTransition spec existing).2 = some event) :
    (Entry.event event).kind = .event := by
  unfold checkValkeyImageTransition at recorded
  grind [Entry.kind]

variable {state : State} {desired current : Int}

theorem scaleDecision_kind {ordinal : Option Int}
    (recorded : (scaleDecision state desired current ordinal).2 = some event) :
    (Entry.event event).kind = .event := by
  unfold scaleDecision at recorded
  grind [Entry.kind]

theorem recordOptional_within {recorded : Option Event}
    (kind : ∀ event, recorded = some event → (Entry.event event).kind = .event) :
    Within (Frame [] [.event]) (recordOptional recorded) := by
  cases recorded with
  | none => exact .pure _
  | some event => exact log_within (by simp [kind event rfl])

section Keeps

variable {relation : World → World → Prop} [Std.Refl relation] [IsTrans World relation]
  (plain : Tolerates [] [.event, .applying] relation)
  (apply : ∀ sts w, relation w (w.applySTS sts))

include plain apply

private theorem applySTS_keeps (sts : StatefulSet) (reply : Reply) :
    Within relation (applySTS sts reply) :=
  .bind (.read _) fun _ =>
    .bind ((logHere_within fun _ => by simp [Entry.kind]).mono plain) fun _ =>
      .ite (.bind (.write (apply sts)) fun _ => .pure _) (.pure _)

/-- Phase 2 applies the StatefulSet, and otherwise only records events. -/
theorem reconcileStatefulSet_keeps (state : State) (input : StatefulSetInput) :
    Within relation (reconcileStatefulSet state input) := by
  have record : ∀ recorded : Option Event,
      (∀ event, recorded = some event → (Entry.event event).kind = .event) →
        Within relation (recordOptional recorded) :=
    fun _ kind => plain.within (recordOptional_within kind)
  refine .bind (.read _) fun v => .ite (.pure _) (.ite
    (.bind ((log_within (by decide)).mono plain) fun _ => .pure _)
      (.bind (.read _) fun found => ?_))
  cases found with
  | none => exact applySTS_keeps plain apply _ _
  | some existing =>
      exact .bind (record _ fun _ => checkValkeyImageTransition_kind) fun _ => .ite (.pure _)
        (.bind (.read _) fun _ => .bind (record _ fun _ => scaleDecision_kind) fun _ =>
          applySTS_keeps plain apply _ _)

end Keeps

theorem reconcileStatefulSet_within (state : State) (input : StatefulSetInput) :
    Within (Frame [.sts] [.event, .applying, .created])
      (reconcileStatefulSet state input) := by
  refine reconcileStatefulSet_keeps (fun _ _ frame => frame.mono) (fun sts w => ?_) state input
  unfold World.applySTS
  split
  · refine ⟨fun part untouched => ?_, ⟨[], rfl, by simp⟩, Nat.le_refl _⟩
    cases part with
    | sts => simp at untouched
    | _ => simp [Part.Kept, Carried]
  · refine ⟨fun part untouched => ?_, ⟨[.created sts w.pods], rfl, by simp [Entry.kind]⟩,
      Nat.le_refl _⟩
    cases part with
    | sts => simp at untouched
    | _ => simp [Part.Kept, Carried]

/-- `spec.replicas`, where a missing StatefulSet or count reads as zero. -/
def replicaCount (sts : Option StatefulSet) : Int :=
  (sts.bind StatefulSet.replicas).getD 0

/-- Phase 2 reaches its apply over a StatefulSet and succeeds. -/
def Applies (input : StatefulSetInput) (v : CR) (existing : StatefulSet) : Prop :=
  isPVCResizeGuardingPhase2 (currentPVCResizePhase v) = false ∧ input.getFails = false ∧
    (checkValkeyImageTransition v.spec existing).1 = true ∧ input.applyReply = .ok ∧
    existing.claimSizes = (buildValkeySTS v.spec).claimSizes

instance (input : StatefulSetInput) (v : CR) (existing : StatefulSet) :
    Decidable (Applies input v existing) :=
  inferInstanceAs (Decidable (_ ∧ _))

theorem recordOptional_sts (recorded : Option Event) (sts : Option StatefulSet) :
    Within (Keeps fun w => w.sts = sts) (recordOptional recorded) := by
  cases recorded with
  | none => exact .pure _
  | some event => exact .write fun _ => id

@[simp]
theorem recordOptional_final (event : Option Event) (w : World) :
    ((recordOptional event).run w).final =
      { w with journal := event.toList.map Entry.event ++ w.journal } := by
  cases event <;> rfl

variable {w : World}

private theorem applySTS_sts {sts : StatefulSet} {reply : Reply} (found : w.sts = some existing) :
    ((applySTS sts reply).run w).final.sts =
      if reply = .ok ∧ existing.claimSizes = sts.claimSizes then
        some (sts.withStatus existing.status)
      else some existing := by
  simp only [applySTS, logHere, final_bind, value_read, final_read, final_write,
    run_ite, found, Option.map_some, Option.getD_some]
  split <;> simp [World.applySTS, found]

theorem reconcileStatefulSet_replicaCount {input : StatefulSetInput}
    (found : w.sts = some existing) :
    replicaCount ((reconcileStatefulSet state input).run w).final.sts =
      if Applies input w.v existing then
        (scaleDecision state w.v.spec.replicas (existing.replicas.getD 0)
          (if input.listFails then none
            else some (findPrimaryOrdinal w.pods.items w.v.name))).1
      else existing.replicas.getD 0 := by
  unfold reconcileStatefulSet Applies
  simp only [final_bind, value_read, final_read]
  by_cases guarding : isPVCResizeGuardingPhase2 (currentPVCResizePhase w.v) = true
  · simp [guarding, found, replicaCount]
  by_cases fails : input.getFails = true
  · simp [guarding, fails, found, replicaCount, recordEvent, log]
  by_cases allowed : (checkValkeyImageTransition w.v.spec existing).1 = true
  · simp only [guarding, fails, found, allowed, final_bind, value_read, final_read,
      recordOptional_final, Bool.not_true, Bool.false_eq_true, ↓reduceIte, true_and]
    rw [applySTS_sts rfl]
    by_cases applied :
        input.applyReply = .ok ∧ existing.claimSizes = (buildValkeySTS w.v.spec).claimSizes
    · simp [applied, replicaCount, StatefulSet.withStatus]
    · simp [applied, replicaCount]
  · simp [guarding, fails, found, allowed, replicaCount]

theorem scaleDecision_fst (state : State) (desired current : Int) (primaryOrdinal : Option Int) :
    (scaleDecision state desired current primaryOrdinal).1 =
      if desired < current ∧ scaleDownPrimaryRefusal desired current primaryOrdinal = true ∨
          desired ≠ current ∧ isInRolloutState state = true then current
      else desired := by
  unfold scaleDecision
  grind

theorem reconcileStatefulSet_deferred (rolling : isInRolloutState state = true)
    (input : StatefulSetInput) (found : w.sts = some existing) :
    replicaCount ((reconcileStatefulSet state input).run w).final.sts = replicaCount w.sts := by
  rw [reconcileStatefulSet_replicaCount found, scaleDecision_fst, found]
  by_cases change : w.v.spec.replicas = existing.replicas.getD 0
  · simp [change, replicaCount]
  · simp [change, rolling, replicaCount]

/-- The lowest ordinal of a labelled primary is found. -/
theorem findPrimaryOrdinal_spec (pods : List Pod) (crName : String) :
    (∀ pod ∈ pods, pod.role = .primary → 0 ≤ ordinalFromPodName pod.name crName →
      0 ≤ findPrimaryOrdinal pods crName ∧
        findPrimaryOrdinal pods crName ≤ ordinalFromPodName pod.name crName) ∧
    (0 ≤ findPrimaryOrdinal pods crName →
      ∃ pod ∈ pods, pod.role = .primary ∧
        ordinalFromPodName pod.name crName = findPrimaryOrdinal pods crName) := by
  -- the fold is followed from its end, so that its accumulator is again a lowest ordinal
  induction pods using List.reverseRecOn with
  | nil => simp [findPrimaryOrdinal]
  | append_singleton pods last ih =>
      obtain ⟨below, attained⟩ := ih
      have fold : findPrimaryOrdinal (pods ++ [last]) crName =
          if last.role = .primary ∧ 0 ≤ ordinalFromPodName last.name crName then
            lowerOrdinal (findPrimaryOrdinal pods crName) (ordinalFromPodName last.name crName)
          else findPrimaryOrdinal pods crName := by
        simp [findPrimaryOrdinal]
      rw [fold]
      by_cases counts : last.role = .primary ∧ 0 ≤ ordinalFromPodName last.name crName
      · simp only [counts, and_self, ↓reduceIte, lowerOrdinal]
        grind
      · simp only [counts, ↓reduceIte]
        grind

/-- The count does not shrink, or lies above every labelled primary. -/
def KeepsPrimaries (pods : List Pod) (crName : String) (current applied : Int) : Prop :=
  current ≤ applied ∨
    ∀ pod ∈ pods, pod.role = .primary → 0 ≤ ordinalFromPodName pod.name crName →
      ordinalFromPodName pod.name crName < applied

/-- One labelled primary lies below the requested count and another does not. -/
def Straddled (pods : List Pod) (crName : String) (desired : Int) : Prop :=
  (∃ pod ∈ pods, pod.role = .primary ∧ 0 ≤ ordinalFromPodName pod.name crName ∧
    ordinalFromPodName pod.name crName < desired) ∧
  ∃ pod ∈ pods, pod.role = .primary ∧ desired ≤ ordinalFromPodName pod.name crName

instance (pods : List Pod) (crName : String) (current applied : Int) :
    Decidable (KeepsPrimaries pods crName current applied) :=
  inferInstanceAs (Decidable (_ ∨ ∀ pod ∈ pods, _ → _ → _))

instance (pods : List Pod) (crName : String) (desired : Int) :
    Decidable (Straddled pods crName desired) :=
  inferInstanceAs (Decidable ((∃ pod ∈ pods, _) ∧ ∃ pod ∈ pods, _))

/-- The lowest primary is compared, so straddled ones are missed. -/
theorem scaleDownPrimaryRefusal_eq_false_iff (pods : List Pod) (crName : String)
    (down : desired < current) :
    scaleDownPrimaryRefusal desired current (some (findPrimaryOrdinal pods crName)) = false ↔
      Straddled pods crName desired ∨
        ∀ pod ∈ pods, pod.role = .primary → 0 ≤ ordinalFromPodName pod.name crName →
          ordinalFromPodName pod.name crName < desired := by
  obtain ⟨below, attained⟩ := findPrimaryOrdinal_spec pods crName
  have started : ¬current ≤ desired := by omega
  simp only [scaleDownPrimaryRefusal, started, ↓reduceIte, decide_eq_false_iff_not, not_and,
    Int.not_le]
  constructor
  · intro accepted
    by_cases lost : ∃ pod ∈ pods, pod.role = .primary ∧ 0 ≤ ordinalFromPodName pod.name crName ∧
        desired ≤ ordinalFromPodName pod.name crName
    · obtain ⟨pod, mem, primary, valid, above⟩ := lost
      have lowest := (below pod mem primary valid).1
      obtain ⟨low, low_mem, low_primary, low_eq⟩ := attained lowest
      have low_below := accepted lowest
      exact .inl ⟨⟨low, low_mem, low_primary, by omega, by omega⟩, pod, mem, primary, above⟩
    · refine .inr fun pod mem primary valid => ?_
      by_contra above
      exact lost ⟨pod, mem, primary, valid, by omega⟩
  · rintro (⟨⟨pod, mem, primary, valid, low⟩, -⟩ | kept) lowest
    · have := (below pod mem primary valid).2
      omega
    · obtain ⟨pod, mem, primary, eq⟩ := attained lowest
      have := kept pod mem primary (by omega)
      omega

private theorem Straddled.not_keepsPrimaries {pods : List Pod} {crName : String}
    (straddled : Straddled pods crName desired) (down : desired < current) :
    ¬KeepsPrimaries pods crName current desired := by
  obtain ⟨⟨_, _, _, valid, low⟩, pod, mem, primary, above⟩ := straddled
  rintro (up | kept)
  · omega
  · have := kept pod mem primary (by omega)
    omega

/-- Phase 2 keeps the primaries unless it scales down between two of them. -/
theorem reconcileStatefulSet_keepsPrimaries_iff (state : State) (input : StatefulSetInput)
    (w : World) (existing : StatefulSet) (found : w.sts = some existing) :
    KeepsPrimaries w.pods.items w.v.name (existing.replicas.getD 0)
        (replicaCount ((reconcileStatefulSet state input).run w).final.sts) ↔
      ¬(Applies input w.v existing ∧ input.listFails = false ∧ isInRolloutState state = false ∧
        w.v.spec.replicas < existing.replicas.getD 0 ∧
        Straddled w.pods.items w.v.name w.v.spec.replicas) := by
  rw [reconcileStatefulSet_replicaCount found]
  generalize existing.replicas.getD 0 = current
  generalize w.v.spec.replicas = desired
  have keeps_current : KeepsPrimaries w.pods.items w.v.name current current := .inl (Int.le_refl _)
  by_cases applies : Applies input w.v existing
  · simp only [applies, ↓reduceIte, true_and, scaleDecision_fst]
    by_cases down : desired < current
    · by_cases rolling : isInRolloutState state = true
      · have change : desired ≠ current := by omega
        simp [rolling, change, keeps_current]
      · cases unlisted : input.listFails with
        | true => simp [scaleDownPrimaryRefusal, down, keeps_current, Int.not_le.mpr down]
        | false =>
            have refusal := scaleDownPrimaryRefusal_eq_false_iff w.pods.items w.v.name down
            cases refused : scaleDownPrimaryRefusal desired current
                (some (findPrimaryOrdinal w.pods.items w.v.name)) with
            | true =>
                have unstraddled : ¬Straddled w.pods.items w.v.name desired := by
                  intro straddled
                  simp [refusal.mpr (.inl straddled)] at refused
                simp [down, refused, keeps_current, unstraddled]
            | false =>
                simp only [down, refused, rolling, Bool.false_eq_true, and_false, or_self,
                  ↓reduceIte, true_and]
                constructor
                · exact fun keeps straddled => straddled.not_keepsPrimaries down keeps
                · intro unstraddled
                  exact .inr ((refusal.mp refused).resolve_left unstraddled)
    · have keeps_desired : KeepsPrimaries w.pods.items w.v.name current desired :=
        .inl (by omega)
      simp only [down, false_and, and_false, not_false_eq_true, iff_true]
      split
      · exact keeps_current
      · exact keeps_desired
  · simp [applies, keeps_current]

/-- A three-pod resource whose StatefulSet has five replicas. -/
def scaledDownWorld (primaries : List String) : World :=
  let cr : CR := { name := "vk", spec := { mode := .sentinel, replicas := 3 } }
  { now := 0, cr, v := cr
    sts := some { replicas := some 5 }
    pods := ⟨(["vk-0", "vk-1", "vk-2", "vk-3", "vk-4"].map fun name =>
      { name, role := if name ∈ primaries then .primary else .replica }), by simp, by simp⟩ }

/-- A single low primary survives the scale-down to three. -/
theorem reconcileStatefulSet_keeps_lowPrimary :
    KeepsPrimaries (scaledDownWorld ["vk-1"]).pods.items "vk" 5
      (replicaCount
        ((reconcileStatefulSet .steady {}).run (scaledDownWorld ["vk-1"])).final.sts) :=
  (reconcileStatefulSet_keepsPrimaries_iff .steady {} (scaledDownWorld ["vk-1"])
    { replicas := some 5 } rfl).mpr (by decide)

/-- With primaries at one and four, a scale-down to three goes through. -/
theorem reconcileStatefulSet_removes_primary :
    ¬KeepsPrimaries (scaledDownWorld ["vk-1", "vk-4"]).pods.items "vk" 5
      (replicaCount
        ((reconcileStatefulSet .steady {}).run (scaledDownWorld ["vk-1", "vk-4"])).final.sts) := by
  decide

end Velkir
