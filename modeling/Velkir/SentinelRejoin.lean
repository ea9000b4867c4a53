import Velkir.SentinelRoll

/-!
# One sentinel at a time

A pass applies a template with a partition computed for the one before, so the gate closes one pass
late.
-/

namespace Velkir

open Crash Proc History Orchestration

/-- The pod a line reports as rebuilt. -/
def RollLine.recreates : RollLine → Option Nat
  | .recreated ordinal _ => some ordinal
  | _ => none

/-- The line reports enough others. -/
def RollLine.reports (threshold : Int) (ordinal : Nat) : RollLine → Bool
  | .reported other peers => other = ordinal ∧ threshold ≤ peers
  | _ => false

/-- The line reports an apply. -/
def RollLine.applies : RollLine → Bool
  | .applied .. => true
  | _ => false

/-- A pass applied another template than the one in force. -/
def RollLine.changes : RollLine → Bool
  | .applied previous template _ _ => previous ≠ some template
  | _ => false

/-- The template was applied with its revision read as the pending one. -/
def RollLine.informed : RollLine → Bool
  | .applied previous template (.found revisions) _ =>
      previous = some template ∧ revisions.target = template ∧ revisions.pending
  | _ => false

/-- The pod that was rebuilt last. -/
def lastRecreated (history : List RollLine) : Option Nat :=
  history.findSome? RollLine.recreates

/-- The sentinel has reported enough others since the last rebuild. -/
def ReportedSince (threshold : Int) (ordinal : Nat) : List RollLine → Prop :=
  Since (fun line => line.recreates = none) (fun line => line.reports threshold ordinal = true)

/-- The sentinel that was rebuilt last has reported enough others since. -/
def Rejoined (threshold : Int) (history : List RollLine) : Prop :=
  ∀ ordinal ∈ lastRecreated history, ReportedSince threshold ordinal history

/-- A rebuild waits until the last rebuilt sentinel has rejoined. -/
def GatesRebuild (threshold : Int) (line : RollLine) (before : List RollLine) : Prop :=
  line.recreates ≠ none → Rejoined threshold before

/-- The StatefulSet in force was applied by a pass that knew its revision. -/
def Governed : List RollLine → Prop :=
  Since (fun line => line.applies = false) (fun line => line.informed = true)

/-- No pod has been rebuilt since the template changed. -/
def Untouched : List RollLine → Prop :=
  Since (fun line => line.recreates = none) (fun line => line.changes = true)

/-- A second rebuild waits for a pass that knows the revision. -/
def Paced (threshold : Int) (line : RollLine) (before : List RollLine) : Prop :=
  match line with
  | .recreated .. => Governed before ∨ Untouched before
  | .reported .. => True
  | .applied previous template _ carried =>
      previous = some template ∨ (∀ revision ∈ carried, revision = template) ∨
        ((∀ revision ∈ carried, revision ≠ template) ∧ Rejoined threshold before)

instance (threshold : Int) (ordinal : Nat) : DecidablePred (ReportedSince threshold ordinal) :=
  inferInstanceAs (DecidablePred (Since _ _))

instance (threshold : Int) : DecidablePred (Rejoined threshold) := fun history =>
  inferInstanceAs (Decidable (∀ ordinal ∈ lastRecreated history, _))

instance (threshold : Int) (line : RollLine) (before : List RollLine) :
    Decidable (GatesRebuild threshold line before) :=
  inferInstanceAs (Decidable (_ → _))

instance : DecidablePred Governed :=
  inferInstanceAs (DecidablePred (Since _ _))

instance : DecidablePred Untouched :=
  inferInstanceAs (DecidablePred (Since _ _))

instance (threshold : Int) (line : RollLine) (before : List RollLine) :
    Decidable (Paced threshold line before) :=
  match line with
  | .recreated .. => inferInstanceAs (Decidable (_ ∨ _))
  | .reported .. => inferInstanceAs (Decidable True)
  | .applied .. => inferInstanceAs (Decidable (_ ∨ _ ∨ _ ∧ _))

/-- The pod was rebuilt last, for the template in force. -/
def RebuiltLast (ordinal : Nat) : List RollLine → Prop :=
  Since (fun line => line.recreates = none ∧ line.changes = false)
    (fun line => line.recreates = some ordinal)

variable {history : List RollLine} {ordinal : Nat}

private theorem RebuiltLast.lastRecreated (rebuilt : RebuiltLast ordinal history) :
    lastRecreated history = some ordinal := by
  induction rebuilt with
  | start here => simp [Velkir.lastRecreated, here]
  | later kept _ ih => simpa [Velkir.lastRecreated, kept.1] using ih

private theorem RebuiltLast.not_untouched (rebuilt : RebuiltLast ordinal history) :
    ¬Untouched history := by
  induction rebuilt with
  | @start line _ here =>
      rintro (changed | ⟨kept, -⟩)
      · cases line <;> simp_all [RollLine.recreates, RollLine.changes]
      · simp [here] at kept
  | later kept _ ih =>
      intro untouched
      rcases since_cons.mp untouched with changed | ⟨-, untouched⟩
      · simp [kept.2] at changed
      · exact ih untouched

/-- Nothing that the roll depends on has changed. -/
structure Quiet (before after : Cluster) : Prop where
  spec : after.spec = before.spec
  sts : after.sts = before.sts
  carried : after.carried = before.carried
  journal : after.journal = before.journal

theorem Cluster.carried_rebuild (ordinal : Nat) (revision : String) (w : Cluster) :
    (w.rebuild ordinal revision).carried = w.carried.set ordinal revision := by
  simp [Cluster.carried, Cluster.rebuild, List.map_set]

/-- A step outside the operator is quiet, or rebuilds the candidate. -/
theorem Cluster.step_cases (w : Cluster) (step : RollStep) :
    Quiet w (w.step step) ∨ ∃ sts ordinal, w.sts = some sts ∧
      sts.candidate w.carried = some ordinal ∧ w.step step = w.rebuild ordinal sts.template := by
  cases step with
  | status revisions => exact .inl ⟨rfl, rfl, rfl, rfl⟩
  | edit template => exact .inl ⟨rfl, rfl, rfl, rfl⟩
  | pod ordinal ready podIP =>
      refine .inl ⟨rfl, rfl, ?_, rfl⟩
      refine List.ext_getElem? fun other => ?_
      by_cases here : ordinal = other <;>
        simp [Cluster.carried, Cluster.step, here, Function.comp_def]
  | recreate =>
      change Quiet w w.recreate ∨ ∃ sts ordinal, _ ∧ _ ∧ w.recreate = _
      unfold Cluster.recreate
      split
      · exact .inl ⟨rfl, rfl, rfl, rfl⟩
      · rename_i sts found
        split
        · split
          · exact .inl ⟨rfl, rfl, rfl, rfl⟩
          · rename_i ordinal candidate
            exact .inr ⟨sts, ordinal, found, candidate, rfl⟩
        · exact .inl ⟨rfl, rfl, rfl, rfl⟩

variable {sts : SentinelSTS} {lowest : Nat}

theorem SentinelSTS.candidate_eq {carried : List String}
    (frontier : Frontier sts.template carried lowest) (bound : lowest ≤ carried.length)
    (found : sts.candidate carried = some ordinal) :
    ordinal + 1 = lowest ∧ sts.partition ≤ ordinal := by
  obtain ⟨fits, higher, lower, split, skipped⟩ := List.find?_eq_some_iff_append.mp found
  obtain ⟨allowed, stale⟩ := of_decide_eq_true fits
  have inside : ordinal < carried.length := by
    have mem : ordinal ∈ (List.range carried.length).reverse := by rw [split]; simp
    simpa using mem
  have below : ordinal < lowest := by
    by_contra rolled
    refine stale ?_
    rw [List.getElem?_eq_getElem inside]
    exact congrArg some ((frontier ordinal _ (List.getElem?_eq_getElem inside)).mpr (by omega))
  refine ⟨?_, allowed⟩
  by_contra apart
  -- The next ordinal up is stale as well, and was tried before.
  have above : ordinal + 1 < carried.length := by omega
  have tried : ordinal + 1 ∈ higher := by
    have sorted : (List.range carried.length).reverse.Pairwise (· > ·) := by
      simpa [List.pairwise_reverse] using List.pairwise_lt_range
    have mem : ordinal + 1 ∈ (List.range carried.length).reverse := by simpa using above
    rw [split] at sorted mem
    have rest := (List.pairwise_cons.mp (List.pairwise_append.mp sorted).2.1).1
    rcases List.mem_append.mp mem with mem | mem
    · exact mem
    · rcases List.mem_cons.mp mem with same | mem
      · omega
      · have := rest _ mem
        omega
  have untaken := skipped _ tried
  simp only [Bool.not_eq_true', decide_eq_false_iff_not, not_and, not_not] at untaken
  have rolled := untaken (by push_cast; omega)
  have := (frontier (ordinal + 1) _ rolled).mp rfl
  omega

/-- Below this ordinal one pod can be rebuilt, once the last rejoined. -/
structure Rolling (threshold : Int) (w : Cluster) (sts : SentinelSTS) (lowest : Nat) : Prop where
  bound : lowest ≤ w.carried.length
  frontier : Frontier sts.template w.carried lowest
  past : lowest = 0 ∨ (lowest = w.carried.length ∧ Rejoined threshold w.journal) ∨
    (lowest < w.carried.length ∧ RebuiltLast lowest w.journal)
  held : Governed w.journal → lowest ≤ sts.partition ∨
    (sts.partition = lowest - 1 ∧
      (lowest < w.carried.length → ReportedSince threshold lowest w.journal))

/-- No pod can be rebuilt before the next pass. -/
structure Spent (w : Cluster) (sts : SentinelSTS) (lowest : Nat) : Prop where
  governed : Governed w.journal → lowest ≤ sts.partition
  ungoverned : ¬Governed w.journal → ¬Untouched w.journal

section Rolling

variable {threshold : Int} {w w' : Cluster} {sts : SentinelSTS} {lowest ordinal : Nat}

theorem Rolling.quiet (rolling : Rolling threshold w sts lowest) (quiet : Quiet w w') :
    Rolling threshold w' sts lowest := by
  obtain ⟨bound, frontier, past, held⟩ := rolling
  rw [← quiet.carried] at bound frontier past held
  rw [← quiet.journal] at past held
  exact ⟨bound, frontier, past, held⟩

private theorem Spent.quiet (spent : Spent w sts lowest) (quiet : Quiet w w') :
    Spent w' sts lowest := by
  obtain ⟨governed, ungoverned⟩ := spent
  rw [← quiet.journal] at governed ungoverned
  exact ⟨governed, ungoverned⟩

private theorem governed_rebuild {revision : String} :
    Governed (.recreated ordinal revision :: history) ↔ Governed history := by
  simp [Governed, RollLine.informed, RollLine.applies]

/-- A rebuild waits for the last one, and the partition leaves one. -/
theorem Rolling.rebuild (rolling : Rolling threshold w sts lowest)
    (candidate : sts.candidate w.carried = some ordinal)
    (paced : Governed w.journal ∨ Untouched w.journal) :
    Rejoined threshold w.journal ∧ ordinal + 1 = lowest ∧
      Rolling threshold (w.rebuild ordinal sts.template) sts ordinal ∧
      Spent (w.rebuild ordinal sts.template) sts ordinal := by
  obtain ⟨next, allowed⟩ := SentinelSTS.candidate_eq rolling.frontier rolling.bound candidate
  have tight : Governed w.journal → sts.partition = lowest - 1 ∧
      (lowest < w.carried.length → ReportedSince threshold lowest w.journal) := fun governed =>
    (rolling.held governed).resolve_left (by omega)
  have rebuilt : RebuiltLast ordinal (w.rebuild ordinal sts.template).journal := .start rfl
  have size : (w.rebuild ordinal sts.template).carried.length = w.carried.length := by
    rw [Cluster.carried_rebuild, List.length_set]
  refine ⟨?_, next, ⟨?_, ?_, .inr (.inr ⟨?_, rebuilt⟩), fun governed => .inl ?_⟩,
    fun governed => ?_, fun _ => rebuilt.not_untouched⟩
  · rcases rolling.past with top | ⟨-, rejoined⟩ | ⟨inside, last⟩
    · omega
    · exact rejoined
    · intro other found
      cases last.lastRecreated.symm.trans found
      rcases paced with governed | untouched
      · exact (tight governed).2 inside
      · exact absurd untouched last.not_untouched
  · rw [size]
    have := rolling.bound
    omega
  · intro other revision found
    rw [Cluster.carried_rebuild, List.getElem?_set] at found
    have bound := rolling.bound
    by_cases here : ordinal = other
    · rw [if_pos here, if_pos (by omega)] at found
      simp [← Option.some.inj found, here]
    · rw [if_neg here] at found
      rw [rolling.frontier other revision found]
      omega
  · rw [size]
    have := rolling.bound
    omega
  · have := (tight (governed_rebuild.mp governed)).1
    omega
  · have := (tight (governed_rebuild.mp governed)).1
    omega

private theorem Spent.stuck (spent : Spent w sts lowest) (rolling : Rolling threshold w sts lowest)
    (candidate : sts.candidate w.carried = some ordinal) :
    ¬(Governed w.journal ∨ Untouched w.journal) := by
  obtain ⟨next, allowed⟩ := SentinelSTS.candidate_eq rolling.frontier rolling.bound candidate
  rintro (governed | untouched)
  · have := spent.governed governed
    omega
  · by_cases governed : Governed w.journal
    · have := spent.governed governed
      omega
    · exact spent.ungoverned governed untouched

end Rolling

/-- While the run is paced, rebuilds were gated and the roll goes on. -/
structure Sound (spec : SentinelSpec) (size : Nat) (w : Cluster) : Prop where
  spec_eq : w.spec = spec
  size_eq : w.carried.length = size
  gated : Always (Paced (sentinelRejoinThreshold spec)) w.journal →
    Always (GatesRebuild (sentinelRejoinThreshold spec)) w.journal ∧
      ∀ sts, w.sts = some sts → ∃ lowest, Rolling (sentinelRejoinThreshold spec) w sts lowest

/-- A pass listed pods at `listed` and asked one; one was rebuilt since. -/
structure Midway (spec : SentinelSpec) (size : Nat) (template : String) (listed : Nat)
    (told : Bool) (w : Cluster) : Prop where
  sound : Sound spec size w
  near : Always (Paced (sentinelRejoinThreshold spec)) w.journal →
    ∃ sts lowest, w.sts = some sts ∧ sts.template = template ∧
      Rolling (sentinelRejoinThreshold spec) w sts lowest ∧
      ((lowest = listed ∧
        (told = true → ReportedSince (sentinelRejoinThreshold spec) listed w.journal)) ∨
        (lowest + 1 = listed ∧ Spent w sts lowest))

variable {partition : Int} {inv : Cluster → Prop}

section States

variable {spec : SentinelSpec} {size : Nat} {template : String} {listed : Nat} {told : Bool}
  {w : Cluster}

theorem Sound.step (sound : Sound spec size w) (step : RollStep) :
    Sound spec size (w.step step) := by
  rcases w.step_cases step with quiet | ⟨sts, ordinal, found, candidate, eq⟩
  · refine ⟨quiet.spec.trans sound.spec_eq, quiet.carried ▸ sound.size_eq, fun paced => ?_⟩
    rw [quiet.journal] at paced ⊢
    refine ⟨(sound.gated paced).1, fun sts found => ?_⟩
    obtain ⟨lowest, rolling⟩ := (sound.gated paced).2 sts (quiet.sts ▸ found)
    exact ⟨lowest, rolling.quiet quiet⟩
  · rw [eq]
    refine ⟨sound.spec_eq, ?_, fun paced => ?_⟩
    · rw [Cluster.carried_rebuild, List.length_set, sound.size_eq]
    · obtain ⟨here, before⟩ := always_cons.mp paced
      obtain ⟨gates, rolls⟩ := sound.gated before
      obtain ⟨lowest, rolling⟩ := rolls sts found
      obtain ⟨rejoined, -, rolling, -⟩ := rolling.rebuild candidate here
      refine ⟨.cons (fun _ => rejoined) gates, fun sts' found' => ⟨ordinal, ?_⟩⟩
      cases found.symm.trans found'
      exact rolling

theorem Midway.step (midway : Midway spec size template listed told w) (step : RollStep) :
    Midway spec size template listed told (w.step step) := by
  refine ⟨midway.sound.step step, fun paced => ?_⟩
  rcases w.step_cases step with quiet | ⟨sts, ordinal, found, candidate, eq⟩
  · rw [quiet.journal] at paced ⊢
    obtain ⟨sts, lowest, found, named, rolling, close⟩ := midway.near paced
    refine ⟨sts, lowest, quiet.sts.trans found, named, rolling.quiet quiet, ?_⟩
    exact close.imp_right fun ⟨next, spent⟩ => ⟨next, spent.quiet quiet⟩
  · rw [eq] at paced ⊢
    obtain ⟨here, before⟩ := always_cons.mp paced
    obtain ⟨sts', lowest, found', named, rolling, close⟩ := midway.near before
    cases found.symm.trans found'
    rcases close with ⟨same, -⟩ | ⟨-, spent⟩
    · obtain ⟨-, next, rolling, spent⟩ := rolling.rebuild candidate here
      exact ⟨sts, ordinal, found, named, rolling, .inr ⟨next.trans same, spent⟩⟩
    · exact absurd here (spent.stuck rolling candidate)

theorem interleave_keeps (steps : List RollStep) (keep : ∀ w step, inv w → inv (w.step step)) :
    Within (Keeps inv) (interleave steps) := by
  refine .write fun w start => ?_
  induction steps generalizing w with
  | nil => exact start
  | cons step steps ih => exact ih (w.step step) (keep w step start)

theorem Cluster.step_sts (w : Cluster) (step : RollStep) : (w.step step).sts = w.sts := by
  rcases w.step_cases step with quiet | ⟨sts, ordinal, -, -, eq⟩
  · exact quiet.sts
  · rw [eq]
    rfl

variable {threshold : Int}

theorem Rejoined.cons {line : RollLine} (rejoined : Rejoined threshold history)
    (quiet : line.recreates = none) : Rejoined threshold (line :: history) := by
  intro ordinal found
  refine .later quiet (rejoined ordinal ?_)
  simpa [lastRecreated, quiet] using found

private def Cluster.report (ordinal peers : Int) (w : Cluster) : Cluster :=
  { w with journal := .reported ordinal peers :: w.journal }

theorem governed_report {ordinal peers : Int} :
    Governed (.reported ordinal peers :: history) ↔ Governed history := by
  simp [Governed, RollLine.informed, RollLine.applies]

private theorem untouched_report {ordinal peers : Int} :
    Untouched (.reported ordinal peers :: history) ↔ Untouched history := by
  simp [Untouched, RollLine.recreates, RollLine.changes]

theorem Rolling.report (rolling : Rolling threshold w sts lowest) (ordinal peers : Int) :
    Rolling threshold (w.report ordinal peers) sts lowest where
  bound := rolling.bound
  frontier := rolling.frontier
  past := by
    rcases rolling.past with top | ⟨all, rejoined⟩ | ⟨inside, last⟩
    · exact .inl top
    · exact .inr (.inl ⟨all, rejoined.cons rfl⟩)
    · exact .inr (.inr ⟨inside, .later ⟨rfl, rfl⟩ last⟩)
  held governed := (rolling.held (governed_report.mp governed)).imp_right fun ⟨tight, reported⟩ =>
    ⟨tight, fun inside => .later rfl (reported inside)⟩

theorem Sound.report (sound : Sound spec size w) (ordinal peers : Int) :
    Sound spec size (w.report ordinal peers) := by
  refine ⟨sound.spec_eq, sound.size_eq, fun paced => ?_⟩
  obtain ⟨gates, rolls⟩ := sound.gated (always_cons.mp paced).2
  refine ⟨.cons (fun rebuilt => absurd rfl rebuilt) gates, fun sts found => ?_⟩
  obtain ⟨lowest, rolling⟩ := rolls sts found
  exact ⟨lowest, rolling.report ordinal peers⟩

private theorem Midway.report (midway : Midway spec size template listed told w) (peers : Int) :
    Midway spec size template listed (decide (sentinelRejoinThreshold spec ≤ peers))
      (w.report listed peers) := by
  refine ⟨midway.sound.report listed peers, fun paced => ?_⟩
  obtain ⟨sts, lowest, found, named, rolling, close⟩ := midway.near (always_cons.mp paced).2
  refine ⟨sts, lowest, found, named, rolling.report listed peers, ?_⟩
  rcases close with ⟨same, -⟩ | ⟨next, spent⟩
  · refine .inl ⟨same, fun enough => .start ?_⟩
    simpa [RollLine.reports] using enough
  · exact .inr ⟨next, fun governed => spent.governed (governed_report.mp governed),
      fun ungoverned untouched => spent.ungoverned (mt governed_report.mpr ungoverned)
        (untouched_report.mp untouched)⟩

/-- The partition suits a roll that has come down to an ordinal. -/
def Suits (size : Nat) (partition : Int) (lowest : Nat) (told : Prop) : Prop :=
  lowest ≤ partition ∨ (partition = lowest - 1 ∧ (lowest < size → told))

/-- Applying the template in force again only moves the partition. -/
theorem Rolling.apply (rolling : Rolling threshold w sts lowest) (found : w.sts = some sts)
    (named : sts.template = template) (got : Got)
    (held : Governed (w.applySTS template partition got).journal →
      Suits w.carried.length partition lowest
        (ReportedSince threshold lowest (w.applySTS template partition got).journal)) :
    Rolling threshold (w.applySTS template partition got) { template, partition } lowest where
  bound := rolling.bound
  frontier := named ▸ rolling.frontier
  past := by
    have unchanged : RollLine.changes (.applied (w.sts.map SentinelSTS.template) template got
      w.carried) = false := by simp [RollLine.changes, found, named]
    rcases rolling.past with top | ⟨all, rejoined⟩ | ⟨inside, last⟩
    · exact .inl top
    · exact .inr (.inl ⟨all, rejoined.cons rfl⟩)
    · exact .inr (.inr ⟨inside, .later ⟨rfl, unchanged⟩ last⟩)
  held := held

/-- Applying keeps the invariant if the partition suits the roll. -/
theorem Sound.apply {got : Got} (sound : Sound spec size w)
    (suits : ∀ sts revisions, w.sts = some sts → sts.template = template →
      got = .found revisions → revisions.target = template → revisions.pending = true →
      Always (Paced (sentinelRejoinThreshold spec)) w.journal →
      ∃ lowest, Rolling (sentinelRejoinThreshold spec) w sts lowest ∧
        Suits size partition lowest
          (ReportedSince (sentinelRejoinThreshold spec) lowest w.journal)) :
    Sound spec size (w.applySTS template partition got) := by
  refine ⟨sound.spec_eq, sound.size_eq, fun paced => ?_⟩
  obtain ⟨here, before⟩ := always_cons.mp paced
  obtain ⟨gates, rolls⟩ := sound.gated before
  refine ⟨.cons (fun rebuilt => absurd rfl rebuilt) gates, ?_⟩
  rintro sts' ⟨rfl⟩
  have governs : Governed (w.applySTS template partition got).journal →
      w.sts.map SentinelSTS.template = some template ∧ ∃ revisions, got = .found revisions ∧
        revisions.target = template ∧ revisions.pending = true := by
    intro governed
    rcases since_cons.mp governed with informed | ⟨silent, -⟩
    · cases got <;> simp_all [RollLine.informed]
    · simp [RollLine.applies] at silent
  by_cases same : w.sts.map SentinelSTS.template = some template
  · obtain ⟨sts, found, named⟩ := Option.map_eq_some_iff.mp same
    by_cases governed : Governed (w.applySTS template partition got).journal
    · obtain ⟨-, revisions, read, target, pending⟩ := governs governed
      obtain ⟨lowest, rolling, fits⟩ := suits sts revisions found named read target pending before
      refine ⟨lowest, rolling.apply found named got fun _ => ?_⟩
      rw [sound.size_eq]
      exact fits.imp_right fun ⟨tight, reported⟩ =>
        ⟨tight, fun inside => .later rfl (reported inside)⟩
    · obtain ⟨lowest, rolling⟩ := rolls sts found
      exact ⟨lowest, rolling.apply found named got fun known => absurd known governed⟩
  · rcases here with held | all | ⟨none, rejoined⟩
    · exact absurd held same
    · refine ⟨0, Nat.zero_le _, fun ordinal revision found => ?_, .inl rfl,
        fun governed => absurd (governs governed).1 same⟩
      simp [all revision (List.mem_of_getElem? found)]
    · refine ⟨w.carried.length, Nat.le_refl _, fun ordinal revision found => ?_,
        .inr (.inl ⟨rfl, rejoined.cons rfl⟩), fun governed => absurd (governs governed).1 same⟩
      have inside : ordinal < w.carried.length := (List.getElem?_eq_some_iff.mp found).1
      have stale : revision ≠ template := none revision (List.mem_of_getElem? found)
      simp [stale, inside]

end States

section Passes

variable {spec : SentinelSpec} {size : Nat}

/-- A run that has lost its pace stays so. -/
def Unpaced (spec : SentinelSpec) (w : Cluster) : Prop :=
  ¬Always (Paced (sentinelRejoinThreshold spec)) w.journal

theorem interleave_sound (steps : List RollStep) :
    Within (Keeps (Sound spec size)) (interleave steps) :=
  interleave_keeps steps fun _ step sound => sound.step step

variable {w : Cluster}

theorem Unpaced.step (unpaced : Unpaced spec w) (step : RollStep) : Unpaced spec (w.step step) := by
  refine fun paced => unpaced ?_
  rcases w.step_cases step with quiet | ⟨sts, ordinal, -, -, eq⟩
  · exact quiet.journal ▸ paced
  · rw [eq] at paced
    exact (always_cons.mp paced).2

private theorem Unpaced.report (unpaced : Unpaced spec w) (ordinal peers : Int) :
    Unpaced spec (w.report ordinal peers) :=
  fun paced => unpaced (always_cons.mp paced).2

/-- What a pass that knows the revision in force may rely on when it applies. -/
def Prepared (spec : SentinelSpec) (size : Nat) (template : String) (partition : Int)
    (w : Cluster) : Prop :=
  ∃ listed told, Midway spec size template listed told w ∧
    Suits size partition listed (told = true)

variable {template : String} {input : RollInput} {listed : Nat} {pods : List ListedPod}

private theorem sentinelPodRejoined_midway {told : Bool}
    (midway : Midway spec size template listed told w) :
    (sentinelPodRejoined spec pods listed (sentinelRejoinThreshold spec) input).wp
      (Sound spec size) (fun rejoined final => ∃ told, Midway spec size template listed told final ∧
        (rejoined = true → told = true)) w := by
  unfold sentinelPodRejoined
  simp only [wp_ite, wp_pure]
  refine ⟨fun _ => ⟨told, midway, by simp⟩, fun _ => ?_⟩
  cases input.peers with
  | none => exact wp_pure.mpr ⟨told, midway, by simp⟩
  | some peers =>
      simp only [wp_bind, wp_write, wp_pure]
      exact ⟨midway.sound.report listed peers, _, midway.report peers, id⟩

/-- What steps and reports keep, the computation keeps. -/
theorem frontierPartition_keeps (step : ∀ w step, inv w → inv (w.step step))
    (report : ∀ w ordinal peers, inv w → inv (w.report ordinal peers)) (updateRev : String)
    (input : RollInput) : Within (Keeps inv) (frontierPartition spec updateRev input) := by
  refine .bind (.read _) fun _ => .ite (.pure _) (.ite (.pure _) (.bind (interleave_keeps _ step)
    fun _ => .ite (.bind (.pure _) fun _ => .ite (.pure _) (.pure _))
      (.bind (.ite (.pure _) ?_) fun _ => .ite (.pure _) (.pure _))))
  cases input.peers with
  | none => exact .pure _
  | some peers => exact .bind (.write fun w => report w _ _) fun _ => .pure _

private theorem computeSentinelRollPartition_keeps (step : ∀ w step, inv w → inv (w.step step))
    (report : ∀ w ordinal peers, inv w → inv (w.report ordinal peers)) (got : Got)
    (input : RollInput) : Within (Keeps inv) (computeSentinelRollPartition spec got input) := by
  cases got with
  | failed => exact .pure _
  | notFound => exact .pure _
  | found revisions =>
      exact .ite (.pure _) (.bind (interleave_keeps _ step) fun _ => .ite (.pure _)
        (frontierPartition_keeps step report _ _))

/-- Past a rolled pod the partition goes down if that has rejoined. -/
theorem advancePartition_prepares (gated : 0 < sentinelRejoinThreshold spec) (positive : 0 < listed)
    (midway : Midway spec size template listed false w) :
    (advancePartition spec pods listed input).wp (Sound spec size)
      (fun partition final => Prepared spec size template partition final) w := by
  unfold advancePartition
  simp only [wp_bind, wp_ite, wp_pure]
  have steps : Within (Keeps (Midway spec size template listed false))
    (interleave input.beforeDial) := interleave_keeps _ fun _ step midway => midway.step step
  refine wp_mono (steps.wp midway) (fun _ middle => middle.sound) fun _ middle midway => ?_
  refine ⟨fun ungated => absurd ungated (by omega), fun _ => ?_⟩
  refine wp_mono (sentinelPodRejoined_midway midway) (fun _ => id) ?_
  rintro rejoined final ⟨told, midway, sure⟩
  refine ⟨fun yes => ⟨listed, told, midway, .inr ⟨?_, fun _ => sure yes⟩⟩,
    fun _ => ⟨listed, told, midway, .inl (Int.le_refl _)⟩⟩
  split_ifs <;> omega

/-- A pass that lists the pods while the run is paced prepares its partition. -/
theorem frontierPartition_prepares (replicas : (size : Int) = sentinelReplicas spec)
    (bound : size ≤ 2 ^ 31) (gated : 0 < sentinelRejoinThreshold spec) (sound : Sound spec size w)
    (found : w.sts = some sts) (rolling : Rolling (sentinelRejoinThreshold spec) w sts lowest) :
    (frontierPartition spec sts.template input).wp (Sound spec size)
      (fun partition final => Prepared spec size sts.template partition final) w := by
  have length : w.pods.length = size := by simpa [Cluster.carried] using sound.size_eq
  have inside : lowest ≤ size := sound.size_eq ▸ rolling.bound
  have midway : Midway spec size sts.template lowest false w :=
    ⟨sound, fun _ => ⟨sts, lowest, found, rfl, rolling, .inl ⟨rfl, nofun⟩⟩⟩
  have scanned := scanRolled_eq spec.stsName (by omega)
    (show (w.pods.length : Int) ≤ sentinelReplicas spec by omega) rolling.frontier
  have listed : listSentinelPodsFor w = w.pods.mapIdx fun ordinal pod =>
    ⟨sentinelPodName spec.stsName ordinal, pod.revision, pod.podIP⟩ := by
    rw [listSentinelPodsFor, sound.spec_eq]
  unfold frontierPartition
  simp only [wp_bind, wp_read, wp_ite, wp_pure]
  rw [← listed] at scanned
  simp only [scanned, length]
  refine ⟨fun done => ⟨lowest, false, midway, .inl ?_⟩, fun more => ⟨fun none => ⟨lowest, false,
    midway, .inr ⟨?_, fun rolled => ?_⟩⟩, fun some => ?_⟩⟩
  · omega
  · omega
  · omega
  · rw [if_pos (by omega)]
    exact advancePartition_prepares gated (by omega) midway

/-- The partition computed for the revision in force suits the roll. -/
theorem computeSentinelRollPartition_wp (got : Got) (input : RollInput)
    (replicas : (size : Int) = sentinelReplicas spec) (bound : size ≤ 2 ^ 31)
    (gated : 0 < sentinelRejoinThreshold spec) (sound : Sound spec size w) :
    (computeSentinelRollPartition spec got input).wp (Sound spec size)
      (fun partition final => Sound spec size final ∧ ∀ sts revisions, w.sts = some sts →
        got = .found revisions → revisions.target = sts.template → revisions.pending = true →
        ¬Unpaced spec final → Prepared spec size sts.template partition final) w := by
  unfold computeSentinelRollPartition
  cases got with
  | failed => exact wp_pure.mpr ⟨sound, by simp⟩
  | notFound => exact wp_pure.mpr ⟨sound, by simp⟩
  | found revisions =>
      simp only [wp_bind, wp_ite, wp_pure]
      refine ⟨fun settled => ⟨sound, ?_⟩, fun _ => ?_⟩
      · intro sts other _ read _ pending
        cases read
        simp [pending] at settled
      have listing := ((interleave_sound input.beforeList).and (interleave_keeps input.beforeList
        fun w' step (kept : w'.sts = w.sts) => (w'.step_sts step).trans kept)).wp ⟨sound, rfl⟩
      refine wp_mono listing (fun _ => And.left) ?_
      rintro - w' ⟨sound', sts_eq⟩
      refine ⟨fun _ => ⟨sound', ?_⟩, fun _ => ?_⟩
      · intro sts other found read target pending paced
        obtain ⟨lowest, rolling⟩ := (sound'.gated (not_not.mp paced)).2 sts (sts_eq.trans found)
        refine ⟨lowest, false, ⟨sound', fun _ => ⟨sts, lowest, sts_eq.trans found, rfl, rolling,
          .inl ⟨rfl, by simp⟩⟩⟩, .inl ?_⟩
        have := rolling.bound
        rw [sound'.size_eq] at this
        omega
      · by_cases unpaced : Unpaced spec w'
        · have kept : Within (Keeps fun w => Sound spec size w ∧ Unpaced spec w)
              (frontierPartition spec revisions.target input) :=
            frontierPartition_keeps (fun _ step start => ⟨start.1.step step, start.2.step step⟩)
              (fun _ ordinal peers start =>
                ⟨start.1.report ordinal peers, start.2.report ordinal peers⟩) _ _
          exact wp_mono (kept.wp ⟨sound', unpaced⟩) (fun _ => And.left)
            fun _ _ final => ⟨final.1, fun _ _ _ _ _ _ paced => absurd final.2 paced⟩
        by_cases known : ∃ sts, w.sts = some sts ∧ revisions.target = sts.template
        · obtain ⟨sts, found, target⟩ := known
          obtain ⟨lowest, rolling⟩ :=
            (sound'.gated (not_not.mp unpaced)).2 sts (sts_eq.trans found)
          rw [target]
          refine wp_mono (frontierPartition_prepares replicas bound gated sound'
            (sts_eq.trans found) rolling) (fun _ => id) fun partition final prepared => ?_
          obtain ⟨listed, told, midway, suits⟩ := prepared
          refine ⟨midway.sound, fun other _ found' _ _ _ _ => ?_⟩
          cases found.symm.trans found'
          exact ⟨listed, told, midway, suits⟩
        · have kept : Within (Keeps (Sound spec size))
              (frontierPartition spec revisions.target input) :=
            frontierPartition_keeps (fun _ step sound => sound.step step)
              (fun _ ordinal peers sound => sound.report ordinal peers) _ _
          refine wp_mono (kept.wp sound') (fun _ => id) fun _ _ final =>
            ⟨final, fun sts other found read target => ?_⟩
          cases read
          exact absurd ⟨sts, found, target⟩ known

/-- A prepared partition still suits the roll when it is applied. -/
theorem Prepared.suits (prepared : Prepared spec size template partition w)
    (found : w.sts = some sts) (paced : Always (Paced (sentinelRejoinThreshold spec)) w.journal) :
    ∃ lowest, Rolling (sentinelRejoinThreshold spec) w sts lowest ∧ Suits size partition lowest
      (ReportedSince (sentinelRejoinThreshold spec) lowest w.journal) := by
  obtain ⟨listed, told, midway, suits⟩ := prepared
  obtain ⟨sts', lowest, found', -, rolling, close⟩ := midway.near paced
  cases found.symm.trans found'
  refine ⟨lowest, rolling, ?_⟩
  rcases close with ⟨rfl, reported⟩ | ⟨next, -⟩
  · exact suits.imp_right fun ⟨tight, sure⟩ => ⟨tight, fun inside => reported (sure inside)⟩
  · rcases suits with above | ⟨tight, -⟩
    · exact .inl (by omega)
    · exact .inl (by omega)

private theorem Prepared.step (prepared : Prepared spec size template partition w)
    (step : RollStep) : Prepared spec size template partition (w.step step) := by
  obtain ⟨listed, told, midway, suits⟩ := prepared
  exact ⟨listed, told, midway.step step, suits⟩

private theorem rollSentinels_sound (replicas : (size : Int) = sentinelReplicas spec)
    (bound : size ≤ 2 ^ 31) (gated : 0 < sentinelRejoinThreshold spec) (input : RollInput) :
    Within (Keeps (Sound spec size)) (rollSentinels input) := by
  refine .of_wp fun w sound => ?_
  unfold rollSentinels
  simp only [wp_ite, wp_pure, wp_bind, wp_read]
  refine ⟨fun _ => sound, fun _ => ?_⟩
  rw [sound.spec_eq]
  refine wp_mono ((interleave_sound input.beforeGet).wp sound) (fun _ => id)
    fun _ w' sound' => ?_
  let got : Got :=
    if input.getFails then .failed else if w'.sts = none then .notFound else .found w'.status
  have computed := computeSentinelRollPartition_wp got input replicas bound gated sound'
  have unmoved : Within (Keeps fun w => w.sts = w'.sts)
      (computeSentinelRollPartition spec got input) :=
    computeSentinelRollPartition_keeps (fun w step kept => (w.step_sts step).trans kept)
      (fun _ _ _ kept => kept) _ _
  refine wp_mono (wp_and computed (unmoved.wp rfl)) (fun _ => And.left) ?_
  rintro partition middle ⟨⟨sound'', prepared⟩, kept⟩
  -- What a pass that knows the revision relies on survives the steps before it applies.
  let ready (w : Cluster) : Prop := Sound spec size w ∧ w.sts = w'.sts ∧
    ∀ sts revisions, w'.sts = some sts → got = .found revisions → revisions.target = sts.template →
      revisions.pending = true → ¬Unpaced spec w → Prepared spec size sts.template partition w
  have steps : Within (Keeps ready) (interleave input.beforeApply) := by
    refine interleave_keeps _ fun w step => ?_
    rintro ⟨sound, kept, prepared⟩
    refine ⟨sound.step step, (w.step_sts step).trans kept, ?_⟩
    intro sts revisions found read target pending paced
    exact (prepared sts revisions found read target pending fun unpaced =>
      paced (unpaced.step step)).step step
  refine wp_mono (steps.wp ⟨sound'', kept, prepared⟩) (fun _ => And.left) ?_
  rintro - last ⟨sound, kept, prepared⟩
  have applied : Sound spec size (last.applySTS w.template partition got) := by
    refine sound.apply fun sts revisions found named read target pending paced => ?_
    exact (prepared sts revisions (kept ▸ found) read (target.trans named.symm) pending
      (not_not.mpr paced)).suits found paced
  exact ⟨fun _ => sound, fun _ => wp_write.mpr ⟨applied, applied⟩⟩

end Passes

/-- In a paced run no sentinel is rebuilt before the last one has reported enough others. -/
theorem sentinelRoller_gatesRebuild (acts : List (Act RollInput RollStep)) {w : Cluster}
    (start : w.journal = []) (replicas : (w.pods.length : Int) = sentinelReplicas w.spec)
    (bound : w.pods.length ≤ 2 ^ 31) (gated : 0 < sentinelRejoinThreshold w.spec)
    (settled : ∀ sts, w.sts = some sts → ∀ pod ∈ w.pods, pod.revision = sts.template)
    (paced : Always (Paced (sentinelRejoinThreshold w.spec)) (sentinelRoller.run acts w).journal) :
    Always (GatesRebuild (sentinelRejoinThreshold w.spec))
      (sentinelRoller.run acts w).journal := by
  have sound : Sound w.spec w.pods.length w := by
    refine ⟨rfl, List.length_map _, fun _ => ⟨start ▸ .nil, fun sts found => ⟨0, ?_⟩⟩⟩
    refine ⟨Nat.zero_le _, fun ordinal revision carried => ?_, .inl rfl, fun governed => ?_⟩
    · obtain ⟨pod, mem, rfl⟩ := List.mem_map.mp (List.mem_of_getElem? carried)
      simp [settled sts found pod mem]
    · rw [start] at governed
      exact absurd governed not_since_nil
  have final : Sound w.spec w.pods.length (sentinelRoller.run acts w) :=
    @System.run_invariant _ _ _ _ sentinelRoller w (Sound w.spec w.pods.length)
      (fun input _ sound => (rollSentinels_sound replicas bound gated input).wp sound)
      (fun _ => id) (fun step _ sound => sound.step step) acts sound
  exact (final.gated paced).1

/-- Three sentinels at revision `a` with a quorum of two, and nothing to roll. -/
def settledSentinels : Cluster :=
  { spec := { name := "vk", replicas := 3, quorum := 2 }
    template := "a", sts := some { template := "a", partition := 0 }, status := ⟨"a", "a"⟩
    pods := [{ revision := "a", podIP := "10.0.1.1" }, { revision := "a", podIP := "10.0.1.2" },
      { revision := "a", podIP := "10.0.1.3" }] }

/-- An edit is applied, and the controller rebuilds the highest pod. -/
def rollActs : List (Act RollInput RollStep) :=
  [.drift (.edit "b"), .call {}, .drift (.status ⟨"b", "a"⟩), .drift .recreate,
    .drift (.pod 2 true "10.0.1.3")]

/-- Applied without a partition, the edit has the next pod rebuilt before the first was asked. -/
theorem sentinelRoller_rebuilds_unreported :
    ∃ earlier, (sentinelRoller.run (rollActs ++ [.drift .recreate]) settledSentinels).journal =
        .recreated 1 "b" :: earlier ∧
      lastRecreated earlier = some 2 ∧ ¬ReportedSince 1 2 earlier :=
  ⟨(sentinelRoller.run (rollActs ++ [.drift .recreate]) settledSentinels).journal.tail,
    by decide⟩

/-- A pass in between asks the first pod, and moves the partition to the next. -/
theorem sentinelRoller_gates_informed :
    Always (Paced 1) (sentinelRoller.run (rollActs ++ [.call { peers := some 2 }, .drift .recreate])
        settledSentinels).journal ∧
      lastRecreated (sentinelRoller.run (rollActs ++ [.call { peers := some 2 }, .drift .recreate])
        settledSentinels).journal = some 1 ∧
      Always (GatesRebuild (sentinelRejoinThreshold settledSentinels.spec)) (sentinelRoller.run
        (rollActs ++ [.call { peers := some 2 }, .drift .recreate]) settledSentinels).journal := by
  have paced : Always (Paced 1) (sentinelRoller.run
      (rollActs ++ [.call { peers := some 2 }, .drift .recreate]) settledSentinels).journal := by
    decide
  refine ⟨paced, by decide, sentinelRoller_gatesRebuild _ rfl rfl (by decide) (by decide) ?_
    paced⟩
  rintro sts ⟨rfl⟩
  decide

/-- A read that fails while the partition holds the roll releases it. -/
example : (sentinelRoller.run (rollActs ++ [.call {}, .call { getFails := true }, .drift .recreate])
    settledSentinels).journal.head? = some (.recreated 1 "b") := by
  decide

end Velkir
