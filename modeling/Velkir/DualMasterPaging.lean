import Velkir.CommaJoin
import Velkir.Machine
import Velkir.SortedUnion

/-!
# Paging a split

A scan that finds several masters adds them to the episode, and pages if the joined names differ
from those last paged.
-/

namespace Velkir.DualMaster

open CommaJoin Machine SortedUnion

/-- The masters that a scan saw. -/
structure Observation where
  observedAt : Nat
  pods : List String
deriving DecidableEq

/-- What is kept of a split: the latest stamp, the names paged and the pods. -/
structure Episode where
  dualMasterObserved : Option Observation := none
  dualMasterObservedEdge : String := ""
  dualMasterEventUnion : List String := []
deriving DecidableEq

/-- Stamp the masters seen. -/
def stampDualMasterObserved (pods : List String) (now : Nat) (episode : Episode) : Episode :=
  { episode with dualMasterObserved := some ⟨now, pods.insertionSort (· ≤ ·)⟩ }

/-- The joined pods of the episode, with those of a scan added. -/
def foldDualMasterEventUnion (pods : List String) (episode : Episode) : String × Episode :=
  let union := mergeSortedUnique episode.dualMasterEventUnion (pods.insertionSort (· ≤ ·))
  (",".intercalate union, { episode with dualMasterEventUnion := union })

/-- Page unless this was paged last. -/
def fireDualMasterObservedEdge (sig : String) (episode : Episode) : Bool × Episode :=
  if episode.dualMasterObservedEdge = sig then (false, episode)
  else (true, { episode with dualMasterObservedEdge := sig })

/-- Forget the episode. -/
def resetDualMasterState (_ : Episode) : Episode := {}

def clearDualMasterObserved (episode : Episode) : Episode := resetDualMasterState episode

/-- Whether the split is recent; forget it otherwise. -/
def dualMasterActiveOrExpire (isActive : Option Observation → Bool) (episode : Episode) :
    Bool × Episode :=
  if isActive episode.dualMasterObserved then (true, episode)
  else if episode.dualMasterObserved ≠ none then (false, resetDualMasterState episode)
  else (false, episode)

/-- The two scans that page feed the joined pods of the episode to the edge. -/
def scanDualMaster (pods : List String) (episode : Episode) : Bool × Episode :=
  let (sig, episode) := foldDualMasterEventUnion pods episode
  fireDualMasterObservedEdge sig episode

/-- The calls about a split. -/
inductive Act
  | scan (pods : List String)
  | stamp (pods : List String) (now : Nat)
  | clear
  | expire (isActive : Option Observation → Bool)

/-- One call about a split. -/
def step : Act → Episode → Episode
  | .scan pods, episode => (scanDualMaster pods episode).2
  | .stamp pods now, episode => stampDualMasterObserved pods now episode
  | .clear, episode => clearDualMasterObserved episode
  | .expire isActive, episode => (dualMasterActiveOrExpire isActive episode).2

/-- The pods that a call reports. -/
def Act.pods : Act → List String
  | .scan pods => pods
  | _ => []

def Act.ends : Act → Episode → Bool
  | .clear, _ => true
  | .expire isActive, episode =>
      episode.dualMasterObserved.isSome && !isActive episode.dualMasterObserved
  | _, _ => false

/-- The pods of all scans since the episode began. -/
def seenFrom : Episode → List String → List Act → List String
  | _, seen, [] => seen
  | episode, seen, act :: acts =>
      seenFrom (step act episode) (if act.ends episode then [] else seen ++ act.pods) acts

def seen (acts : List Act) : List String := seenFrom {} [] acts

/-- The episode holds exactly the pods seen. -/
structure Paged (seen : List String) (episode : Episode) : Prop where
  sorted : episode.dualMasterEventUnion.Pairwise (· < ·)
  members : ∀ pod, pod ∈ episode.dualMasterEventUnion ↔ pod ∈ seen
  edge : episode.dualMasterObservedEdge = ",".intercalate episode.dualMasterEventUnion

section Scan

variable {acts : List Act} {known pods pods' : List String} {episode : Episode}

private theorem fireDualMasterObservedEdge_eq (sig : String) (episode : Episode) :
    fireDualMasterObservedEdge sig episode =
      (decide (episode.dualMasterObservedEdge ≠ sig),
        { episode with dualMasterObservedEdge := sig }) := by
  unfold fireDualMasterObservedEdge
  split
  next same => simp [← same]
  next differ => simp [differ]

theorem scanDualMaster_eq (pods : List String) (episode : Episode) :
    let union := mergeSortedUnique episode.dualMasterEventUnion (pods.insertionSort (· ≤ ·))
    scanDualMaster pods episode =
      (decide (episode.dualMasterObservedEdge ≠ ",".intercalate union),
        { episode with
          dualMasterEventUnion := union
          dualMasterObservedEdge := ",".intercalate union }) :=
  fireDualMasterObservedEdge_eq _ _

theorem union_scan (pods : List String) (sorted : episode.dualMasterEventUnion.Pairwise (· < ·)) :
    (scanDualMaster pods episode).2.dualMasterEventUnion.Pairwise (· < ·) ∧
      ∀ pod, pod ∈ (scanDualMaster pods episode).2.dualMasterEventUnion ↔
        pod ∈ episode.dualMasterEventUnion ∨ pod ∈ pods := by
  have merged := mergeSortedUnique_spec (sorted.imp le_of_lt)
    (List.pairwise_insertionSort (· ≤ ·) pods)
  simpa only [scanDualMaster_eq, List.mem_insertionSort] using merged

private theorem scanDualMaster_perm (perm : pods.Perm pods') :
    scanDualMaster pods episode = scanDualMaster pods' episode := by
  have sorted : pods.insertionSort (· ≤ ·) = pods'.insertionSort (· ≤ ·) :=
    (((List.perm_insertionSort _ pods).trans perm).trans
      (List.perm_insertionSort _ pods').symm).eq_of_pairwise'
      (List.pairwise_insertionSort _ pods) (List.pairwise_insertionSort _ pods')
  unfold scanDualMaster foldDualMasterEventUnion
  rw [sorted]

private theorem Paged.scan (paged : Paged known episode) :
    Paged (known ++ pods) (scanDualMaster pods episode).2 := by
  obtain ⟨sorted, members⟩ := union_scan pods paged.sorted
  refine ⟨sorted, fun pod => ?_, by rw [scanDualMaster_eq]⟩
  rw [members, paged.members, List.mem_append]

private theorem Paged.fires_iff (paged : Paged known episode) (named : ∀ pod ∈ known, Piece pod)
    (names : ∀ pod ∈ pods, Piece pod) :
    (scanDualMaster pods episode).1 = true ↔ ∃ pod ∈ pods, pod ∉ known := by
  obtain ⟨sorted, members⟩ := union_scan pods paged.sorted
  have before : ∀ pod ∈ episode.dualMasterEventUnion, Piece pod :=
    fun pod mem => named pod ((paged.members pod).mp mem)
  have after : ∀ pod ∈ (scanDualMaster pods episode).2.dualMasterEventUnion, Piece pod :=
    fun pod mem => ((members pod).mp mem).elim (before pod) (names pod)
  have changed : (scanDualMaster pods episode).1 = true ↔
      episode.dualMasterEventUnion ≠ (scanDualMaster pods episode).2.dualMasterEventUnion := by
    rw [ne_eq, ← intercalate_inj before after, ← paged.edge, scanDualMaster_eq]
    exact decide_eq_true_iff
  rw [changed]
  constructor
  · intro differ
    by_contra! old
    refine differ (paged.sorted.eq_of_mem_iff sorted fun pod => ?_)
    rw [members, paged.members]
    exact ⟨.inl, fun mem => mem.elim id (old pod)⟩
  · rintro ⟨pod, mem, fresh⟩ same
    refine fresh ((paged.members pod).mp ?_)
    rw [same, members]
    exact .inr mem

end Scan

section Runs

variable {acts : List Act} {known : List String} {episode : Episode}

theorem paged_nil : Paged [] ({} : Episode) := ⟨.nil, by simp, String.intercalate_nil.symm⟩

private theorem Paged.step (paged : Paged known episode) (act : Act) :
    Paged (if act.ends episode then [] else known ++ act.pods) (step act episode) := by
  cases act with
  | scan pods => exact paged.scan
  | stamp pods now =>
      simp only [Act.ends, Act.pods, List.append_nil]
      exact ⟨paged.sorted, paged.members, paged.edge⟩
  | clear => exact paged_nil
  | expire isActive =>
      simp only [Act.ends, Act.pods, List.append_nil, DualMaster.step, dualMasterActiveOrExpire]
      cases active : isActive episode.dualMasterObserved with
      | true => simpa using paged
      | false =>
          cases stamp : episode.dualMasterObserved with
          | none => simpa using paged
          | some observation => simpa [resetDualMasterState] using paged_nil

private theorem Paged.run (paged : Paged known episode) (acts : List Act) :
    Paged (seenFrom episode known acts) (run DualMaster.step acts episode) := by
  induction acts generalizing known episode with
  | nil => exact paged
  | cons act acts ih => exact ih (paged.step act)

private theorem mem_seenFrom {pod : String} (mem : pod ∈ seenFrom episode known acts) :
    pod ∈ known ∨ ∃ act ∈ acts, pod ∈ act.pods := by
  induction acts generalizing known episode with
  | nil => exact .inl mem
  | cons act acts ih =>
      rcases ih mem with now | ⟨later, listed, mem⟩
      · split at now
        next => cases now
        next =>
          refine (List.mem_append.mp now).imp_right fun here => ?_
          exact ⟨act, List.mem_cons_self, here⟩
      · exact .inr ⟨later, List.mem_cons_of_mem _ listed, mem⟩

/-- The episode lists its pods in order, and a scan pages for a new one. -/
structure PagesNewPods (acts : List Act) : Prop where
  sorted : (run step acts {}).dualMasterEventUnion.Pairwise (· < ·)
  members : ∀ pod, pod ∈ (run step acts {}).dualMasterEventUnion ↔ pod ∈ seen acts
  fires : ∀ pods, (∀ pod ∈ pods, Piece pod) →
    ((scanDualMaster pods (run step acts {})).1 = true ↔ ∃ pod ∈ pods, pod ∉ seen acts)
  unordered : ∀ pods pods', pods.Perm pods' →
    scanDualMaster pods (run step acts {}) = scanDualMaster pods' (run step acts {})

/-- Within an episode every pod pages once. -/
theorem pagesNewPods (named : ∀ act ∈ acts, ∀ pod ∈ act.pods, Piece pod) :
    PagesNewPods acts := by
  have paged : Paged (seen acts) (run step acts {}) := paged_nil.run acts
  have names : ∀ pod ∈ seen acts, Piece pod := by
    intro pod mem
    rcases mem_seenFrom mem with none | ⟨act, listed, mem⟩
    · cases none
    · exact named act listed pod mem
  exact ⟨paged.sorted, paged.members, fun pods => paged.fires_iff names,
    fun pods pods' => scanDualMaster_perm⟩

theorem pagesNewPods_churn :
    let acts := [Act.scan ["v-1", "v-0"], .stamp ["v-0", "v-2"] 7, .scan ["v-0", "v-2", "v-0"]]
    (∀ act ∈ acts, ∀ pod ∈ act.pods, Piece pod) ∧ PagesNewPods acts := by
  intro acts
  have named : ∀ act ∈ acts, ∀ pod ∈ act.pods, Piece pod := by
    simp [acts, Act.pods, Piece]
  exact ⟨named, pagesNewPods named⟩

end Runs

end Velkir.DualMaster
