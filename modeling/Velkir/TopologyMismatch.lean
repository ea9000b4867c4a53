import Velkir.Observer
import Velkir.Phases

/-!
# Sentinels that know too few peers or replicas

Sentinels that know too few peers or replicas for the debounce are reported by one event, and by the
status.
-/

namespace Velkir.TopologyMismatch

def topologyMismatchDebounce : Nat := 60 * second

def topologyMismatchFreshnessWindow : Nat := 2 * topologyMismatchDebounce

/-- The streak of a dimension. -/
structure TopologyDimState where
  since : Option Nat := none
  active : Bool := false
  edge : Bool := false
  deficit : Int := 0
  deriving DecidableEq

/-- Whether the dimension is active and fires, and its next state. -/
def TopologyDimState.fold (d : TopologyDimState) (deficit : Int) (eligible : Bool)
    (now debounce : Nat) : (Bool × Bool) × TopologyDimState :=
  if !eligible ∨ deficit ≤ 0 then ((false, false), {})
  else
    let since := d.since.getD now
    if debounce ≤ now - since then
      ((true, !d.edge), { since := some since, active := true, edge := true, deficit })
    else ((false, false), { since := some since, active := false, edge := d.edge, deficit })

/-- What `crQuorumState` remembers of both dimensions. -/
structure Tracker where
  topologySentinel : TopologyDimState := {}
  topologyReplica : TopologyDimState := {}
  topologyMismatchObservedAt : Option Nat := none
  deriving DecidableEq

namespace Tracker

/-- Fold both deficits. -/
def foldTopologyMismatch (tracker : Tracker) (sentinelEligible : Bool) (sentinelDeficit : Int)
    (replicaEligible : Bool) (replicaDeficit : Int) (now : Nat) : (Bool × Bool) × Tracker :=
  let sentinel := tracker.topologySentinel.fold sentinelDeficit sentinelEligible now
    topologyMismatchDebounce
  let replica := tracker.topologyReplica.fold replicaDeficit replicaEligible now
    topologyMismatchDebounce
  ((sentinel.1.2, replica.1.2), ⟨sentinel.2, replica.2, some now⟩)

/-- The last observe pass is too old, or there was none. -/
def stale (tracker : Tracker) (now : Nat) : Bool :=
  match tracker.topologyMismatchObservedAt with
  | none => true
  | some observedAt => topologyMismatchFreshnessWindow < now - observedAt

/-- What is missing, if seen recently. -/
def topologyMismatchActiveOrExpire (tracker : Tracker) (now : Nat) :
    (Bool × Int × Int) × Tracker :=
  if tracker.stale now then
    ((false, 0, 0), { tracker with topologySentinel := {}, topologyReplica := {} })
  else
    let sentinelDeficit :=
      if tracker.topologySentinel.active then tracker.topologySentinel.deficit else 0
    let replicaDeficit :=
      if tracker.topologyReplica.active then tracker.topologyReplica.deficit else 0
    ((0 < sentinelDeficit ∨ 0 < replicaDeficit, sentinelDeficit, replicaDeficit), tracker)

end Tracker

/-- What an observe pass reads of a sentinel. -/
structure EndpointObservation where
  /-- Absent if the sentinel was never polled. -/
  observedAt : Option Nat := none
  knownReplicas : Int := 0
  knownSentinels : Int := 0
  countsValid : Bool := false
  deriving DecidableEq

/-- The counts over all sentinels: the fewest peers and the most replicas. -/
structure Counts where
  newestAt : Option Nat := none
  validCount : Nat := 0
  minSentinels : Int := 0
  maxReplicas : Int := 0
  deriving DecidableEq

/-- `Time.After`, where the zero time is before every other. -/
def after : Option Nat → Option Nat → Bool
  | none, _ => false
  | some _, none => true
  | some left, some right => right < left

/-- Count an answer. -/
def Counts.add (counts : Counts) (obs : EndpointObservation) : Counts :=
  let counts :=
    if after obs.observedAt counts.newestAt then { counts with newestAt := obs.observedAt }
    else counts
  if !obs.countsValid then counts
  else if counts.validCount = 0 then
    { counts with
      validCount := 1
      minSentinels := obs.knownSentinels
      maxReplicas := obs.knownReplicas }
  else
    { counts with
      validCount := counts.validCount + 1
      minSentinels := min obs.knownSentinels counts.minSentinels
      maxReplicas := max obs.knownReplicas counts.maxReplicas }

/-- What can be missing. -/
inductive Dimension
  | sentinels
  | replicas
  deriving DecidableEq

/-- What a pass observes. -/
structure ObservePass where
  observations : List EndpointObservation
  state : State
  failoverInFlight : Bool
  suppressed : Bool
  endpoints : List Endpoint
  sentinelReplicas : Int
  valkeyReplicas : Int
  valkeyPods : List Pod
  now : Nat

namespace ObservePass

variable (pass : ObservePass)

/-- The counts of a pass. -/
def counts : Counts := pass.observations.foldl Counts.add {}

def fresh : Bool :=
  match pass.counts.newestAt with
  | none => false
  | some newestAt => pass.now - newestAt ≤ topologyObservationFreshnessWindow

/-- What both dimensions need to be eligible. -/
def base : Bool :=
  !valkeyRollActive pass.state && !pass.failoverInFlight && !pass.suppressed &&
    (pass.endpoints.length : Int) = pass.sentinelReplicas && pass.fresh &&
    1 ≤ pass.counts.validCount

/-- How many peers, or replicas, a sentinel should know. -/
def expected : Dimension → Int
  | .sentinels => pass.sentinelReplicas - 1
  | .replicas => pass.valkeyReplicas - 1

/-- The dimension is looked at. -/
def eligible : Dimension → Bool
  | .sentinels => 1 ≤ pass.expected .sentinels && pass.base
  | .replicas =>
      1 ≤ pass.expected .replicas && pass.base &&
        ((pass.valkeyPods.countP podReady : Nat) : Int) = pass.valkeyReplicas

/-- How many are missing. -/
def deficit : Dimension → Int
  | .sentinels =>
      if 1 ≤ pass.expected .sentinels then
        max 0 (pass.expected .sentinels - pass.counts.minSentinels)
      else 0
  | .replicas =>
      if 1 ≤ pass.expected .replicas then
        max 0 (pass.expected .replicas - pass.counts.maxReplicas)
      else 0

end ObservePass

/-- The text of the event. -/
def sentinelTopologyDetail (sentinelDeficit replicaDeficit : Int) : String :=
  let sentinels :=
    if 0 < sentinelDeficit then
      ["sentinels short by " ++ toString sentinelDeficit ++ " (peer-gossip gap)"]
    else []
  let replicas :=
    if 0 < replicaDeficit then ["replicas short by " ++ toString replicaDeficit] else []
  "; ".intercalate (sentinels ++ replicas)

/-- Which dimensions fire, the event's text, and the tracker after. -/
structure Observed where
  sentFire : Bool
  replFire : Bool
  event : Option String
  tracker : Tracker

/-- Fold what a pass observed. -/
def ObservePass.fold (pass : ObservePass) (tracker : Tracker) : (Bool × Bool) × Tracker :=
  tracker.foldTopologyMismatch (pass.eligible .sentinels) (pass.deficit .sentinels)
    (pass.eligible .replicas) (pass.deficit .replicas) pass.now

def observeSentinelTopology (pass : ObservePass) (tracker : Tracker) : Observed :=
  let ((sentFire, replFire), tracker) := pass.fold tracker
  if sentFire || replFire then
    -- The text names every active dimension, not only the one that fires.
    let ((active, sentinelDeficit, replicaDeficit), tracker) :=
      tracker.topologyMismatchActiveOrExpire pass.now
    let event :=
      if active then
        some ("sentinel topology below spec: " ++
          sentinelTopologyDetail sentinelDeficit replicaDeficit)
      else none
    { sentFire, replFire, event, tracker }
  else { sentFire, replFire, event := none, tracker }

/-- An observe pass, or a status read. -/
inductive Act
  | observe (pass : ObservePass)
  | status (now : Nat)

def Act.time : Act → Nat
  | .observe pass => pass.now
  | .status now => now

def step : Act → Tracker → Tracker
  | .observe pass, tracker => (observeSentinelTopology pass tracker).tracker
  | .status now, tracker => (tracker.topologyMismatchActiveOrExpire now).2

/-- The tracker after these acts. -/
def run (acts : List Act) : Tracker := Machine.run step acts {}

private def Tracker.dim (tracker : Tracker) : Dimension → TopologyDimState
  | .sentinels => tracker.topologySentinel
  | .replicas => tracker.topologyReplica

/-- The dimension fires its event. -/
def ObservePass.fires (pass : ObservePass) (tracker : Tracker) : Dimension → Bool
  | .sentinels => (observeSentinelTopology pass tracker).sentFire
  | .replicas => (observeSentinelTopology pass tracker).replFire

/-- What the status reports. -/
def Tracker.reported (tracker : Tracker) (now : Nat) : Dimension → Int
  | .sentinels => (tracker.topologyMismatchActiveOrExpire now).1.2.1
  | .replicas => (tracker.topologyMismatchActiveOrExpire now).1.2.2

/-- The dimension is short of something, and may say so. -/
def ObservePass.short (pass : ObservePass) (dim : Dimension) : Prop :=
  pass.eligible dim = true ∧ 0 < pass.deficit dim

/-- What happened, newest first. -/
def lines (acts : List Act) : List (Act × Tracker) := Machine.lines step acts {}

/-- A pass finds the dimension short, and a status read does not expire it. -/
def Holds (dim : Dimension) : Act × Tracker → Prop
  | (.observe pass, _) => pass.short dim
  | (.status now, tracker) => tracker.stale now = false

/-- A pass finds the dimension short, and the debounce is over at that time. -/
def Matures (dim : Dimension) (time : Nat) : Act × Tracker → Prop
  | (.observe pass, _) => pass.short dim ∧ pass.now + topologyMismatchDebounce ≤ time
  | (.status _, _) => False

/-- The pass fires for the dimension. -/
def Fires (dim : Dimension) : Act × Tracker → Prop
  | (.observe pass, tracker) => pass.fires tracker dim = true
  | (.status _, _) => False

variable {d : TopologyDimState}

section Step

variable {pass : ObservePass} {tracker : Tracker} {now : Nat} (dim : Dimension)

theorem fold_of_not_short (quiet : ¬pass.short dim) (debounce : Nat) :
    d.fold (pass.deficit dim) (pass.eligible dim) pass.now debounce = ((false, false), {}) := by
  refine if_pos ?_
  simpa [ObservePass.short, imp_iff_not_or] using quiet

theorem fold_of_short (short : pass.short dim) (debounce : Nat) :
    d.fold (pass.deficit dim) (pass.eligible dim) pass.now debounce =
      let since := d.since.getD pass.now
      let matured : Bool := debounce ≤ pass.now - since
      ((matured, matured && !d.edge),
        { since := some since, active := matured, edge := matured || d.edge
          deficit := pass.deficit dim }) := by
  have counts : ¬((!pass.eligible dim) = true ∨ pass.deficit dim ≤ 0) := by
    simpa [ObservePass.short] using short
  unfold TopologyDimState.fold
  rw [if_neg counts]
  dsimp only
  split_ifs with matured
  · simp [matured]
  · simp [matured]

theorem observe_tracker (pass : ObservePass) (tracker : Tracker) :
    (observeSentinelTopology pass tracker).tracker = (pass.fold tracker).2 := by
  unfold observeSentinelTopology
  dsimp only
  split
  · simp [Tracker.topologyMismatchActiveOrExpire, Tracker.stale, ObservePass.fold,
      Tracker.foldTopologyMismatch]
  · rfl

theorem step_observe_dim :
    (step (.observe pass) tracker).dim dim =
      ((tracker.dim dim).fold (pass.deficit dim) (pass.eligible dim) pass.now
        topologyMismatchDebounce).2 := by
  unfold step
  dsimp only
  rw [observe_tracker]
  cases dim with
  | sentinels => rfl
  | replicas => rfl

theorem fires_eq :
    pass.fires tracker dim =
      ((tracker.dim dim).fold (pass.deficit dim) (pass.eligible dim) pass.now
        topologyMismatchDebounce).1.2 := by
  unfold ObservePass.fires observeSentinelTopology
  dsimp only
  cases dim with
  | sentinels =>
      dsimp only
      split
      · rfl
      · rfl
  | replicas =>
      dsimp only
      split
      · rfl
      · rfl

theorem step_status_of_fresh (fresh : tracker.stale now = false) :
    step (.status now) tracker = tracker := by
  unfold step Tracker.topologyMismatchActiveOrExpire
  simp [fresh]

private theorem step_status_of_stale (stale : tracker.stale now = true) :
    (step (.status now) tracker).dim dim = {} := by
  unfold step Tracker.topologyMismatchActiveOrExpire
  cases dim with
  | sentinels => simp [stale, Tracker.dim]
  | replicas => simp [stale, Tracker.dim]

end Step

variable {tracker : Tracker}

section Streak

variable {past : List Act} {dim : Dimension} {pass : ObservePass} {now : Nat}

theorem run_concat (past : List Act) (act : Act) : run (past ++ [act]) = step act (run past) :=
  Machine.run_concat past act ({} : Tracker)

theorem lines_concat (past : List Act) (act : Act) :
    lines (past ++ [act]) = (act, run past) :: lines past :=
  Machine.lines_concat past act ({} : Tracker)

/-- The clock does not go back. -/
def Clocked (acts : List Act) : Prop :=
  acts.Pairwise fun earlier later => earlier.time ≤ later.time

theorem Clocked.of_concat {act : Act} (clock : Clocked (past ++ [act])) :
    Clocked past ∧ ∀ earlier ∈ past, earlier.time ≤ act.time := by
  obtain ⟨sorted, -, later⟩ := List.pairwise_append.mp clock
  exact ⟨sorted, fun earlier mem => later earlier mem act (by simp)⟩

/-- The state tells when the streak began, and whether it has fired. -/
structure Streak (dim : Dimension) (past : List Act) (d : TopologyDimState) : Prop where
  since : ∀ time, (∃ start, d.since = some start ∧ start + topologyMismatchDebounce ≤ time) ↔
    History.Since (Holds dim) (Matures dim time) (lines past)
  edge : d.edge = true ↔ History.Since (Holds dim) (Fires dim) (lines past)
  stamped : ∀ start, d.since = some start → ∃ act ∈ past, act.time = start

theorem Streak.broken {act : Act} (ended : ¬Holds dim (act, run past))
    (quiet : ∀ time, ¬Matures dim time (act, run past)) (silent : ¬Fires dim (act, run past)) :
    Streak dim (past ++ [act]) {} := by
  refine ⟨fun time => ?_, ?_, nofun⟩
  · rw [lines_concat, History.since_cons]
    simp [ended, quiet]
  · rw [lines_concat, History.since_cons]
    simp [ended, silent]

theorem Streak.matured_iff (streak : Streak dim past d) (clock : Clocked (past ++ [.observe pass]))
    (short : pass.short dim) (time : Nat) :
    d.since.getD pass.now + topologyMismatchDebounce ≤ time ↔
      History.Since (Holds dim) (Matures dim time) (lines (past ++ [.observe pass])) := by
  have here : Matures dim time (.observe pass, run past) ↔
      pass.now + topologyMismatchDebounce ≤ time := and_iff_right short
  rw [lines_concat, History.since_cons, here, ← streak.since time]
  cases before : d.since with
  | none => simp
  | some start =>
      obtain ⟨act, mem, rfl⟩ := streak.stamped start before
      have order : act.time ≤ pass.now := clock.of_concat.2 act mem
      simp only [Option.getD_some, Option.some_inj, exists_eq_left', show Holds dim
        (.observe pass, run past) from short, true_and]
      omega

private theorem Streak.observe (streak : Streak dim past ((run past).dim dim))
    (clock : Clocked (past ++ [.observe pass])) :
    Streak dim (past ++ [.observe pass]) ((step (.observe pass) (run past)).dim dim) := by
  have fired : Fires dim (.observe pass, run past) ↔ pass.fires (run past) dim = true := Iff.rfl
  rw [fires_eq] at fired
  rw [step_observe_dim]
  by_cases short : pass.short dim
  · have holds : Holds dim (.observe pass, run past) := short
    rw [fold_of_short dim short] at fired ⊢
    dsimp only at fired ⊢
    refine ⟨fun time => ?_, ?_, fun start found => ?_⟩
    · rw [← streak.matured_iff clock short time]
      simp
    · rw [lines_concat, History.since_cons, fired, and_iff_right holds, ← streak.edge]
      cases ((run past).dim dim).edge <;> simp
    · -- The stamp is an old one, or that of this pass.
      cases before : ((run past).dim dim).since with
      | none =>
          rw [before, Option.getD_none, Option.some_inj] at found
          exact ⟨_, List.mem_append_right past (List.mem_singleton_self _), found⟩
      | some first =>
          rw [before, Option.getD_some, Option.some_inj] at found
          obtain ⟨act, mem, stamp⟩ := streak.stamped first before
          exact ⟨act, List.mem_append_left _ mem, stamp.trans found⟩
  · rw [fold_of_not_short dim short] at fired ⊢
    exact .broken short (fun time matures => short matures.1) (by simp [fired])

private theorem Streak.status (streak : Streak dim past ((run past).dim dim)) (now : Nat) :
    Streak dim (past ++ [.status now]) ((step (.status now) (run past)).dim dim) := by
  cases stale : (run past).stale now with
  | true =>
      rw [step_status_of_stale dim stale]
      exact .broken (by simp [Holds, stale]) (fun _ => id) id
  | false =>
      have same {starts : Act × Tracker → Prop} (silent : ¬starts (.status now, run past)) :
          History.Since (Holds dim) starts (lines (past ++ [.status now])) ↔
            History.Since (Holds dim) starts (lines past) := by
        rw [lines_concat, History.since_cons]
        simp [silent, Holds, stale]
      rw [step_status_of_fresh stale]
      refine ⟨fun time => ?_, ?_, fun start found => ?_⟩
      · rw [same id]
        exact streak.since time
      · rw [same id]
        exact streak.edge
      · obtain ⟨act, mem, stamp⟩ := streak.stamped start found
        exact ⟨act, List.mem_append_left _ mem, stamp⟩

end Streak

section Status

variable {past earlier reads : List Act} {dim : Dimension} {pass : ObservePass} {now : Nat}

end Status

end Velkir.TopologyMismatch
