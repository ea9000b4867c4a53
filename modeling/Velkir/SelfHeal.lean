import Mathlib.Data.List.Sort
import Mathlib.Data.String.Basic
import Velkir.AttemptBudget
import Velkir.DeferralEdge
import Velkir.World

/-!
# The dual-master self-heal

Without a labelled primary Phase 7a keeps the master that is furthest ahead and demotes the others.
-/

namespace Velkir

namespace SelfHeal

/-- What a pod answers to the probe. -/
structure MasterInfo where
  isMaster : Bool := false
  masterReplOffset : Option Int64 := none
  deriving DecidableEq

/-- A pod that runs as master. -/
structure DeFactoMaster where
  pod : Pod
  addr : String
  offset : Int64
  deriving DecidableEq

/-- What a scan of the pods finds. -/
structure DualMasterScan where
  masters : List DeFactoMaster := []
  masterNames : List String := []
  sawNoOffset : Bool := false
  /-- Every listed pod has answered. -/
  coverageComplete : Bool := true
  /-- Listed pods without an address. -/
  pendingPods : Nat := 0
  deriving DecidableEq

def podAddr (pod : Pod) : String :=
  GoText.joinHostPort pod.podIP "6379"

/-- Take one pod into the scan; a probe that fails answers nothing. -/
def DualMasterScan.visit (checkLag : Pod → Option MasterInfo) (scan : DualMasterScan) (pod : Pod) :
    DualMasterScan :=
  if pod.podIP = "" then
    { scan with pendingPods := scan.pendingPods + 1, coverageComplete := false }
  else
    match checkLag pod with
    | none => { scan with coverageComplete := false }
    | some info =>
        if !info.isMaster then scan
        else
          let scan := { scan with masterNames := scan.masterNames ++ [pod.name] }
          match info.masterReplOffset with
          | none => { scan with sawNoOffset := true }
          | some offset => { scan with masters := scan.masters ++ [⟨pod, podAddr pod, offset⟩] }

/-- Find the pods that act as master. -/
def scanDeFactoMasters (checkLag : Pod → Option MasterInfo) (pods : List Pod) : DualMasterScan :=
  pods.foldl (DualMasterScan.visit checkLag) {}

/-- Why a pass does not act, with what its event reports. -/
inductive Deferral
  | pending (count : Nat)
  | noOffset
  | cooldown
  | epsilon (survivor : String) (survivorOffset : Int64) (runnerUp : String)
      (runnerUpOffset : Int64)
  | epoch (observed fence : Int)
  deriving DecidableEq

/-- What the events are told apart by. -/
inductive DeferralSignature
  | pending
  | noOffset
  | cooldown
  | epsilon (low high : String)
  | epoch (observed fence : Int)
  deriving DecidableEq

/-- Offsets move all the time, so only the pair of pods counts. -/
def Deferral.signature : Deferral → DeferralSignature
  | .pending _ => .pending
  | .noOffset => .noOffset
  | .cooldown => .cooldown
  | .epsilon survivor _ runnerUp _ =>
      if runnerUp < survivor then .epsilon runnerUp survivor else .epsilon survivor runnerUp
  | .epoch observed fence => .epoch observed fence

/-- What is kept between passes. -/
structure Memory where
  /-- When masters were last seen side by side, and which. -/
  dualMasterObserved : Option (Nat × List String) := none
  attempts : Option AttemptBudget.Budget := none
  deferrals : DeferralEdge.Edge DeferralSignature := {}
  deriving DecidableEq

def dualMasterOffsetEpsilon : Int64 := 4096

def Memory.selfHealAttemptAllowed (now : Nat) (memory : Memory) : Bool :=
  AttemptBudget.selfHealAttemptAllowed AttemptBudget.dualMasterLimits now memory.attempts

def Memory.recordSelfHealAttempt (now : Nat) (memory : Memory) : Memory :=
  { memory with attempts := AttemptBudget.recordSelfHealAttempt now memory.attempts }

/-- Whether the deferral is reported, and the next state. -/
def Memory.fireDualMasterDeferEdge (signature : DeferralSignature) (now : Nat) (memory : Memory) :
    Bool × Memory :=
  let (fires, deferrals) := DeferralEdge.fireDualMasterDeferEdge signature now memory.deferrals
  (fires, { memory with deferrals })

def Memory.resetDualMasterDeferEdge (memory : Memory) : Memory :=
  { memory with deferrals := DeferralEdge.resetDualMasterDeferEdge memory.deferrals }

/-- Record what the scan saw of a split. An incomplete scan does not clear it. -/
def Memory.observeScan (scan : DualMasterScan) (now : Nat) (memory : Memory) : Memory :=
  if 2 ≤ scan.masterNames.length then
    { memory with dualMasterObserved := some (now, scan.masterNames.insertionSort (· ≤ ·)) }
  else if scan.coverageComplete then { memory with dualMasterObserved := none }
  else memory

/-- Where the survivor comes from. -/
inductive Lineage
  | noPreStripAddr
  | survivorMatches
  | survivorDiffers
  deriving DecidableEq

/-- What a pass does to the pods and reports. -/
inductive Effect
  | deferred (deferral : Deferral)
  | initiated (masters : Nat) (survivor : String) (offset : Int64) (lineage : Lineage)
  | replicaOf (addr target : String)
  | demotionFailed (loser survivor : String)
  | clientKill (addr : String)
  | demoted (loser : String) (offset : Int64) (target : String)
  deriving DecidableEq

/-- What a pass finds. -/
structure Input where
  failoverInFlight : Bool := true
  /-- The observer's snapshot at the second gate. -/
  snap : Snapshot := none
  /-- Sentinels agree on an address that no pod has. -/
  noMasterAgreement : Bool := false
  /-- The observer's snapshot at the fence. -/
  fenceSnap : Snapshot := none
  /-- How each pod answers; nothing for a probe that fails. -/
  checkLag : Pod → Option MasterInfo := fun _ => none
  /-- The command on this address fails. -/
  replicaOfFails : String → Bool := fun _ => false
  now : Nat := 0

/-- The observer's view cannot be used. -/
def quorumViewUnusable (input : Input) : Bool :=
  !input.snap.quorumOK ∨ input.noMasterAgreement

/-- The fence of the durable marker. -/
def failoverDispatchFence (v : CR) : String × Int :=
  match v.status.failoverDispatch with
  | none => ("", 0)
  | some dispatch => (dispatch.preStripAddr, dispatch.preStripEpoch)

/-- The larger offset, then the primary, then the smaller name. -/
def ranksBefore (preStripAddr : String) (left right : DeFactoMaster) : Bool :=
  if left.offset ≠ right.offset then right.offset < left.offset
  else if (left.addr = preStripAddr) ≠ (right.addr = preStripAddr) then left.addr = preStripAddr
  else left.pod.name < right.pod.name

/-- The stable sort of the masters. -/
def rank (preStripAddr : String) (masters : List DeFactoMaster) : List DeFactoMaster :=
  masters.insertionSort fun left right => ranksBefore preStripAddr right left = false

/-- The observer agrees on an election that was superseded. -/
def staleView (preStripEpoch : Int) (snap : Snapshot) : Bool :=
  0 < preStripEpoch ∧ snap.quorumOK ∧ snap.epoch < preStripEpoch

def lineage (preStripAddr : String) (survivor : DeFactoMaster) : Lineage :=
  if preStripAddr = "" then .noPreStripAddr
  else if survivor.addr = preStripAddr then .survivorMatches
  else .survivorDiffers

/-- Demote the other master. -/
def demote (input : Input) (survivor loser : DeFactoMaster) : List Effect :=
  .replicaOf loser.addr survivor.pod.podIP ::
    if input.replicaOfFails loser.addr then [.demotionFailed loser.pod.name survivor.pod.name]
    else [.clientKill loser.addr, .demoted loser.pod.name loser.offset survivor.pod.podIP]

/-- Report a deferral on its edge. -/
def emitDualMasterDeferred (deferral : Deferral) (now : Nat) (memory : Memory) :
    Memory × List Effect :=
  let (fires, memory) := memory.fireDualMasterDeferEdge deferral.signature now
  (memory, if fires then [.deferred deferral] else [])

/-- Elect a survivor among the ranked masters and demote the others. -/
def elect (v : CR) (input : Input) (memory : Memory) : List DeFactoMaster → Memory × List Effect
  | survivor :: runnerUp :: rest =>
      let (preStripAddr, preStripEpoch) := failoverDispatchFence v
      if !memory.selfHealAttemptAllowed input.now then
        emitDualMasterDeferred .cooldown input.now memory
      else if survivor.offset - runnerUp.offset ≤ dualMasterOffsetEpsilon then
        emitDualMasterDeferred (.epsilon survivor.pod.name survivor.offset runnerUp.pod.name
          runnerUp.offset) input.now memory
      else if staleView preStripEpoch input.fenceSnap then
        emitDualMasterDeferred (.epoch input.fenceSnap.epoch preStripEpoch) input.now memory
      else
        ((memory.recordSelfHealAttempt input.now).resetDualMasterDeferEdge,
          .initiated (rest.length + 2) survivor.pod.name survivor.offset
            (lineage preStripAddr survivor) ::
            (runnerUp :: rest).flatMap (demote input survivor))
  -- One master is not a split.
  | _ => (memory, [])

/-- Demote a second master, or defer. -/
def reconcileDualMasterSelfHeal (v : CR) (pods : List Pod) (input : Input) (memory : Memory) :
    Memory × List Effect :=
  if !input.failoverInFlight then (memory, [])
  else if !quorumViewUnusable input then (memory, [])
  else
    let scan := scanDeFactoMasters input.checkLag pods
    let memory := memory.observeScan scan input.now
    if 0 < scan.pendingPods then
      if 2 ≤ scan.masterNames.length then
        emitDualMasterDeferred (.pending scan.pendingPods) input.now memory
      else (memory, [])
    else if scan.sawNoOffset then emitDualMasterDeferred .noOffset input.now memory
    else elect v input memory (rank (failoverDispatchFence v).1 scan.masters)

/-- What a pod with an address answers. -/
def answer (checkLag : Pod → Option MasterInfo) (pod : Pod) : Option MasterInfo :=
  if pod.podIP = "" then none else checkLag pod

def reportsMaster (checkLag : Pod → Option MasterInfo) (pod : Pod) : Bool :=
  (answer checkLag pod).any MasterInfo.isMaster

def masterOffset (checkLag : Pod → Option MasterInfo) (pod : Pod) : Option Int64 :=
  (answer checkLag pod).bind fun info => if info.isMaster then info.masterReplOffset else none

/-- The entry of a pod that can be ranked. -/
def rankable (checkLag : Pod → Option MasterInfo) (pod : Pod) : Option DeFactoMaster :=
  (masterOffset checkLag pod).map fun offset => ⟨pod, podAddr pod, offset⟩

theorem foldl_visit (checkLag : Pod → Option MasterInfo) (pods : List Pod)
    (scan : DualMasterScan) :
    let result := pods.foldl (DualMasterScan.visit checkLag) scan
    result.masters = scan.masters ++ pods.filterMap (rankable checkLag) ∧
      result.sawNoOffset = (scan.sawNoOffset || pods.any fun pod =>
        reportsMaster checkLag pod && (masterOffset checkLag pod).isNone) ∧
      result.pendingPods = scan.pendingPods + pods.countP fun pod => pod.podIP = "" := by
  induction pods generalizing scan with
  | nil => simp
  | cons pod pods ih =>
      obtain ⟨masters, noOffset, pending⟩ := ih (scan.visit checkLag pod)
      simp only [List.foldl_cons, masters, noOffset, pending]
      unfold DualMasterScan.visit
      by_cases addressed : pod.podIP = ""
      · simp [addressed, rankable, masterOffset, reportsMaster, answer]
        omega
      · cases probe : checkLag pod with
        | none => simp [addressed, probe, rankable, masterOffset, reportsMaster, answer]
        | some info =>
            obtain ⟨isMaster, offset⟩ := info
            cases isMaster with
            | false => simp [addressed, probe, rankable, masterOffset, reportsMaster, answer]
            | true =>
                cases offset with
                | none => simp [addressed, probe, rankable, masterOffset, reportsMaster, answer]
                | some offset =>
                    simp [addressed, probe, rankable, masterOffset, reportsMaster, answer]

variable {master : DeFactoMaster}

section Scan

variable (checkLag : Pod → Option MasterInfo) (pods : List Pod)

private theorem scan_masters :
    (scanDeFactoMasters checkLag pods).masters = pods.filterMap (rankable checkLag) := by
  rw [scanDeFactoMasters, (foldl_visit checkLag pods {}).1]
  rfl

private theorem scan_sawNoOffset : (scanDeFactoMasters checkLag pods).sawNoOffset = true ↔
    ∃ pod ∈ pods, reportsMaster checkLag pod = true ∧ masterOffset checkLag pod = none := by
  rw [scanDeFactoMasters, (foldl_visit checkLag pods {}).2.1]
  simp

private theorem scan_pendingPods : 0 < (scanDeFactoMasters checkLag pods).pendingPods ↔
    ∃ pod ∈ pods, pod.podIP = "" := by
  rw [scanDeFactoMasters, (foldl_visit checkLag pods {}).2.2]
  simp

theorem mem_masters :
    master ∈ pods.filterMap (rankable checkLag) ↔
      master.pod ∈ pods ∧ masterOffset checkLag master.pod = some master.offset ∧
        master.addr = podAddr master.pod := by
  obtain ⟨pod, addr, offset⟩ := master
  simp only [List.mem_filterMap, rankable, Option.map_eq_some_iff, DeFactoMaster.mk.injEq]
  constructor
  · rintro ⟨found, mem, value, has, rfl, rfl, rfl⟩
    exact ⟨mem, has, rfl⟩
  · rintro ⟨mem, has, rfl⟩
    exact ⟨pod, mem, offset, has, rfl, rfl, rfl⟩

end Scan

variable {masters : List DeFactoMaster}

section Rank

variable (preStripAddr : String)

instance : Std.Total fun left right => ranksBefore preStripAddr right left = false where
  total left right := by
    unfold ranksBefore
    grind

instance : IsTrans DeFactoMaster fun left right => ranksBefore preStripAddr right left = false where
  trans left middle right := by
    unfold ranksBefore
    grind

private theorem offset_le_of_ranked {left right : DeFactoMaster}
    (ranked : ranksBefore preStripAddr right left = false) :
    right.offset.toInt ≤ left.offset.toInt := by
  unfold ranksBefore at ranked
  rw [← Int64.le_iff_toInt_le]
  split_ifs at ranked with differ <;> grind

theorem rank_pairwise (masters : List DeFactoMaster) :
    (rank preStripAddr masters).Pairwise fun left right =>
      right.offset.toInt ≤ left.offset.toInt :=
  (List.pairwise_insertionSort _ masters).imp (offset_le_of_ranked preStripAddr)

theorem mem_rank : master ∈ rank preStripAddr masters ↔ master ∈ masters :=
  List.mem_insertionSort _

end Rank

/-- One master is ahead of every other one by more than the epsilon. -/
structure Leads (checkLag : Pod → Option MasterInfo) (pods : List Pod) (survivor : Pod)
    (offset : Int64) : Prop where
  listed : survivor ∈ pods
  reports : masterOffset checkLag survivor = some offset
  ahead : ∀ other ∈ pods, other ≠ survivor → ∀ behind, masterOffset checkLag other = some behind →
    behind.toInt + dualMasterOffsetEpsilon.toInt < offset.toInt

/-- There is a split with a clear lead, which fits 64 bits. -/
def Unambiguous (checkLag : Pod → Option MasterInfo) (pods : List Pod) : Prop :=
  ∃ survivor offset, Leads checkLag pods survivor offset ∧
    ∃ other ∈ pods, other ≠ survivor ∧ ∃ behind, masterOffset checkLag other = some behind ∧
      offset.toInt - behind.toInt < 2 ^ 63

/-- None of the gates holds the pass back. -/
structure Admitted (v : CR) (pods : List Pod) (input : Input) (memory : Memory) : Prop where
  inFlight : input.failoverInFlight = true
  unusable : quorumViewUnusable input = true
  addressed : ∀ pod ∈ pods, pod.podIP ≠ ""
  offsets : ∀ pod ∈ pods, reportsMaster input.checkLag pod = true →
    masterOffset input.checkLag pod ≠ none
  allowed : memory.selfHealAttemptAllowed input.now = true
  fresh : staleView (failoverDispatchFence v).2 input.fenceSnap = false
  unambiguous : Unambiguous input.checkLag pods

section Acts

variable {v : CR} {pods : List Pod} {input : Input} {memory : Memory} {addr target : String}

private theorem observeScan_allowed (scan : DualMasterScan) (now later : Nat) (memory : Memory) :
    (memory.observeScan scan now).selfHealAttemptAllowed later =
      memory.selfHealAttemptAllowed later := by
  unfold Memory.observeScan
  split_ifs <;> rfl

theorem replicaOf_not_deferred (deferral : Deferral) (now : Nat) (memory : Memory) :
    Effect.replicaOf addr target ∉ (emitDualMasterDeferred deferral now memory).2 := by
  unfold emitDualMasterDeferred
  dsimp only
  split_ifs <;> simp

private theorem replicaOf_mem_demote {survivor loser : DeFactoMaster} :
    Effect.replicaOf addr target ∈ demote input survivor loser ↔
      loser.addr = addr ∧ survivor.pod.podIP = target := by
  unfold demote
  split_ifs <;> simp [eq_comm]

/-- The election demotes exactly when a lead passes the other gates. -/
theorem replicaOf_mem_elect :
    Effect.replicaOf addr target ∈ (elect v input memory masters).2 ↔
      ∃ survivor runnerUp rest, masters = survivor :: runnerUp :: rest ∧
        memory.selfHealAttemptAllowed input.now = true ∧
        dualMasterOffsetEpsilon < survivor.offset - runnerUp.offset ∧
        staleView (failoverDispatchFence v).2 input.fenceSnap = false ∧
        survivor.pod.podIP = target ∧ ∃ loser ∈ runnerUp :: rest, loser.addr = addr := by
  match masters with
  | [] | [_] => simp [elect]
  | survivor :: runnerUp :: rest =>
      unfold elect
      dsimp only
      split_ifs with cooling tied stale
      · rw [Bool.not_eq_true'] at cooling
        simp [replicaOf_not_deferred, cooling]
      · simp only [replicaOf_not_deferred, false_iff]
        rintro ⟨_, _, _, ⟨⟩, _, lead, _⟩
        exact absurd tied (Int64.not_le.mpr lead)
      · simp [replicaOf_not_deferred, stale]
      · simp only [List.mem_cons, reduceCtorEq, false_or, List.mem_flatMap, replicaOf_mem_demote]
        constructor
        · rintro ⟨loser, mem, addressed, at_survivor⟩
          exact ⟨survivor, runnerUp, rest, rfl, by simpa using cooling, Int64.not_le.mp tied,
            by simpa using stale, at_survivor, loser, mem, addressed⟩
        · rintro ⟨_, _, _, ⟨⟩, _, _, _, at_survivor, loser, mem, addressed⟩
          exact ⟨loser, mem, addressed, at_survivor⟩

theorem replicaOf_mem_iff :
    Effect.replicaOf addr target ∈ (reconcileDualMasterSelfHeal v pods input memory).2 ↔
      input.failoverInFlight = true ∧ quorumViewUnusable input = true ∧
        (∀ pod ∈ pods, pod.podIP ≠ "") ∧
        (∀ pod ∈ pods, reportsMaster input.checkLag pod = true →
          masterOffset input.checkLag pod ≠ none) ∧
        Effect.replicaOf addr target ∈ (elect v input
          (memory.observeScan (scanDeFactoMasters input.checkLag pods) input.now)
          (rank (failoverDispatchFence v).1 (pods.filterMap (rankable input.checkLag)))).2 := by
  unfold reconcileDualMasterSelfHeal
  dsimp only
  rw [scan_masters]
  have pending := scan_pendingPods input.checkLag pods
  have noOffset := scan_sawNoOffset input.checkLag pods
  split_ifs with calm usable waiting split unranked
  · rw [Bool.not_eq_true'] at calm
    simp [calm]
  · rw [Bool.not_eq_true'] at usable
    simp [usable]
  · simp only [replicaOf_not_deferred, false_iff]
    obtain ⟨pod, mem, empty⟩ := pending.mp waiting
    exact fun ⟨_, _, addressed, _⟩ => addressed pod mem empty
  · simp only [List.not_mem_nil, false_iff]
    obtain ⟨pod, mem, empty⟩ := pending.mp waiting
    exact fun ⟨_, _, addressed, _⟩ => addressed pod mem empty
  · simp only [replicaOf_not_deferred, false_iff]
    obtain ⟨pod, mem, reports, missing⟩ := noOffset.mp unranked
    exact fun ⟨_, _, _, offsets, _⟩ => offsets pod mem reports missing
  · have addressed : ∀ pod ∈ pods, pod.podIP ≠ "" :=
      fun pod mem empty => waiting (pending.mpr ⟨pod, mem, empty⟩)
    have offsets : ∀ pod ∈ pods, reportsMaster input.checkLag pod = true →
        masterOffset input.checkLag pod ≠ none :=
      fun pod mem reports missing => unranked (noOffset.mpr ⟨pod, mem, reports, missing⟩)
    simp_all

/-- A lead over the second master, as a 64-bit difference. -/
theorem epsilon_lt_sub_iff {left right : Int64} (order : right.toInt ≤ left.toInt) :
    dualMasterOffsetEpsilon < left - right ↔
      right.toInt + dualMasterOffsetEpsilon.toInt < left.toInt ∧
        left.toInt - right.toInt < 2 ^ 63 := by
  have epsilon : dualMasterOffsetEpsilon.toInt = 4096 := by decide
  have left_lt := left.toInt_lt
  have le_right := right.le_toInt
  rw [Int64.lt_iff_toInt_lt, Int64.toInt_sub, epsilon, Int.bmod_def]
  split_ifs <;> omega

variable {preStripAddr : String}

theorem leads_of_rank {survivor runnerUp : DeFactoMaster} {rest : List DeFactoMaster}
    (ranked : rank preStripAddr (pods.filterMap (rankable input.checkLag)) =
      survivor :: runnerUp :: rest)
    (lead : dualMasterOffsetEpsilon < survivor.offset - runnerUp.offset) :
    Leads input.checkLag pods survivor.pod survivor.offset := by
  have order := rank_pairwise preStripAddr (pods.filterMap (rankable input.checkLag))
  rw [ranked] at order
  obtain ⟨first, tail⟩ := List.pairwise_cons.mp order
  obtain ⟨second, -⟩ := List.pairwise_cons.mp tail
  have member : ∀ master, master ∈ survivor :: runnerUp :: rest ↔
      master.pod ∈ pods ∧ masterOffset input.checkLag master.pod = some master.offset ∧
        master.addr = podAddr master.pod := by
    intro master
    rw [← ranked, mem_rank, mem_masters]
  obtain ⟨listed, reports, -⟩ := (member survivor).mp (by simp)
  have margin := ((epsilon_lt_sub_iff (first runnerUp (by simp))).mp lead).1
  refine ⟨listed, reports, fun other mem apart behind has => ?_⟩
  have ranked_other := (member ⟨other, podAddr other, behind⟩).mpr ⟨mem, has, rfl⟩
  rcases List.mem_cons.mp ranked_other with same | later
  · exact absurd (congrArg DeFactoMaster.pod same) apart
  · rcases List.mem_cons.mp later with rfl | last
    · exact margin
    · exact Int.lt_of_le_of_lt (Int.add_le_add_right (second _ last) _) margin

section Ranked

variable {preStripAddr : String} {master other : DeFactoMaster} {rest : List DeFactoMaster}

theorem mem_ranked :
    master ∈ rank preStripAddr (pods.filterMap (rankable input.checkLag)) ↔
      master.pod ∈ pods ∧ masterOffset input.checkLag master.pod = some master.offset ∧
        master.addr = podAddr master.pod := by
  rw [mem_rank, mem_masters]

private theorem ranked_inj
    (left : master ∈ rank preStripAddr (pods.filterMap (rankable input.checkLag)))
    (right : other ∈ rank preStripAddr (pods.filterMap (rankable input.checkLag)))
    (same : master.pod = other.pod) : master = other := by
  obtain ⟨-, left_has, left_addr⟩ := mem_ranked.mp left
  obtain ⟨-, right_has, right_addr⟩ := mem_ranked.mp right
  have offsets : master.offset = other.offset :=
    Option.some_inj.mp (left_has.symm.trans (same ▸ right_has))
  have addrs : master.addr = other.addr := left_addr.trans (same ▸ right_addr.symm)
  obtain ⟨pod, addr, offset⟩ := master
  obtain ⟨pod', addr', offset'⟩ := other
  simp only at same addrs offsets
  rw [same, addrs, offsets]

private theorem ranked_nodup (distinct : pods.Nodup) :
    (rank preStripAddr (pods.filterMap (rankable input.checkLag))).Nodup := by
  refine (List.perm_insertionSort _ _).nodup_iff.mpr (distinct.filterMap ?_)
  intro left right master left_eq right_eq
  obtain ⟨_, _, rfl⟩ := Option.map_eq_some_iff.mp left_eq
  obtain ⟨_, _, same⟩ := Option.map_eq_some_iff.mp right_eq
  exact (congrArg DeFactoMaster.pod same).symm

theorem ranked_apart (distinct : pods.Nodup)
    (ranked : rank preStripAddr (pods.filterMap (rankable input.checkLag)) = master :: rest)
    (later : other ∈ rest) : other.pod ≠ master.pod := by
  intro same
  have unique := ranked ▸ @ranked_nodup pods input preStripAddr distinct
  have eq : other = master :=
    @ranked_inj pods input preStripAddr other master (by rw [ranked]; simp [later])
      (by rw [ranked]; simp) same
  exact (List.nodup_cons.mp unique).1 (eq ▸ later)

end Ranked

private theorem rank_front {leader : Pod} {offset : Int64} {survivor : DeFactoMaster}
    {others : List DeFactoMaster} (leads : Leads input.checkLag pods leader offset)
    (ranked : rank preStripAddr (pods.filterMap (rankable input.checkLag)) = survivor :: others) :
    survivor.pod = leader := by
  have order := rank_pairwise preStripAddr (pods.filterMap (rankable input.checkLag))
  have leader_in := (@mem_ranked pods input preStripAddr ⟨leader, podAddr leader, offset⟩).mpr
    ⟨leads.listed, leads.reports, rfl⟩
  obtain ⟨survivor_mem, survivor_has, -⟩ :=
    (@mem_ranked pods input preStripAddr survivor).mp (by rw [ranked]; simp)
  rw [ranked] at leader_in order
  -- Another master at the front would have to be behind the leader.
  by_contra elsewhere
  have below := leads.ahead survivor.pod survivor_mem elsewhere survivor.offset survivor_has
  have epsilon : dualMasterOffsetEpsilon.toInt = 4096 := by decide
  rcases List.mem_cons.mp leader_in with same | later
  · exact elsewhere (congrArg DeFactoMaster.pod same).symm
  · have above := (List.pairwise_cons.mp order).1 _ later
    dsimp only at above
    omega

private theorem rank_of_unambiguous (distinct : pods.Nodup) (preStripAddr : String)
    (clear : Unambiguous input.checkLag pods) :
    ∃ survivor runnerUp rest,
      rank preStripAddr (pods.filterMap (rankable input.checkLag)) =
        survivor :: runnerUp :: rest ∧
      dualMasterOffsetEpsilon < survivor.offset - runnerUp.offset := by
  obtain ⟨leader, offset, leads, other, other_mem, apart, behind, has, near⟩ := clear
  have leader_in := (@mem_ranked pods input preStripAddr ⟨leader, podAddr leader, offset⟩).mpr
    ⟨leads.listed, leads.reports, rfl⟩
  have other_in := (@mem_ranked pods input preStripAddr ⟨other, podAddr other, behind⟩).mpr
    ⟨other_mem, has, rfl⟩
  have order := rank_pairwise preStripAddr (pods.filterMap (rankable input.checkLag))
  cases ranked : rank preStripAddr (pods.filterMap (rankable input.checkLag)) with
  | nil =>
      rw [ranked] at leader_in
      cases leader_in
  | cons survivor others =>
      rw [ranked] at leader_in other_in order
      obtain ⟨first, tail⟩ := List.pairwise_cons.mp order
      obtain ⟨survivor_mem, survivor_has, -⟩ :=
        (@mem_ranked pods input preStripAddr survivor).mp (by rw [ranked]; simp)
      have front := rank_front leads ranked
      have offset_eq : survivor.offset = offset :=
        Option.some_inj.mp (survivor_has.symm.trans (front ▸ leads.reports))
      have other_later : ⟨other, podAddr other, behind⟩ ∈ others := by
        rcases List.mem_cons.mp other_in with same | later
        · exact absurd ((congrArg DeFactoMaster.pod same).trans front) apart
        · exact later
      cases others with
      | nil => cases other_later
      | cons runnerUp rest =>
          obtain ⟨second, -⟩ := List.pairwise_cons.mp tail
          obtain ⟨runner_mem, runner_has, -⟩ :=
            (@mem_ranked pods input preStripAddr runnerUp).mp (by rw [ranked]; simp)
          have next : runnerUp.pod ≠ leader :=
            front ▸ ranked_apart distinct ranked List.mem_cons_self
          have margin := leads.ahead runnerUp.pod runner_mem next runnerUp.offset runner_has
          have reach : behind.toInt ≤ runnerUp.offset.toInt := by
            rcases List.mem_cons.mp other_later with same | last
            · rw [← same]
            · exact second _ last
          refine ⟨survivor, runnerUp, rest, rfl, ?_⟩
          rw [epsilon_lt_sub_iff (first runnerUp (by simp)), offset_eq]
          exact ⟨margin, by omega⟩

/-- A pass demotes a pod exactly when every gate lets it through. -/
theorem replicaOf_iff_admitted (distinct : pods.Nodup) :
    (∃ addr target, Effect.replicaOf addr target ∈
      (reconcileDualMasterSelfHeal v pods input memory).2) ↔ Admitted v pods input memory := by
  constructor
  · rintro ⟨addr, target, issued⟩
    obtain ⟨inFlight, unusable, addressed, offsets, elected⟩ := replicaOf_mem_iff.mp issued
    obtain ⟨survivor, runnerUp, rest, ranked, allowed, lead, fresh, -, -⟩ :=
      replicaOf_mem_elect.mp elected
    rw [observeScan_allowed] at allowed
    refine ⟨inFlight, unusable, addressed, offsets, allowed, fresh, survivor.pod, survivor.offset,
      leads_of_rank ranked lead, ?_⟩
    have order := rank_pairwise (failoverDispatchFence v).1
      (pods.filterMap (rankable input.checkLag))
    rw [ranked] at order
    have below := (List.pairwise_cons.mp order).1 runnerUp (by simp)
    obtain ⟨listed, has, -⟩ := mem_ranked.mp (ranked ▸ List.mem_cons_of_mem _ List.mem_cons_self)
    exact ⟨runnerUp.pod, listed, ranked_apart distinct ranked List.mem_cons_self, runnerUp.offset,
      has, ((epsilon_lt_sub_iff below).mp lead).2⟩
  · intro admitted
    obtain ⟨survivor, runnerUp, rest, ranked, lead⟩ :=
      rank_of_unambiguous distinct (failoverDispatchFence v).1 admitted.unambiguous
    refine ⟨runnerUp.addr, survivor.pod.podIP, replicaOf_mem_iff.mpr ⟨admitted.inFlight,
      admitted.unusable, admitted.addressed, admitted.offsets, replicaOf_mem_elect.mpr
      ⟨survivor, runnerUp, rest, ranked, ?_, lead, admitted.fresh, rfl, runnerUp, by simp, rfl⟩⟩⟩
    rw [observeScan_allowed]
    exact admitted.allowed

/-- Every pod with an address answers. -/
def AllAnswer (pods : List Pod) (input : Input) : Prop :=
  ∀ pod ∈ pods, pod.podIP ≠ "" → (input.checkLag pod).isSome = true

/-- A demotion rests on all pods, and keeps a master clearly ahead. -/
def DemotesKnowingly (pods : List Pod) (input : Input) (effects : List Effect) : Prop :=
  ∀ addr target, Effect.replicaOf addr target ∈ effects →
    (∀ pod ∈ pods, (answer input.checkLag pod).isSome = true) ∧
      ∃ survivor ∈ pods, survivor.podIP = target ∧
        ∃ offset, masterOffset input.checkLag survivor = some offset ∧
          ∀ other ∈ pods, other ≠ survivor → reportsMaster input.checkLag other = true →
            ∃ behind, masterOffset input.checkLag other = some behind ∧
              behind.toInt + dualMasterOffsetEpsilon.toInt < offset.toInt

end Acts

/-- A pass that acts knows all pods exactly if every addressed pod answered. -/
theorem reconcileDualMasterSelfHeal_knows_iff (v : CR) (pods : Pods) (input : Input)
    (memory : Memory) :
    DemotesKnowingly pods.items input (reconcileDualMasterSelfHeal v pods.items input memory).2 ↔
      AllAnswer pods.items input ∨ ¬Admitted v pods.items input memory := by
  have distinct : pods.items.Nodup := pods.distinct.of_map
  constructor
  · intro knows
    by_cases admitted : Admitted v pods.items input memory
    · left
      obtain ⟨addr, target, issued⟩ := (replicaOf_iff_admitted distinct).mpr admitted
      intro pod mem addressed
      simpa [answer, addressed] using (knows addr target issued).1 pod mem
    · exact .inr admitted
  · rintro (answers | refused) addr target issued
    · obtain ⟨-, -, addressed, offsets, elected⟩ := replicaOf_mem_iff.mp issued
      obtain ⟨survivor, runnerUp, rest, ranked, -, lead, -, at_survivor, -⟩ :=
        replicaOf_mem_elect.mp elected
      have leads := leads_of_rank ranked lead
      refine ⟨fun pod mem => ?_, survivor.pod, leads.listed, at_survivor, survivor.offset,
        leads.reports, fun other mem apart reports => ?_⟩
      · simpa [answer, addressed pod mem] using answers pod mem (addressed pod mem)
      · obtain ⟨behind, has⟩ := Option.ne_none_iff_exists'.mp (offsets other mem reports)
        exact ⟨behind, has, leads.ahead other mem apart behind has⟩
    · exact absurd ((replicaOf_iff_admitted distinct).mp ⟨addr, target, issued⟩) refused

/-- Three pods; the third one does not answer. -/
def splitPods : Pods :=
  ⟨[{ name := "vk-0", podIP := "10.0.0.1" }, { name := "vk-1", podIP := "10.0.0.2" },
    { name := "vk-2", podIP := "10.0.0.3" }], by decide, by decide⟩

/-- The first two pods run as masters, far apart. -/
def silentThird : Input :=
  { checkLag := fun pod =>
      if pod.name = "vk-0" then some { isMaster := true, masterReplOffset := some 10000 }
      else if pod.name = "vk-1" then some { isMaster := true, masterReplOffset := some 1000 }
      else none }

/-- The second pod is demoted although the third one has not been heard. -/
theorem reconcileDualMasterSelfHeal_demotes_unheard :
    .replicaOf "10.0.0.2:6379" "10.0.0.1" ∈
        (reconcileDualMasterSelfHeal { name := "vk", spec := { mode := .sentinel } } splitPods.items
          silentThird {}).2 ∧
      ∃ pod ∈ splitPods.items, answer silentThird.checkLag pod = none := by
  decide

end SelfHeal

end Velkir
