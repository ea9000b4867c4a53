import Mathlib.Data.List.Sort
import Velkir.CommaJoin
import Velkir.MapLoop
import Velkir.SentinelSurgery

/-!
# Pacing the surgery

The tracker counts the wipes in a row that did not help. From the third on the time to the next one
doubles.
-/

namespace Velkir.StrandedTracker

open Surgery

def strandedRecoveryCooldown : Nat := 30 * second

def strandedSurgeryStuckThreshold : Nat := 3

def strandedSurgeryMaxBackoffLevel : Nat := 3

def strandedLinkupStuckFreshnessWindow : Nat :=
  2 * (strandedRecoveryCooldown <<< strandedSurgeryMaxBackoffLevel)

/-- The wipes of an address. -/
structure StrandedAddrState where
  noProgress : Nat
  lastWiped : Nat
  deriving DecidableEq

/-- The addresses with a record. -/
abbrev Records := AList fun _ : String => StrandedAddrState

/-- What `crQuorumState` remembers of the stranded sentinels. -/
structure Tracker where
  strandedRecoveryLastFired : Option Nat := none
  strandedNoProgress : Records := ∅
  strandedLinkupStuck : Bool := false
  strandedLinkupStuckAt : Nat := 0
  /-- The addresses of the last event. -/
  strandedLinkupStuckEdge : String := ""

/-- How often the cooldown is doubled. -/
def strandedAddrBackoffLevel (noProgress : Nat) : Nat :=
  if noProgress < strandedSurgeryStuckThreshold then 0
  else min (noProgress - strandedSurgeryStuckThreshold + 1) strandedSurgeryMaxBackoffLevel

example : [2, 3, 4, 5, 9].map strandedAddrBackoffLevel = [0, 1, 2, 3, 3] := rfl

/-- Stuck, and not yet due for the next wipe. -/
def StrandedAddrState.paced (now : Nat) (rec : StrandedAddrState) : Bool :=
  let level := strandedAddrBackoffLevel rec.noProgress
  1 ≤ level ∧ now - rec.lastWiped < strandedRecoveryCooldown <<< level

/-- The stuck addresses, sorted. -/
def stuckAddrs (records : Records) : List String :=
  ((records.entries.filter fun entry => 1 ≤ strandedAddrBackoffLevel entry.2.noProgress).map
    Sigma.fst).insertionSort (· ≤ ·)

/-- The record of a wiped address. -/
def wipedRecord (records : Records) (now : Nat) (addr : String) : StrandedAddrState :=
  match records.lookup addr with
  | none => ⟨1, now⟩
  | some rec =>
      -- A record this old survived a time without folds.
      if strandedLinkupStuckFreshnessWindow < now - rec.lastWiped then ⟨1, now⟩
      else ⟨rec.noProgress + 1, now⟩

/-- The records after a surgery, of wiped and skipped addresses. -/
def nextRecords (wiped skipped authFailed : List String) (now : Nat) (records : Records) :
    Records :=
  let next := MapLoop.writeAll (fun addr => some (wipedRecord records now addr)) wiped ∅
  -- Without the password a sentinel can never find its peers.
  let next := MapLoop.modifyAll (fun rec => rec.noProgress < strandedSurgeryStuckThreshold)
    (fun rec => { rec with noProgress := strandedSurgeryStuckThreshold }) authFailed next
  MapLoop.writeAll records.lookup skipped next

/-- What a fold finds stuck. -/
structure Verdict where
  stuck : List String := []
  fireEvent : Bool := false
  backoffLevel : Nat := 0
  deriving DecidableEq

namespace Tracker

/-- The last surgery was too recent. -/
def strandedProbeCoolingDown (tracker : Tracker) (now : Nat) : Bool :=
  match tracker.strandedRecoveryLastFired with
  -- The zero time is long ago.
  | none => false
  | some lastFired => now - lastFired < strandedRecoveryCooldown

/-- The addresses that are paced. -/
def strandedSkipSet (tracker : Tracker) (now : Nat) : List String :=
  (tracker.strandedNoProgress.entries.filter fun entry => entry.2.paced now).map Sigma.fst

/-- Fold a surgery and find what is stuck. -/
def detectStrandedPeerLinkupStuck (wiped skipped authFailed : List String) (now : Nat)
    (tracker : Tracker) : Verdict × Tracker :=
  let next := nextRecords wiped skipped authFailed now tracker.strandedNoProgress
  let stuck := stuckAddrs next
  if stuck = [] then
    ({},
      { tracker with
        strandedNoProgress := next
        strandedLinkupStuck := false
        strandedLinkupStuckEdge := "" })
  else
    let backoffLevel := stuck.foldl (fun level addr => match next.lookup addr with
      | some rec => max level (strandedAddrBackoffLevel rec.noProgress)
      | none => level) 0
    let sig := ",".intercalate stuck
    (⟨stuck, tracker.strandedLinkupStuckEdge ≠ sig, backoffLevel⟩,
      { tracker with
        strandedNoProgress := next
        strandedLinkupStuck := true
        strandedLinkupStuckAt := now
        strandedLinkupStuckEdge := sig })

/-- Forget all records. -/
def clearStrandedLinkupStuck (tracker : Tracker) : Tracker :=
  { tracker with
    strandedNoProgress := ∅
    strandedLinkupStuck := false
    strandedLinkupStuckEdge := "" }

/-- Whether something was stuck recently. -/
def strandedLinkupStuckActiveOrExpire (now : Nat) (tracker : Tracker) : Bool × Tracker :=
  if tracker.strandedLinkupStuck ∧
      now - tracker.strandedLinkupStuckAt ≤ strandedLinkupStuckFreshnessWindow then
    (true, tracker)
  else if tracker.strandedLinkupStuck then
    (false, { tracker with strandedLinkupStuck := false, strandedLinkupStuckEdge := "" })
  else (false, tracker)

end Tracker

/-- The events of a pass with what their texts name. -/
inductive Event
  | sentinelPeerLinkupStuck (stuck : List String) (backoff : Nat)
  | sentinelStrandedRecovery (names : List String) (masterIP : String)
  | sentinelDeadMasterRepoint (names : List String) (masterIP : String)
  | sentinelStaleEpochRepoint (names : List String) (masterIP : String)
  deriving DecidableEq

/-- The map of the names is written in the order of the endpoints. -/
def addrByName (endpoints : List Endpoint) (name : String) : Option String :=
  (endpoints.reverse.find? fun endpoint => endpoint.name = name).map Endpoint.addr

/-- The addresses of these sentinels. -/
def sentinelNamesToAddrs (names : List String) (endpoints : List Endpoint) : List String :=
  names.filterMap (addrByName endpoints)

/-- No wipe, no re-point and nothing paced. -/
def gateDeferred (out : StrandedRecoveryResult) : Bool :=
  out.stranded = [] ∧ out.repointed = [] ∧ out.skippedStranded = [] ∧ out.staleEpochRepointed = []

/-- Fold the outcome of a surgery into the tracker. -/
def applyStrandedRecoveryOutcome (out : StrandedRecoveryResult) (authFailures : List String)
    (endpoints : List Endpoint) (masterIP : String) (now : Nat) (tracker : Tracker) :
    List Event × Tracker :=
  let tracker :=
    if out.probed then { tracker with strandedRecoveryLastFired := some now } else tracker
  if out.healthy then ([], tracker.clearStrandedLinkupStuck)
  else if gateDeferred out then ([], tracker)
  else
    let (verdict, tracker) := tracker.detectStrandedPeerLinkupStuck
      (sentinelNamesToAddrs out.emptyPeerStranded endpoints)
      (sentinelNamesToAddrs out.skippedStranded endpoints)
      (sentinelNamesToAddrs authFailures endpoints) now
    ((if verdict.fireEvent then [.sentinelPeerLinkupStuck verdict.stuck verdict.backoffLevel]
        else []) ++
      (if out.stranded ≠ [] then [.sentinelStrandedRecovery out.stranded masterIP] else []) ++
      (if out.repointed ≠ [] then [.sentinelDeadMasterRepoint out.repointed masterIP] else []) ++
      if out.staleEpochRepointed ≠ [] then
        [.sentinelStaleEpochRepoint out.staleEpochRepointed masterIP]
      else [],
      tracker)

/-- What a pass that comes to the surgery is given and answered. -/
structure Pass where
  target : Target
  /-- Pods have different names. -/
  distinct : (target.endpoints.map Endpoint.name).Nodup
  /-- An address is a host and a port. -/
  joinable : ∀ endpoint ∈ target.endpoints, CommaJoin.Piece endpoint.addr
  deferred : Bool
  bypassQuorumDeferral : Bool
  replies : Surgery.Replies
  ghostSeen : Stamps
  authFailures : List String
  gateAt : Nat
  skipAt : Nat
  surgeryAt : Nat
  foldAt : Nat

namespace Pass

variable (pass : Pass) (tracker : Tracker)

/-- The pass is held off. -/
def coolingDown : Bool := tracker.strandedProbeCoolingDown pass.gateAt

/-- The addresses the pass skips. -/
def skip : List String := tracker.strandedSkipSet pass.skipAt

/-- The outcome of the surgery. -/
def out : StrandedRecoveryResult :=
  (recoverStrandedSentinels { pass.target with skipStrandedAddrs := pass.skip tracker }
    pass.deferred pass.bypassQuorumDeferral pass.surgeryAt pass.replies pass.ghostSeen).result

/-- The end of `detectAndRecoverStrandedSentinels`. -/
def detectAndRecover : List Event × Tracker :=
  if pass.coolingDown tracker then ([], tracker)
  else
    applyStrandedRecoveryOutcome (pass.out tracker) pass.authFailures pass.target.endpoints
      pass.target.masterIP pass.foldAt tracker

end Pass

/-- A pass, or a look at the flag for the status. -/
inductive Act
  | pass (attempt : Pass)
  | status (now : Nat)

namespace Act

/-- When the act reads the clock. -/
def times : Act → List Nat
  | .pass attempt => [attempt.gateAt, attempt.skipAt, attempt.surgeryAt, attempt.foldAt]
  | .status now => [now]

/-- What an act reports and leaves. -/
def call : Act → Tracker → List Event × Tracker
  | .pass attempt, tracker => attempt.detectAndRecover tracker
  | .status now, tracker => ([], (tracker.strandedLinkupStuckActiveOrExpire now).2)

end Act

/-- The tracker after an act. -/
def step (act : Act) (tracker : Tracker) : Tracker := (act.call tracker).2

/-- The tracker after these acts. -/
def run (acts : List Act) : Tracker := Machine.run step acts {}

namespace Pass

variable (pass : Pass) (tracker : Tracker)

/-- The addresses that the pass wipes. -/
def wiped : List String :=
  if pass.coolingDown tracker then []
  else sentinelNamesToAddrs (pass.out tracker).emptyPeerStranded pass.target.endpoints

/-- The addresses that the pass would wipe, but for the pace. -/
def skipped : List String :=
  if pass.coolingDown tracker then []
  else sentinelNamesToAddrs (pass.out tracker).skippedStranded pass.target.endpoints

/-- The pass finds all peer lists intact. -/
def clears : Bool := !pass.coolingDown tracker && (pass.out tracker).healthy

/-- The pass counts what it wiped. -/
def folds : Bool :=
  !pass.coolingDown tracker && !(pass.out tracker).healthy && !gateDeferred (pass.out tracker)

/-- The pass fires the event for stuck sentinels. -/
def Fires : Prop :=
  ∃ stuck backoff, Event.sentinelPeerLinkupStuck stuck backoff ∈ (pass.detectAndRecover tracker).1

end Pass

/-- The addresses with as many wipes in a row as the threshold. -/
def stuckSet (records : Records) : Set String :=
  {addr | ∃ rec, records.lookup addr = some rec ∧ strandedSurgeryStuckThreshold ≤ rec.noProgress}

section Records

variable {records records' : Records} {addr : String} {now : Nat}

theorem one_le_strandedAddrBackoffLevel {noProgress : Nat} :
    1 ≤ strandedAddrBackoffLevel noProgress ↔ strandedSurgeryStuckThreshold ≤ noProgress := by
  have limit : 1 ≤ strandedSurgeryMaxBackoffLevel := by decide
  unfold strandedAddrBackoffLevel
  split_ifs with below
  · omega
  · rw [le_min_iff]
    omega

variable {rec : StrandedAddrState}

theorem paced_iff :
    rec.paced now = true ↔ strandedSurgeryStuckThreshold ≤ rec.noProgress ∧
      now < rec.lastWiped +
        strandedRecoveryCooldown * 2 ^ strandedAddrBackoffLevel rec.noProgress := by
  have positive : 0 < strandedRecoveryCooldown * 2 ^ strandedAddrBackoffLevel rec.noProgress :=
    Nat.mul_pos (by decide) (Nat.two_pow_pos _)
  unfold StrandedAddrState.paced
  rw [decide_eq_true_iff, one_le_strandedAddrBackoffLevel, Nat.shiftLeft_eq]
  omega

theorem mem_keys_filter {p : StrandedAddrState → Bool} :
    addr ∈ (records.entries.filter fun entry => p entry.2).map Sigma.fst ↔
      ∃ rec, records.lookup addr = some rec ∧ p rec = true := by
  constructor
  · intro mem
    obtain ⟨⟨_, rec⟩, kept, rfl⟩ := List.mem_map.mp mem
    obtain ⟨entry, holds⟩ := List.mem_filter.mp kept
    exact ⟨rec, AList.mem_lookup_iff.mpr entry, holds⟩
  · rintro ⟨rec, found, holds⟩
    exact List.mem_map.mpr
      ⟨⟨addr, rec⟩, List.mem_filter.mpr ⟨AList.mem_lookup_iff.mp found, holds⟩, rfl⟩

theorem mem_strandedSkipSet {tracker : Tracker} :
    addr ∈ tracker.strandedSkipSet now ↔
      ∃ rec, tracker.strandedNoProgress.lookup addr = some rec ∧ rec.paced now = true :=
  mem_keys_filter

theorem mem_stuckAddrs : addr ∈ stuckAddrs records ↔ addr ∈ stuckSet records := by
  unfold stuckAddrs stuckSet
  rw [List.mem_insertionSort, mem_keys_filter (p := fun rec =>
    decide (1 ≤ strandedAddrBackoffLevel rec.noProgress))]
  simp only [decide_eq_true_iff, one_le_strandedAddrBackoffLevel, Set.mem_ofPred_eq]

theorem stuckAddrs_ne_nil : stuckAddrs records ≠ [] ↔ (stuckSet records).Nonempty := by
  constructor
  · intro some
    obtain ⟨addr, mem⟩ := List.exists_mem_of_ne_nil _ some
    exact ⟨addr, mem_stuckAddrs.mp mem⟩
  · rintro ⟨addr, mem⟩
    exact List.ne_nil_of_mem (mem_stuckAddrs.mpr mem)

/-- The list stands for the set, as it is sorted and has no repetitions. -/
theorem stuckAddrs_inj :
    stuckAddrs records = stuckAddrs records' ↔ stuckSet records = stuckSet records' := by
  have nodup (records : Records) : (stuckAddrs records).Nodup :=
    (List.perm_insertionSort _ _).nodup_iff.mpr
      ((List.filter_sublist.map Sigma.fst).nodup records.nodupKeys)
  constructor
  · intro same
    ext addr
    rw [← mem_stuckAddrs, same, mem_stuckAddrs]
  · intro same
    have perm : (stuckAddrs records).Perm (stuckAddrs records') :=
      (List.perm_ext_iff_of_nodup (nodup records) (nodup records')).mpr fun addr => by
        rw [mem_stuckAddrs, same, mem_stuckAddrs]
    exact perm.eq_of_pairwise' (List.pairwise_insertionSort _ _) (List.pairwise_insertionSort _ _)

private theorem wipedRecord_lastWiped : (wipedRecord records now addr).lastWiped = now := by
  unfold wipedRecord
  split
  · rfl
  · split_ifs
    · rfl
    · rfl

variable {wiped skipped authFailed : List String}

/-- The record of a wiped address after the password commands. -/
def freshRecord (authFailed : List String) (now : Nat) (records : Records) (addr : String) :
    StrandedAddrState :=
  let wiped := wipedRecord records now addr
  if addr ∈ authFailed ∧ wiped.noProgress < strandedSurgeryStuckThreshold then
    { wiped with noProgress := strandedSurgeryStuckThreshold }
  else wiped

private theorem freshRecord_lastWiped :
    (freshRecord authFailed now records addr).lastWiped = now := by
  unfold freshRecord
  dsimp only
  split_ifs
  · exact wipedRecord_lastWiped
  · exact wipedRecord_lastWiped

/-- Skipped addresses keep their record, wiped ones get a new one. -/
theorem nextRecords_lookup :
    (nextRecords wiped skipped authFailed now records).lookup addr =
      let fresh := if addr ∈ wiped then some (freshRecord authFailed now records addr) else none
      if addr ∈ skipped then (records.lookup addr).or fresh else fresh := by
  unfold nextRecords freshRecord
  dsimp only
  rw [MapLoop.lookup_writeAll, MapLoop.lookup_modifyAll _ _ _ _ _ (by simp),
    MapLoop.lookup_writeAll]
  by_cases mem : addr ∈ wiped
  · simp [mem]
  · simp [mem]

theorem nextRecords_skipped (paced : addr ∈ skipped) (tracked : records.lookup addr = some rec) :
    (nextRecords wiped skipped authFailed now records).lookup addr = some rec := by
  rw [nextRecords_lookup]
  simp [paced, tracked]

/-- A record is stamped by the fold, or is of a skipped address. -/
theorem nextRecords_some
    (found : (nextRecords wiped skipped authFailed now records).lookup addr = some rec) :
    addr ∈ wiped ∧ rec.lastWiped = now ∨ addr ∈ skipped ∧ records.lookup addr = some rec := by
  rw [nextRecords_lookup] at found
  dsimp only at found
  split_ifs at found with paced fresh fresh
  · rcases Option.or_eq_some_iff.mp found with old | ⟨-, new⟩
    · exact .inr ⟨paced, old⟩
    · obtain rfl := Option.some_inj.mp new
      exact .inl ⟨fresh, freshRecord_lastWiped⟩
  · rw [Option.or_none] at found
    exact .inr ⟨paced, found⟩
  · obtain rfl := Option.some_inj.mp found
    exact .inl ⟨fresh, freshRecord_lastWiped⟩

end Records

section Outcome

private theorem operate_report (target : Target) (replies : Surgery.Replies)
    (selection : Surgery.Selection) :
    let out := (operate target replies selection).result
    (out.emptyPeerStranded = selection.report.emptyPeerStranded ∧
        out.skippedStranded = selection.report.skippedStranded) ∧
      selection.report.stranded <+: out.stranded ∧ out.probed = true ∧ out.healthy = false := by
  unfold operate
  dsimp only
  cases selection.ghost with
  | none =>
      dsimp only
      split_ifs
      · exact ⟨⟨rfl, rfl⟩, List.prefix_refl _, rfl, rfl⟩
      · exact ⟨⟨rfl, rfl⟩, List.prefix_refl _, rfl, rfl⟩
  | some ghost => exact ⟨⟨rfl, rfl⟩, List.prefix_append _ _, rfl, rfl⟩

/-- A surgery reports the stranded sentinels in two parts, or none of them. -/
theorem recoverStrandedSentinels_classes (target : Target) (deferred bypass : Bool) (now : Nat)
    (replies : Surgery.Replies) (ghostSeen : Stamps) :
    let out := (recoverStrandedSentinels target deferred bypass now replies ghostSeen).result
    let stranded := target.endpoints.filter fun endpoint => (replies.peers endpoint).stranded
    let classes := partitionEmptyPeerClass stranded target.skipStrandedAddrs
    out.emptyPeerStranded = [] ∧ out.skippedStranded = [] ∨
      (out.emptyPeerStranded = classes.resetTargets.map Endpoint.name ∧
        out.skippedStranded = classes.skippedNames) ∧
      out.emptyPeerStranded <+: out.stranded ∧ out.probed = true ∧ out.healthy = false := by
  unfold recoverStrandedSentinels
  dsimp only
  split_ifs with empty waits idle paced minority silent electing
  · exact .inl ⟨rfl, rfl⟩
  · exact .inl ⟨rfl, rfl⟩
  · exact .inr ⟨⟨rfl, rfl⟩, List.prefix_refl _, rfl, rfl⟩
  · -- Nothing is wiped, and nothing is paced either.
    have none : (select target now replies ghostSeen).emptyPeer.resetTargets = [] :=
      (List.append_eq_nil_iff.mp (List.append_eq_nil_iff.mp idle.1).1).1
    exact .inl ⟨congrArg (List.map Endpoint.name) none, not_not.mp paced⟩
  · exact .inl ⟨rfl, rfl⟩
  · exact .inl ⟨rfl, rfl⟩
  · exact .inl ⟨rfl, rfl⟩
  · obtain ⟨classes, stranded, probed, healthy⟩ := operate_report target replies
      (select target now replies ghostSeen)
    refine .inr ⟨classes, ?_, probed, healthy⟩
    rw [classes.1]
    exact stranded

variable {endpoints : List Endpoint}

private theorem addrByName_name (distinct : (endpoints.map Endpoint.name).Nodup)
    {endpoint : Endpoint}
    (mem : endpoint ∈ endpoints) : addrByName endpoints endpoint.name = some endpoint.addr := by
  unfold addrByName
  cases found : endpoints.reverse.find? fun other => other.name = endpoint.name with
  | none =>
      have absent := List.find?_eq_none.mp found endpoint (List.mem_reverse.mpr mem)
      simp at absent
  | some other =>
      have listed := List.mem_reverse.mp (List.mem_of_find?_eq_some found)
      have named : other.name = endpoint.name := by simpa using List.find?_some found
      rw [List.inj_on_of_nodup_map distinct listed mem named, Option.map_some]

private theorem sentinelNamesToAddrs_map (distinct : (endpoints.map Endpoint.name).Nodup)
    {selected : List Endpoint} (listed : selected ⊆ endpoints) :
    sentinelNamesToAddrs (selected.map Endpoint.name) endpoints =
      selected.map Endpoint.addr := by
  unfold sentinelNamesToAddrs
  rw [List.filterMap_map, ← List.filterMap_eq_map]
  exact List.filterMap_congr fun endpoint mem => addrByName_name distinct (listed mem)

end Outcome

section Step

variable {pass : Pass} {tracker : Tracker} {addr : String}

theorem Pass.out_classes (pass : Pass) (tracker : Tracker) :
    let stranded := pass.target.endpoints.filter fun endpoint =>
      (pass.replies.peers endpoint).stranded
    let out := pass.out tracker
    out.emptyPeerStranded = [] ∧ out.skippedStranded = [] ∨
      (out.emptyPeerStranded =
          (stranded.filter fun endpoint => endpoint.addr ∉ pass.skip tracker).map Endpoint.name ∧
        out.skippedStranded =
          (stranded.filter fun endpoint => endpoint.addr ∈ pass.skip tracker).map Endpoint.name) ∧
      out.emptyPeerStranded <+: out.stranded ∧ out.probed = true ∧ out.healthy = false :=
  recoverStrandedSentinels_classes _ _ _ _ _ _

theorem Pass.mem_addrs {pass : Pass} {stranded part : Endpoint → Bool}
    (mem : addr ∈ sentinelNamesToAddrs
      (((pass.target.endpoints.filter stranded).filter part).map Endpoint.name)
      pass.target.endpoints) :
    ∃ endpoint ∈ pass.target.endpoints, part endpoint = true ∧ endpoint.addr = addr := by
  rw [sentinelNamesToAddrs_map pass.distinct fun endpoint selected =>
    List.mem_of_mem_filter (List.mem_of_mem_filter selected)] at mem
  obtain ⟨endpoint, selected, rfl⟩ := List.mem_map.mp mem
  obtain ⟨listed, holds⟩ := List.mem_filter.mp selected
  exact ⟨endpoint, List.mem_of_mem_filter listed, holds, rfl⟩

theorem mem_wiped (mem : addr ∈ pass.wiped tracker) :
    (pass.coolingDown tracker = false ∧ addr ∉ pass.skip tracker) ∧
      (pass.out tracker).probed = true ∧ pass.folds tracker = true ∧
      ∃ endpoint ∈ pass.target.endpoints, endpoint.addr = addr := by
  unfold Pass.wiped at mem
  split_ifs at mem with cooling
  · cases mem
  rw [Bool.not_eq_true] at cooling
  rcases pass.out_classes tracker with
    ⟨none, -⟩ | ⟨⟨wiped, -⟩, reported, probed, healthy⟩
  · rw [none] at mem
    cases mem
  · have some : (pass.out tracker).stranded ≠ [] := by
      intro none
      rw [none, List.prefix_nil] at reported
      rw [reported] at mem
      cases mem
    have folds : pass.folds tracker = true := by
      simp [Pass.folds, gateDeferred, cooling, healthy, some]
    rw [wiped] at mem
    obtain ⟨endpoint, listed, due, rfl⟩ := Pass.mem_addrs mem
    exact ⟨⟨cooling, of_decide_eq_true due⟩, probed, folds, endpoint, listed, rfl⟩

/-- A pass skips paced addresses only, and none with intact peers. -/
theorem mem_skipped (mem : addr ∈ pass.skipped tracker) :
    addr ∈ pass.skip tracker ∧ pass.clears tracker = false := by
  unfold Pass.skipped at mem
  split_ifs at mem with cooling
  · cases mem
  rcases pass.out_classes tracker with ⟨-, none⟩ | ⟨⟨-, skipped⟩, -, -, healthy⟩
  · rw [none] at mem
    cases mem
  · rw [skipped] at mem
    obtain ⟨endpoint, -, paced, rfl⟩ := Pass.mem_addrs mem
    exact ⟨of_decide_eq_true paced, by simp [Pass.clears, healthy]⟩

/-- The tracker with the time of the probe. -/
def Pass.stamped (pass : Pass) (tracker : Tracker) : Tracker :=
  if (pass.out tracker).probed then
    { tracker with strandedRecoveryLastFired := some pass.foldAt }
  else tracker

/-- The records that a pass leaves. -/
def Pass.next (pass : Pass) (tracker : Tracker) : Records :=
  nextRecords (pass.wiped tracker) (pass.skipped tracker)
    (sentinelNamesToAddrs pass.authFailures pass.target.endpoints) pass.foldAt
    tracker.strandedNoProgress

@[simp]
theorem stamped_strandedNoProgress :
    (pass.stamped tracker).strandedNoProgress = tracker.strandedNoProgress := by
  unfold Pass.stamped
  split_ifs
  · rfl
  · rfl

@[simp]
theorem stamped_strandedLinkupStuck :
    (pass.stamped tracker).strandedLinkupStuck = tracker.strandedLinkupStuck := by
  unfold Pass.stamped
  split_ifs
  · rfl
  · rfl

@[simp]
theorem stamped_strandedLinkupStuckAt :
    (pass.stamped tracker).strandedLinkupStuckAt = tracker.strandedLinkupStuckAt := by
  unfold Pass.stamped
  split_ifs
  · rfl
  · rfl

@[simp]
theorem stamped_strandedLinkupStuckEdge :
    (pass.stamped tracker).strandedLinkupStuckEdge = tracker.strandedLinkupStuckEdge := by
  unfold Pass.stamped
  split_ifs
  · rfl
  · rfl

theorem step_pass_cases (pass : Pass) (tracker : Tracker) :
    (pass.clears tracker = false ∧ pass.folds tracker = false ∧
        (step (.pass pass) tracker = tracker ∨
          step (.pass pass) tracker = pass.stamped tracker)) ∨
      (pass.clears tracker = true ∧ pass.folds tracker = false ∧
        step (.pass pass) tracker = (pass.stamped tracker).clearStrandedLinkupStuck) ∨
      (pass.clears tracker = false ∧ pass.folds tracker = true ∧
        step (.pass pass) tracker =
          ((pass.stamped tracker).detectStrandedPeerLinkupStuck (pass.wiped tracker)
            (pass.skipped tracker) (sentinelNamesToAddrs pass.authFailures pass.target.endpoints)
            pass.foldAt).2) := by
  unfold step Act.call Pass.detectAndRecover Pass.clears Pass.folds Pass.wiped Pass.skipped
  by_cases cooling : pass.coolingDown tracker = true
  · simp [cooling]
  · unfold applyStrandedRecoveryOutcome Pass.stamped
    by_cases healthy : (pass.out tracker).healthy = true
    · simp [cooling, healthy]
    · by_cases deferred : gateDeferred (pass.out tracker) = true
      · simp [cooling, healthy, deferred]
      · simp [cooling, healthy, deferred]

end Step

end Velkir.StrandedTracker
