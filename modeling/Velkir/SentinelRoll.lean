import Velkir.History
import Velkir.Orchestration
import Velkir.Procedure

/-!
# Rolling the sentinels

Phase 3 rolls the sentinel StatefulSet through its partition, one pod at a time, while the
controller acts in between.
-/

namespace Velkir

open Crash History Orchestration

/-- What Phase 3 reads of the resource, apart from the template. -/
structure SentinelSpec where
  name : String
  replicas : Int
  quorum : Int
  deriving DecidableEq

def SentinelSpec.stsName (v : SentinelSpec) : String :=
  v.name ++ "-sentinel"

/-- The replicas, one by default. -/
def sentinelReplicas (v : SentinelSpec) : Int :=
  if 0 < v.replicas then v.replicas else 1

/-- How many other sentinels a rebuilt one has to report. -/
def sentinelRejoinThreshold (v : SentinelSpec) : Int :=
  v.quorum - 1

/-- A sentinel pod. Its revision identifies the template it was built from. -/
structure SentinelPod where
  revision : String
  ready : Bool := true
  podIP : String := ""
  deriving DecidableEq

/-- The sentinel StatefulSet as applied. -/
structure SentinelSTS where
  template : String
  partition : Int
  deriving DecidableEq

/-- What a read of the StatefulSet returns. -/
inductive Got
  | failed
  | notFound
  | found (revisions : Revisions)
  deriving DecidableEq

/-- What happens during a roll. -/
inductive RollLine
  | recreated (ordinal : Nat) (revision : String)
  /-- A dialled sentinel reported so many others. -/
  | reported (ordinal : Int) (peers : Int)
  /-- A pass that had read this status applied a template over another one, among these pods. -/
  | applied (previous : Option String) (template : String) (got : Got) (revisions : List String)
  deriving DecidableEq

/-- The sentinels of one resource. A pod's place in the list is its ordinal. -/
structure Cluster where
  spec : SentinelSpec
  template : String
  sts : Option SentinelSTS := none
  status : Revisions := ⟨"", ""⟩
  pods : List SentinelPod := []
  journal : List RollLine := []
  deriving DecidableEq

/-- The revisions of the pods by ordinal. -/
def Cluster.carried (w : Cluster) : List String :=
  w.pods.map SentinelPod.revision

/-- What happens outside the operator. -/
inductive RollStep
  | status (revisions : Revisions)
  /-- The controller looks for a pod to rebuild. -/
  | recreate
  /-- A pod comes up or goes down. -/
  | pod (ordinal : Nat) (ready : Bool) (podIP : String)
  | edit (template : String)
  deriving DecidableEq

/-- The highest ordinal from the partition up without the revision. -/
def SentinelSTS.candidate (sts : SentinelSTS) (carried : List String) : Option Nat :=
  (List.range carried.length).reverse.find? fun ordinal =>
    decide (sts.partition ≤ ordinal ∧ carried[ordinal]? ≠ some sts.template)

/-- The cluster with a pod rebuilt. -/
def Cluster.rebuild (ordinal : Nat) (revision : String) (w : Cluster) : Cluster :=
  { w with
    pods := w.pods.set ordinal { revision, ready := false }
    journal := .recreated ordinal revision :: w.journal }

/-- The controller rebuilds a pod if all are ready. -/
def Cluster.recreate (w : Cluster) : Cluster :=
  match w.sts with
  | none => w
  | some sts =>
      if w.pods.all SentinelPod.ready then
        match sts.candidate w.carried with
        | none => w
        | some ordinal => w.rebuild ordinal sts.template
      else w

/-- One step of the controller or a pod. -/
def Cluster.step (w : Cluster) : RollStep → Cluster
  | .status revisions => { w with status := revisions }
  | .recreate => w.recreate
  | .pod ordinal ready podIP =>
      { w with pods := w.pods.modify ordinal fun pod => { pod with ready, podIP } }
  | .edit template => { w with template }

/-- A sentinel pod as it was listed. -/
structure ListedPod where
  name : String
  revision : String
  podIP : String
  deriving DecidableEq

def sentinelPodName (stsName : String) (ordinal : Nat) : String :=
  stsName ++ "-" ++ Nat.repr ordinal

/-- The sentinel pods of the resource. -/
def listSentinelPodsFor (w : Cluster) : List ListedPod :=
  w.pods.mapIdx fun ordinal pod => ⟨sentinelPodName w.spec.stsName ordinal, pod.revision, pod.podIP⟩

/-- How a pass goes, and what happens during it. -/
structure RollInput where
  /-- Phase 3 ends before the roll. -/
  deferred : Bool := false
  getFails : Bool := false
  listFails : Bool := false
  /-- What the dialled sentinel reports. -/
  peers : Option Int := none
  applyFails : Bool := false
  beforeGet : List RollStep := []
  beforeList : List RollStep := []
  beforeDial : List RollStep := []
  beforeApply : List RollStep := []
  deriving DecidableEq

/-- Let other actors act. -/
def interleave (steps : List RollStep) : Proc Cluster Unit :=
  .write fun w => steps.foldl Cluster.step w

/-- The ordinal in a pod's name. -/
def sentinelPodOrdinal (podName stsName : String) : Option Int :=
  if 0 ≤ ordinalFromPodName podName stsName then some (ordinalFromPodName podName stsName) else none

/-- What the loop over the pods accumulates. -/
structure RollScan where
  numRolled : Int
  lowestRolled : Int
  deriving DecidableEq

/-- Count a rolled pod. -/
def RollScan.visit (stsName updateRev : String) (scan : RollScan) (pod : ListedPod) : RollScan :=
  if pod.revision ≠ updateRev then scan
  else
    { numRolled := scan.numRolled + 1
      lowestRolled := match sentinelPodOrdinal pod.name stsName with
        | some ordinal => if ordinal < scan.lowestRolled then ordinal else scan.lowestRolled
        | none => scan.lowestRolled }

/-- Count the rolled pods. -/
def scanRolled (stsName updateRev : String) (replicas : Int) (pods : List ListedPod) : RollScan :=
  pods.foldl (RollScan.visit stsName updateRev) ⟨0, replicas⟩

/-- Ask a sentinel with an address how many others it knows. -/
def sentinelPodRejoined (v : SentinelSpec) (pods : List ListedPod) (ordinal threshold : Int)
    (input : RollInput) : Proc Cluster Bool := do
  let target := v.stsName ++ "-" ++ toString ordinal
  if !(pods.any fun pod => pod.podIP ≠ "" && pod.name = target) then return false
  match input.peers with
  | none => return false
  | some peers =>
      .write fun w => { w with journal := .reported ordinal peers :: w.journal }
      return decide (threshold ≤ peers)

/-- Go on once the lowest rolled pod has rejoined; no threshold, no gate. -/
def advancePartition (v : SentinelSpec) (pods : List ListedPod) (lowestRolled : Int)
    (input : RollInput) : Proc Cluster Int := do
  interleave input.beforeDial
  let threshold := sentinelRejoinThreshold v
  let rejoined ←
    if threshold ≤ 0 then pure true else sentinelPodRejoined v pods lowestRolled threshold input
  if rejoined then return if lowestRolled - 1 ≤ 0 then 0 else lowestRolled - 1
  return lowestRolled

/-- Released at the end, at the top first, else at the frontier. -/
def frontierPartition (v : SentinelSpec) (updateRev : String) (input : RollInput) :
    Proc Cluster Int := do
  let replicas := sentinelReplicas v
  let pods ← .read listSentinelPodsFor
  let scan := scanRolled v.stsName updateRev replicas pods
  if replicas ≤ scan.numRolled then return 0
  if scan.numRolled = 0 then return replicas - 1
  advancePartition v pods scan.lowestRolled input

/-- The partition of the roll; zero if the read fails. -/
def computeSentinelRollPartition (v : SentinelSpec) (got : Got) (input : RollInput) :
    Proc Cluster Int :=
  match got with
  | .failed => return 0
  | .notFound => return 0
  | .found revisions => do
      if !revisions.pending then return 0
      interleave input.beforeList
      if input.listFails then return sentinelReplicas v
      frontierPartition v revisions.target input

/-- Apply a template and a partition. -/
def Cluster.applySTS (template : String) (partition : Int) (got : Got) (w : Cluster) : Cluster :=
  { w with
    sts := some { template, partition }
    journal := .applied (w.sts.map SentinelSTS.template) template got w.carried :: w.journal }

/-- The end of Phase 3: compute the partition and apply it with the template. -/
def rollSentinels (input : RollInput) : Proc Cluster Bool := do
  if input.deferred then return true
  let v ← .read Cluster.spec
  let template ← .read Cluster.template
  interleave input.beforeGet
  let got ← .read fun w =>
    if input.getFails then .failed else if w.sts = none then .notFound else .found w.status
  let partition ← computeSentinelRollPartition v got input
  interleave input.beforeApply
  if input.applyFails then return false
  .write (Cluster.applySTS template partition got)
  return true

/-- The passes of the operator and the steps of everyone else. -/
def sentinelRoller : System Cluster RollInput RollStep Bool where
  call := rollSentinels
  restart := id
  drift change w := w.step change

variable {stsName : String} {ordinal : Nat}

private theorem ordinalFromPodName_sentinelPodName (bound : ordinal < 2 ^ 31) :
    ordinalFromPodName (sentinelPodName stsName ordinal) stsName = ordinal := by
  have suffix : GoText.cutLead (stsName.toList ++ ['-']) (sentinelPodName stsName ordinal).toList =
      some (Nat.toDigits 10 ordinal) := by
    simp [GoText.cutLead, sentinelPodName, Nat.repr, List.isPrefixOf_iff_prefix]
  simp only [ordinalFromPodName, suffix, parseOrdinal,
    GoText.atoi_toDigits (by omega : ordinal < 2 ^ 63)]
  exact if_pos ⟨by omega, by omega⟩

private theorem sentinelPodOrdinal_sentinelPodName (bound : ordinal < 2 ^ 31) :
    sentinelPodOrdinal (sentinelPodName stsName ordinal) stsName = some (ordinal : Int) := by
  simp [sentinelPodOrdinal, ordinalFromPodName_sentinelPodName bound]

/-- The pods from this ordinal on, and no others, carry the revision. -/
def Frontier (revision : String) (carried : List String) (lowest : Nat) : Prop :=
  ∀ ordinal other, carried[ordinal]? = some other → (other = revision ↔ lowest ≤ ordinal)

/-- Over pods that are rolled from an ordinal on, the scan finds that ordinal. -/
theorem scanRolled_eq (stsName : String) {revision : String} {pods : List SentinelPod}
    {lowest : Nat} {replicas : Int} (bound : pods.length ≤ 2 ^ 31)
    (room : (pods.length : Int) ≤ replicas)
    (frontier : Frontier revision (pods.map SentinelPod.revision) lowest) :
    scanRolled stsName revision replicas (pods.mapIdx fun ordinal pod =>
        ⟨sentinelPodName stsName ordinal, pod.revision, pod.podIP⟩) =
      ⟨(pods.length - lowest : Nat), if lowest < pods.length then lowest else replicas⟩ := by
  induction pods using List.reverseRecOn with
  | nil => simp [scanRolled]
  | append_singleton pods last ih =>
      rw [List.length_append, List.length_singleton] at bound room
      have front : Frontier revision (pods.map SentinelPod.revision) lowest := by
        intro ordinal other found
        refine frontier ordinal other ?_
        have inside := (List.getElem?_eq_some_iff.mp found).1
        rw [List.map_append, List.getElem?_append_left inside, found]
      have here : last.revision = revision ↔ lowest ≤ pods.length :=
        frontier pods.length last.revision (by simp)
      have scanned := ih (by omega) (by push_cast at room; omega) front
      simp only [scanRolled] at scanned
      simp only [scanRolled, List.mapIdx_append, List.mapIdx_cons, List.mapIdx_nil,
        List.foldl_append, List.foldl_cons, List.foldl_nil, scanned, RollScan.visit, Nat.zero_add,
        List.length_append, List.length_singleton]
      rw [sentinelPodOrdinal_sentinelPodName (by omega)]
      by_cases rolled : lowest ≤ pods.length
      · simp only [here.mpr rolled, ne_eq, not_true_eq_false, if_false, RollScan.mk.injEq]
        exact ⟨by omega, by split_ifs <;> omega⟩
      · simp only [mt here.mp rolled, ne_eq, not_false_eq_true, if_true, RollScan.mk.injEq]
        exact ⟨by omega, by split_ifs <;> omega⟩

end Velkir
