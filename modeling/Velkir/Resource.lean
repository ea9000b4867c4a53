import Mathlib.Data.List.Nodup
import Velkir.GoText
import Velkir.MergePatch

/-!
# Kubernetes objects

The parts of Kubernetes objects that the reconciler reads or writes, those of one custom resource.
-/

namespace Velkir

/-- One second. Instants and durations are counted in nanoseconds. -/
def second : Nat := 1000000000

/-- How long an observation of the topology counts as fresh. -/
def topologyObservationFreshnessWindow : Nat := 30 * second

/-- A timestamp as the API server stores it, in whole seconds. -/
def wire (time : Nat) : Nat :=
  time / second * second

theorem wire_le (time : Nat) : wire time ≤ time :=
  Nat.div_mul_le_self time second

/-- The value of a pod's role label. -/
inductive Role
  | unset
  | primary
  | replica
  | other (text : String)
  deriving DecidableEq

/-- The condition types that are told apart. -/
inductive ConditionType
  | ready
  | replicationReady
  | other (text : String)
  deriving DecidableEq

/-- The status of a condition. -/
inductive ConditionStatus
  | true
  | false
  | unknown
  deriving DecidableEq

/-- A condition of a pod. -/
structure PodCondition where
  type : ConditionType
  status : ConditionStatus
  message : String := ""
  deriving DecidableEq

/-- A data-plane pod. -/
structure Pod where
  /-- The pod's name, `<cr>-<ordinal>`. -/
  name : String
  /-- The object's identity, new with every recreation. -/
  uid : String := name
  /-- The pod's address, empty until assigned. -/
  podIP : String := ""
  role : Role := .unset
  /-- The `controller-revision-hash` label. -/
  revision : String := ""
  /-- The `apps.kubernetes.io/pod-index` label. -/
  podIndex : Option String := none
  /-- A deletion timestamp is set. -/
  terminating : Bool := false
  conditions : List PodCondition := []
  readinessGates : List ConditionType := []
  deriving DecidableEq

/-- The status of a condition. -/
def Pod.conditionStatus (pod : Pod) (type : ConditionType) : Option ConditionStatus :=
  (pod.conditions.find? fun condition => condition.type = type).map PodCondition.status

/-- The pod is ready. -/
def podReady (pod : Pod) : Bool :=
  pod.conditionStatus .ready = some .true

/-- The replication gate's condition is true, or absent. -/
def podReplicationHealthy (pod : Pod) : Bool :=
  pod.conditionStatus .replicationReady = some .true ∨
    pod.conditionStatus .replicationReady = none

/-- A decimal ordinal, or `-1` for anything but a 32-bit number. -/
def parseOrdinal (text : List Char) : Int :=
  match GoText.atoi text with
  | some n => if 0 ≤ n ∧ n < 2 ^ 31 then n else -1
  | none => -1

/-- The ordinal suffix of a StatefulSet pod's name, or `-1`. -/
def ordinalFromPodName (podName crName : String) : Int :=
  match GoText.cutLead (crName.toList ++ ['-']) podName.toList with
  | some suffix => parseOrdinal suffix
  | none => -1

/-- A pod's ordinal: the index label when it parses, else the name's suffix. -/
def ordinalFromPod (pod : Pod) (crName : String) : Int :=
  match pod.podIndex with
  | some index =>
      if 0 ≤ parseOrdinal index.toList then parseOrdinal index.toList
      else ordinalFromPodName pod.name crName
  | none => ordinalFromPodName pod.name crName

/-- The pods of one custom resource: a name or an identity belongs to one pod. -/
structure Pods where
  items : List Pod
  distinct : (items.map Pod.name).Nodup
  uids : (items.map Pod.uid).Nodup
  deriving DecidableEq

namespace Pods

/-- Change a pod of this name. -/
def update (name : String) (change : Pod → Pod) (pod : Pod) : Pod :=
  if pod.name = name then { change pod with name := pod.name, uid := pod.uid } else pod

@[simp]
theorem update_name (name : String) (change : Pod → Pod) (pod : Pod) :
    (update name change pod).name = pod.name := by
  unfold update
  split <;> rfl

@[simp]
theorem update_uid (name : String) (change : Pod → Pod) (pod : Pod) :
    (update name change pod).uid = pod.uid := by
  unfold update
  split <;> rfl

/-- Change a pod, keeping its identity. -/
def patch (pods : Pods) (name : String) (change : Pod → Pod) : Pods where
  items := pods.items.map (update name change)
  distinct := by simpa [Function.comp_def] using pods.distinct
  uids := by simpa [Function.comp_def] using pods.uids

/-- The role of a pod. -/
def role (pods : Pods) (name : String) : Option Role :=
  (pods.items.find? fun pod => pod.name = name).map Pod.role

/-- Remove a pod. -/
def delete (pods : Pods) (name : String) : Pods where
  items := pods.items.filter fun pod => pod.name ≠ name
  distinct := pods.distinct.sublist (List.filter_sublist.map _)
  uids := pods.uids.sublist (List.filter_sublist.map _)

theorem role_patch (pods : Pods) (name other : String) (change : Pod → Pod) :
    (pods.patch name change).role other =
      if other = name then
        (pods.items.find? fun pod => pod.name = other).map fun pod => (change pod).role
      else pods.role other := by
  simp only [role, patch, List.find?_map, Function.comp_def, update_name, Option.map_map]
  cases found : pods.items.find? fun pod => pod.name = other with
  | none => simp
  | some pod =>
      have pod_name : pod.name = other := by simpa using List.find?_some found
      by_cases same : other = name <;> simp [same, pod_name, update]

theorem role_patch_of_keeps (pods : Pods) (name other : String) {update : Pod → Pod}
    (keeps : ∀ pod, (update pod).role = pod.role) :
    (pods.patch name update).role other = pods.role other := by
  rw [role_patch]
  split
  · simp [role, keeps]
  · rfl

theorem role_delete (pods : Pods) (name other : String) :
    (pods.delete name).role other = if other = name then none else pods.role other := by
  simp only [role, delete, List.find?_filter]
  split
  · rename_i same
    simp [same]
  · rename_i apart
    congr 2
    funext pod
    grind

variable {pods : Pods} {name : String}

theorem delete_absent (absent : pods.role name = none) : pods.delete name = pods := by
  have apart : ∀ pod ∈ pods.items, pod.name ≠ name := by simpa [role] using absent
  cases pods with
  | mk items distinct uids => simpa [delete] using apart

theorem role_eq_some_iff {role : Role} :
    pods.role name = some role ↔ ∃ pod ∈ pods.items, pod.name = name ∧ pod.role = role := by
  constructor
  · intro found
    obtain ⟨pod, pod_found, rfl⟩ := Option.map_eq_some_iff.mp found
    exact ⟨pod, List.mem_of_find?_eq_some pod_found, by simpa using List.find?_some pod_found, rfl⟩
  · rintro ⟨pod, mem, rfl, rfl⟩
    obtain ⟨first, found⟩ : ∃ first, pods.items.find? (fun p => p.name = pod.name) = some first :=
      Option.isSome_iff_exists.mp (List.find?_isSome.mpr ⟨pod, mem, by simp⟩)
    have same : first = pod := List.inj_on_of_nodup_map pods.distinct
      (List.mem_of_find?_eq_some found) mem (by simpa using List.find?_some found)
    simp [role, found, same]

end Pods

end Velkir
