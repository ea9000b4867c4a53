import Velkir.QuorumAggregate

/-!
# The bootstrap seed

Phase 3 writes the address new pods replicate from, looked for in four places in turn, and keeps the
old one otherwise.
-/

namespace Velkir.Seed

open Aggregation Majority

/-- The sentinel part of the spec. -/
structure Sentinel where
  masterName : String
  quorum : Int32
  replicas : Int32

/-- What Phase 3 reads of the resource for the seed. -/
structure Valkey where
  name : String
  mode : Mode
  sentinel : Option Sentinel
  failoverDispatch : Option FailoverDispatch

/-- What the API server holds. -/
structure Api where
  /-- The data-plane pods of the resource. -/
  pods : List Pod
  others : List Pod
  distinct : ((pods ++ others).map Pod.name).Nodup
  records : List SentinelQuorum
  /-- The seed in the ConfigMap, empty if the key is missing. -/
  seed : Option String

/-- The calls of Phase 3, any of which may fail. -/
inductive Call
  | config
  | primaries
  | records
  | majorityPod
  | dispatchOwner
  | podZero
  | configMap
  | previousOwner
  | apply
  deriving DecidableEq

/-- How a pass of Phase 3 goes. -/
structure Pass where
  now : Int
  /-- The order in which the vote map is visited. -/
  order : Iteration (String × Nat)
  /-- What the observer has published. -/
  snap : Snapshot
  fails : Call → Bool

def Pass.currentObservedEpoch (pass : Pass) : Int := pass.snap.epoch

/-- Where a seed comes from. -/
inductive Resolution
  | labelled (pod : Pod)
  | majority (pod : Pod)
  | dispatch (host : String)
  | ordinal (pod : Pod)
  | undetermined
  deriving DecidableEq

/-- The address of the seed. -/
def Resolution.ip : Resolution → String
  | .labelled pod | .majority pod | .ordinal pod => pod.podIP
  | .dispatch host => host
  | .undetermined => ""

def sentinelQuorumFreshnessWindow : Int := 60 * second

def Api.getPod (api : Api) (name : String) : Option Pod :=
  (api.pods ++ api.others).find? fun pod => pod.name = name

section Phase

variable (v : Valkey) (api : Api) (pass : Pass)

/-- Whether a live pod has this address; nothing if the list fails. -/
def seedIPOwnedByCR (call : Call) (ip : String) : Option Bool :=
  if pass.fails call then none
  else some (api.pods.any fun pod => !pod.terminating && pod.podIP = ip)

/-- The seed that the marker stands for. -/
def seedFromFailoverDispatch : Resolution :=
  match v.failoverDispatch with
  | none => .undetermined
  | some marker =>
      if marker.preStripAddr = "" then .undetermined
      else match GoText.splitHost marker.preStripAddr.toList with
      | none => .undetermined
      | some host =>
          if String.ofList host = "" then .undetermined
          else match seedIPOwnedByCR api pass .dispatchOwner (String.ofList host) with
          | some true =>
              if 0 < marker.preStripEpoch ∧ 0 < pass.currentObservedEpoch ∧
                  marker.preStripEpoch < pass.currentObservedEpoch then .undetermined
              else .dispatch (String.ofList host)
          | _ => .undetermined

/-- The pod of the majority. -/
def majorityPod (sentinel : Sentinel) : Option Pod :=
  let agg := aggregate pass.now sentinelQuorumFreshnessWindow pass.order
    (clampQuorumToPoolMajority sentinel.quorum sentinel.replicas) api.records
  if agg.primaryConfirmed ∧ agg.primaryPod ≠ "" then
    if pass.fails .majorityPod then none
    else (api.getPod agg.primaryPod).filter fun pod => !pod.terminating && pod.podIP ≠ ""
  else none

/-- Resolve the seed. -/
def seedMasterIPForCR : Resolution :=
  if pass.fails .primaries then .undetermined
  else match api.pods.find? fun pod => pod.role = .primary && pod.podIP ≠ "" with
  | some pod => .labelled pod
  | none =>
      if pass.fails .records then .undetermined
      else match v.sentinel, api.records with
      | some sentinel, _ :: _ =>
          match majorityPod api pass sentinel with
          | some pod => .majority pod
          | none => seedFromFailoverDispatch v api pass
      | _, _ =>
          if pass.fails .podZero then .undetermined
          else match api.getPod (v.name ++ "-0") with
          | some pod => .ordinal pod
          | none => .undetermined

/-- What a pass does to the ConfigMap. -/
inductive Outcome
  | skipped
  | failed
  | kept (seed : String)
  | wrote (resolution : Resolution)
  deriving DecidableEq

/-- The seed a pass leaves on purpose. -/
def Outcome.seed : Outcome → Option String
  | .kept seed => some seed
  | .wrote resolution => some resolution.ip
  | .skipped | .failed => none

def applyBootstrapCM (resolution : Resolution) : Outcome :=
  if pass.fails .apply then .failed else .wrote resolution

/-- Write the seed, or keep what is there. -/
def reconcileSentinelBootstrapCM (resolution : Resolution) : Outcome :=
  if resolution.ip = "" then
    if pass.fails .configMap then .failed
    else match api.seed with
    | none => applyBootstrapCM pass resolution
    | some prev =>
        if prev ≠ "" ∧ seedIPOwnedByCR api pass .previousOwner prev ≠ some false then .kept prev
        else applyBootstrapCM pass resolution
  else applyBootstrapCM pass resolution

/-- Phase 3 up to the ConfigMap. -/
def reconcileSentinelInfra : Outcome :=
  if v.mode ≠ .sentinel then .skipped
  else match v.sentinel with
  | none => .skipped
  | some sentinel =>
      if sentinel.masterName = "" then .skipped
      else if pass.fails .config then .failed
      else reconcileSentinelBootstrapCM api pass (seedMasterIPForCR v api pass)

end Phase

/-- A live pod of the resource has this address. -/
def Owned (api : Api) (ip : String) : Prop :=
  ∃ pod ∈ api.pods, pod.terminating = false ∧ pod.podIP = ip

/-- A newer election is known than the one the marker was written for. -/
def Superseded (marker : FailoverDispatch) (epoch : Int) : Prop :=
  0 < marker.preStripEpoch ∧ 0 < epoch ∧ marker.preStripEpoch < epoch

/-- The sources that are not guesses. -/
inductive Justified (v : Valkey) (api : Api) (pass : Pass) : Outcome → Prop
  | empty {resolution} : resolution.ip = "" → Justified v api pass (.wrote resolution)
  | majority {pod} :
      Confirmed pass.now sentinelQuorumFreshnessWindow api.records pod.name →
      pod ∈ api.pods ++ api.others → pod.terminating = false → pod.podIP ≠ "" →
      Justified v api pass (.wrote (.majority pod))
  | dispatch {marker host} :
      v.failoverDispatch = some marker → GoText.splitHost marker.preStripAddr.toList = some host →
      Owned api (String.ofList host) → ¬Superseded marker pass.currentObservedEpoch →
      Justified v api pass (.wrote (.dispatch (String.ofList host)))
  | previous {seed} :
      (seedMasterIPForCR v api pass).ip = "" → api.seed = some seed →
      Owned api seed ∨ pass.fails .previousOwner = true →
      Justified v api pass (.kept seed)

section Results

variable {v : Valkey} {api : Api} {pass : Pass}

variable {call : Call} {ip : String}

theorem owned_of_some_true (answer : seedIPOwnedByCR api pass call ip = some true) :
    Owned api ip := by
  unfold seedIPOwnedByCR at answer
  split at answer
  · cases answer
  · obtain ⟨pod, mem, found⟩ := List.any_eq_true.mp (Option.some.inj answer)
    simp only [Bool.and_eq_true, Bool.not_eq_true', decide_eq_true_eq] at found
    exact ⟨pod, mem, found⟩

/-- Only an answer that no pod has the address gives up the address. -/
theorem owned_of_not_some_false (answer : seedIPOwnedByCR api pass call ip ≠ some false) :
    Owned api ip ∨ pass.fails call = true := by
  cases fails : pass.fails call with
  | true => exact .inr rfl
  | false =>
      have listed : seedIPOwnedByCR api pass call ip =
          some (api.pods.any fun pod => !pod.terminating && pod.podIP = ip) := by
        simp [seedIPOwnedByCR, fails]
      refine .inl (owned_of_some_true (listed.trans ?_))
      rw [listed] at answer
      simpa using answer

private theorem getPod_spec {name : String} {pod : Pod} (found : api.getPod name = some pod) :
    pod ∈ api.pods ++ api.others ∧ pod.name = name := by
  have same := List.find?_some found
  exact ⟨List.mem_of_find?_eq_some found, of_decide_eq_true same⟩

variable {sentinel : Sentinel}

private theorem majorityPod_spec {pod : Pod} (found : majorityPod api pass sentinel = some pod) :
    Justified v api pass (.wrote (.majority pod)) := by
  simp only [majorityPod] at found
  split at found
  next confirmed =>
    split at found
    · cases found
    · obtain ⟨stored, live⟩ := Option.filter_eq_some_iff.mp found
      obtain ⟨mem, name⟩ := getPod_spec stored
      simp only [Bool.and_eq_true, Bool.not_eq_true', decide_eq_true_eq] at live
      exact .majority (confirmed_iff.mp ⟨confirmed.1, name.symm⟩) mem live.1 live.2
  next => cases found

private theorem seedFromFailoverDispatch_spec :
    Justified v api pass (.wrote (seedFromFailoverDispatch v api pass)) := by
  unfold seedFromFailoverDispatch
  split
  · exact .empty rfl
  next marker marked =>
    split
    · exact .empty rfl
    · split
      · exact .empty rfl
      next host split_host =>
        split
        · exact .empty rfl
        · split
          next owned =>
            split
            · exact .empty rfl
            next current => exact .dispatch marked split_host (owned_of_some_true owned) current
          · exact .empty rfl

/-- With records and no labelled primary, majority and marker are asked. -/
theorem seedMasterIPForCR_spec (spec : v.sentinel = some sentinel) (recorded : api.records ≠ [])
    (unlabelled : ∀ pod ∈ api.pods, pod.role = .primary → pod.podIP = "") :
    Justified v api pass (.wrote (seedMasterIPForCR v api pass)) := by
  obtain ⟨record, rest, records⟩ := List.exists_cons_of_ne_nil recorded
  have none_labelled :
      (api.pods.find? fun pod => pod.role = .primary && pod.podIP ≠ "") = none := by
    refine List.find?_eq_none.mpr fun pod mem => ?_
    simpa using unlabelled pod mem
  unfold seedMasterIPForCR
  simp only [none_labelled, spec, records]
  split
  · exact .empty rfl
  · split
    · exact .empty rfl
    · split
      next found => exact majorityPod_spec found
      next => exact seedFromFailoverDispatch_spec

private theorem seedMasterIPForCR_ne_ordinal (spec : v.sentinel = some sentinel)
    (recorded : api.records ≠ []) (pod : Pod) : seedMasterIPForCR v api pass ≠ .ordinal pod := by
  obtain ⟨record, rest, records⟩ := List.exists_cons_of_ne_nil recorded
  have marker : seedFromFailoverDispatch v api pass ≠ .ordinal pod := by
    unfold seedFromFailoverDispatch
    grind
  unfold seedMasterIPForCR
  simp only [spec, records]
  split
  · nofun
  · split
    · nofun
    · split
      · nofun
      · split
        · nofun
        · exact marker

/-- The ConfigMap gets the resolved seed; an empty one leaves it alone. -/
theorem reconcileSentinelBootstrapCM_spec {resolution : Resolution} {seed : String}
    (settled : (reconcileSentinelBootstrapCM api pass resolution).seed = some seed) :
    reconcileSentinelBootstrapCM api pass resolution = .wrote resolution ∨
      ∃ prev, reconcileSentinelBootstrapCM api pass resolution = .kept prev ∧
        resolution.ip = "" ∧ api.seed = some prev ∧
        (Owned api prev ∨ pass.fails .previousOwner = true) := by
  have applied (settled : (applyBootstrapCM pass resolution).seed = some seed) :
      applyBootstrapCM pass resolution = .wrote resolution := by
    unfold applyBootstrapCM at settled ⊢
    split at settled
    · cases settled
    next accepted => rw [if_neg accepted]
  unfold reconcileSentinelBootstrapCM at settled ⊢
  split
  next unresolved =>
    rw [if_pos unresolved] at settled
    split
    next fails => simp [fails, Outcome.seed] at settled
    next answered =>
      rw [if_neg answered] at settled
      split
      next missing =>
        simp only [missing] at settled
        exact .inl (applied settled)
      next prev stored =>
        simp only [stored] at settled
        split
        next keeps =>
          exact .inr ⟨prev, rfl, unresolved, stored, owned_of_not_some_false keeps.2⟩
        next gives =>
          rw [if_neg gives] at settled
          exact .inl (applied settled)
  next resolved =>
    rw [if_neg resolved] at settled
    exact .inl (applied settled)

/-- A pass that leaves a seed has come to the ConfigMap. -/
theorem reconcileSentinelInfra_eq {seed : String}
    (settled : (reconcileSentinelInfra v api pass).seed = some seed) :
    (∃ sentinel, v.sentinel = some sentinel) ∧
      reconcileSentinelInfra v api pass =
        reconcileSentinelBootstrapCM api pass (seedMasterIPForCR v api pass) := by
  unfold reconcileSentinelInfra at settled ⊢
  split at settled
  · cases settled
  next mode =>
    rw [if_neg mode]
    split at settled
    · cases settled
    next sentinel spec =>
      split at settled
      · cases settled
      next master =>
        split at settled
        · cases settled
        next config => exact ⟨⟨sentinel, spec⟩, by simp [master, config]⟩

end Results

/-- Past bootstrap the seed comes from the majority, a live marker or the ConfigMap itself. -/
theorem seed_never_guessed (v : Valkey) (api : Api) (pass : Pass) :
    (api.records ≠ [] → (∀ pod ∈ api.pods, pod.role = .primary → pod.podIP = "") →
      ∀ seed, (reconcileSentinelInfra v api pass).seed = some seed →
        Justified v api pass (reconcileSentinelInfra v api pass)) ∧
      ∀ pod, reconcileSentinelInfra v api pass = .wrote (.ordinal pod) → api.records = [] := by
  constructor
  · intro recorded unlabelled seed settled
    obtain ⟨⟨sentinel, spec⟩, eq⟩ := reconcileSentinelInfra_eq settled
    rw [eq] at settled ⊢
    rcases reconcileSentinelBootstrapCM_spec settled with
      wrote | ⟨prev, kept, unresolved, stored, owned⟩
    · rw [wrote]
      exact seedMasterIPForCR_spec spec recorded unlabelled
    · rw [kept]
      exact .previous unresolved stored owned
  · intro pod ordinal
    have settled : (reconcileSentinelInfra v api pass).seed = some pod.podIP := by
      rw [ordinal]
      rfl
    obtain ⟨⟨sentinel, spec⟩, eq⟩ := reconcileSentinelInfra_eq settled
    rw [eq] at settled ordinal
    by_contra recorded
    rcases reconcileSentinelBootstrapCM_spec settled with wrote | ⟨prev, kept, -⟩
    · exact seedMasterIPForCR_ne_ordinal spec recorded pod
        (Outcome.wrote.inj (wrote.symm.trans ordinal))
    · cases kept.symm.trans ordinal

/-- A resource with a failover under way. -/
def failingOver : Valkey :=
  ⟨"v", .sentinel, some ⟨"main", 2, 3⟩, some { preStripAddr := "10.0.0.2:6379" }⟩

/-- No pod is labelled primary and the only record is stale. -/
def unsettled : Api :=
  ⟨[{ name := "v-0", podIP := "10.0.0.1" }, { name := "v-1", podIP := "10.0.0.2" }], [],
    by decide, [⟨"v-1", none, none⟩], none⟩

/-- Every call is answered; the observer has published nothing. -/
def answered : Pass := ⟨0, ⟨id, fun _ => .refl _⟩, none, fun _ => false⟩

/-- A rebuilt pod follows the primary of the failover under way, not pod 0. -/
theorem seed_from_marker :
    reconcileSentinelInfra failingOver unsettled answered = .wrote (.dispatch "10.0.0.2") ∧
      Justified failingOver unsettled answered (.wrote (.dispatch "10.0.0.2")) := by
  have wrote : reconcileSentinelInfra failingOver unsettled answered =
      .wrote (.dispatch "10.0.0.2") := by
    decide
  have justified := (seed_never_guessed failingOver unsettled answered).1 (by decide) (by decide)
    "10.0.0.2" (by rw [wrote]; rfl)
  rw [wrote] at justified
  exact ⟨wrote, justified⟩

end Velkir.Seed
