import Velkir.Majority
import Velkir.Observer

/-!
# Aggregating the sentinels' records

Fresh records are counted. More than half of them confirm a primary, and enough reached quorums make
one.
-/

namespace Velkir.Aggregation

open Majority

/-- The status of a `SentinelQuorum`, with times in nanoseconds. -/
structure SentinelQuorum where
  observedPrimary : String
  quorumReachable : Option Bool
  lastObservedTime : Option Int
  deriving DecidableEq

/-- The verdict. -/
structure Result where
  primaryPod : String := ""
  primaryConfirmed : Bool := false
  quorumLost : Bool := false
  quorum : QuorumStatus := .unknown
  freshCount : Nat := 0
  staleCount : Nat := 0
  deriving DecidableEq

/-- The counters of the loop, with the vote map as its increments. -/
structure Counts where
  fresh : Nat := 0
  stale : Nat := 0
  votes : List String := []
  quorumOK : Nat := 0

section Aggregate

variable (now freshnessWindow : Int)

/-- The record is recent enough. -/
def isFresh (sq : SentinelQuorum) : Bool :=
  match sq.lastObservedTime with
  | none => false
  | some t => t ≠ 0 && timeSub now t ≤ freshnessWindow

/-- One round of the loop. -/
def Counts.add (counts : Counts) (sq : SentinelQuorum) : Counts :=
  if isFresh now freshnessWindow sq then
    { counts with
      fresh := counts.fresh + 1
      votes := if sq.observedPrimary ≠ "" then sq.observedPrimary :: counts.votes
        else counts.votes
      quorumOK := if sq.quorumReachable = some true then counts.quorumOK + 1
        else counts.quorumOK }
  else { counts with stale := counts.stale + 1 }

/-- Count the records. -/
def count (sqs : List SentinelQuorum) : Counts :=
  sqs.foldl (Counts.add now freshnessWindow) {}

/-- The verdict on the counts. -/
def Counts.quorum (counts : Counts) (quorum : Int32) (records : Nat) : QuorumStatus :=
  if records = 0 then .unknown
  else if counts.fresh = 0 then .lost
  else if (counts.quorumOK : Int) < quorum.toInt then .lost
  else .ok

/-- The majority among the records. -/
def aggregate (order : Iteration (String × Nat)) (quorum : Int32) (sqs : List SentinelQuorum) :
    Result :=
  let counts := count now freshnessWindow sqs
  let primary := winner order counts.fresh counts.votes
  let status := counts.quorum quorum sqs.length
  { primaryPod := primary.getD ""
    primaryConfirmed := primary.isSome
    quorumLost := status = .lost
    quorum := status
    freshCount := counts.fresh
    staleCount := counts.stale }

end Aggregate

/-- `QuorumThreshold` on the integers the specification may hold. -/
def quorumThresholdInt (n : Int) : Int := if n ≤ 2 then n else n / 2 + 1

/-- Raise a quorum to the pool's majority. -/
def clampQuorumToPoolMajority (quorum replicas : Int32) : Int32 :=
  let floor := quorumThresholdInt replicas.toInt
  if floor < 0 ∨ floor > 2147483647 then quorum
  else
    let f := Int32.ofInt floor
    if quorum ≥ f then quorum else f

section Counting

variable {now freshnessWindow : Int}

/-- The records that are fresh. -/
def freshRecords (now freshnessWindow : Int) (sqs : List SentinelQuorum) : List SentinelQuorum :=
  sqs.filter (isFresh now freshnessWindow)

/-- The pods that records name. -/
def named (sqs : List SentinelQuorum) : List String :=
  (sqs.map SentinelQuorum.observedPrimary).filter (· ≠ "")

/-- The records that reach a quorum. -/
def reaching (sqs : List SentinelQuorum) : Nat :=
  sqs.countP fun sq => sq.quorumReachable = some true

private theorem count_eq (now freshnessWindow : Int) (sqs : List SentinelQuorum) :
    count now freshnessWindow sqs =
      { fresh := (freshRecords now freshnessWindow sqs).length
        stale := sqs.length - (freshRecords now freshnessWindow sqs).length
        votes := (named (freshRecords now freshnessWindow sqs)).reverse
        quorumOK := reaching (freshRecords now freshnessWindow sqs) } := by
  induction sqs using List.reverseRecOn with
  | nil => rfl
  | append_singleton sqs sq ih =>
      have shorter : (freshRecords now freshnessWindow sqs).length ≤ sqs.length :=
        List.length_filter_le _ _
      rw [count, List.foldl_append, ← count, ih, List.foldl_cons, List.foldl_nil, Counts.add]
      cases fresh : isFresh now freshnessWindow sq with
      | true =>
          have grown : freshRecords now freshnessWindow (sqs ++ [sq]) =
              freshRecords now freshnessWindow sqs ++ [sq] := by
            simp [freshRecords, fresh]
          rw [grown]
          by_cases empty : sq.observedPrimary = "" <;>
            by_cases reaches : sq.quorumReachable = some true <;>
            simp [named, reaching, empty, reaches]
      | false =>
          have same : freshRecords now freshnessWindow (sqs ++ [sq]) =
              freshRecords now freshnessWindow sqs := by
            simp [freshRecords, fresh]
          rw [same]
          simp
          omega

theorem named_length_le (sqs : List SentinelQuorum) : (named sqs).length ≤ sqs.length := by
  have bound : (named sqs).length ≤ (sqs.map SentinelQuorum.observedPrimary).length :=
    List.length_filter_le _ _
  rwa [List.length_map] at bound

theorem count_named {p : String} (nonempty : p ≠ "") (sqs : List SentinelQuorum) :
    (named sqs).count p = sqs.countP fun sq => sq.observedPrimary = p := by
  rw [named, List.count_filter (by simp [nonempty]), List.count, List.countP_map]
  refine List.countP_congr fun sq _ => ?_
  simp

private theorem named_perm {sqs sqs' : List SentinelQuorum} (perm : sqs.Perm sqs') :
    (named sqs).Perm (named sqs') :=
  (perm.map _).filter _

end Counting

section Verdict

variable {now freshnessWindow : Int} {order order' : Iteration (String × Nat)} {quorum : Int32}
  {sqs sqs' : List SentinelQuorum}

/-- More than half of the fresh records name this pod. -/
def Confirmed (now freshnessWindow : Int) (sqs : List SentinelQuorum) (p : String) : Prop :=
  p ≠ "" ∧ (freshRecords now freshnessWindow sqs).length <
    ((freshRecords now freshnessWindow sqs).countP fun sq => sq.observedPrimary = p) * 2

/-- The verdict on so many records, given the fresh ones. -/
def verdict (order : Iteration (String × Nat)) (quorum : Int32) (records : Nat)
    (fresh : List SentinelQuorum) : Result :=
  let primary := winner order fresh.length (named fresh).reverse
  let status := if records = 0 then QuorumStatus.unknown
    else if fresh.length = 0 then .lost
    else if (reaching fresh : Int) < quorum.toInt then .lost
    else .ok
  { primaryPod := primary.getD ""
    primaryConfirmed := primary.isSome
    quorumLost := status = .lost
    quorum := status
    freshCount := fresh.length
    staleCount := records - fresh.length }

/-- Only the fresh records and the number of all of them count. -/
theorem aggregate_eq :
    aggregate now freshnessWindow order quorum sqs =
      verdict order quorum sqs.length (freshRecords now freshnessWindow sqs) := by
  simp only [aggregate, count_eq, Counts.quorum, verdict]

theorem votes_length_le (fresh : List SentinelQuorum) :
    (named fresh).reverse.length ≤ fresh.length := by
  rw [List.length_reverse]
  exact named_length_le fresh

theorem confirmed_iff {p : String} :
    ((aggregate now freshnessWindow order quorum sqs).primaryConfirmed = true ∧
      (aggregate now freshnessWindow order quorum sqs).primaryPod = p) ↔
        Confirmed now freshnessWindow sqs p := by
  have chosen (primary : Option String) :
      (primary.isSome = true ∧ primary.getD "" = p) ↔ primary = some p := by
    cases primary <;> simp
  rw [aggregate_eq]
  simp only [verdict, chosen]
  rw [winner_eq_some_iff (votes_length_le _), List.count_reverse]
  constructor
  · intro most
    have nonempty : p ≠ "" := by
      rintro rfl
      have none_named : (named (freshRecords now freshnessWindow sqs)).count "" = 0 :=
        List.count_eq_zero.mpr (by simp [named])
      omega
    rw [count_named nonempty] at most
    exact ⟨nonempty, most⟩
  · rintro ⟨nonempty, most⟩
    rwa [count_named nonempty]

private theorem Confirmed.unique {p p' : String} (first : Confirmed now freshnessWindow sqs p)
    (second : Confirmed now freshnessWindow sqs p') : p = p' := by
  obtain ⟨nonempty, most⟩ := first
  obtain ⟨nonempty', most'⟩ := second
  rw [← count_named nonempty] at most
  rw [← count_named nonempty'] at most'
  exact Majority.unique (named_length_le _) most most'

private theorem aggregate_perm (perm : sqs.Perm sqs') :
    aggregate now freshnessWindow order quorum sqs =
      aggregate now freshnessWindow order' quorum sqs' := by
  have fresh : (freshRecords now freshnessWindow sqs).Perm
      (freshRecords now freshnessWindow sqs') := perm.filter _
  have votes : (named (freshRecords now freshnessWindow sqs)).reverse.Perm
      (named (freshRecords now freshnessWindow sqs')).reverse :=
    (List.reverse_perm _).trans ((named_perm fresh).trans (List.reverse_perm _).symm)
  have reached : reaching (freshRecords now freshnessWindow sqs) =
      reaching (freshRecords now freshnessWindow sqs') := fresh.countP_eq _
  have primary : winner order (freshRecords now freshnessWindow sqs).length
      (named (freshRecords now freshnessWindow sqs)).reverse =
        winner order' (freshRecords now freshnessWindow sqs).length
          (named (freshRecords now freshnessWindow sqs')).reverse :=
    winner_perm (votes_length_le _) votes
  rw [fresh.length_eq] at primary
  rw [aggregate_eq, aggregate_eq]
  simp only [verdict, primary, reached, fresh.length_eq, perm.length_eq]

/-- The same record, unless neither is fresh. -/
def SameIfFresh (now freshnessWindow : Int) (sq sq' : SentinelQuorum) : Prop :=
  sq = sq' ∨ isFresh now freshnessWindow sq = false ∧ isFresh now freshnessWindow sq' = false

private theorem freshRecords_congr
    (same : List.Forall₂ (SameIfFresh now freshnessWindow) sqs sqs') :
    freshRecords now freshnessWindow sqs = freshRecords now freshnessWindow sqs' := by
  induction same with
  | nil => rfl
  | cons first _ ih =>
      rcases first with rfl | ⟨stale, stale'⟩
      · simp only [freshRecords, List.filter_cons] at ih ⊢
        rw [ih]
      · simpa [freshRecords, stale, stale'] using ih

private theorem clamp_ge {replicas : Int32} (pool : 0 ≤ replicas.toInt) :
    quorumThresholdInt replicas.toInt ≤ (clampQuorumToPoolMajority quorum replicas).toInt := by
  have bound : replicas.toInt < 2 ^ 31 := replicas.toInt_lt
  have small : quorumThresholdInt replicas.toInt ≤ replicas.toInt := by
    unfold quorumThresholdInt
    split <;> omega
  have nonneg : 0 ≤ quorumThresholdInt replicas.toInt := by
    unfold quorumThresholdInt
    split <;> omega
  have exactly : (Int32.ofInt (quorumThresholdInt replicas.toInt)).toInt =
      quorumThresholdInt replicas.toInt :=
    Int32.toInt_ofInt_of_le (by omega) (by omega)
  unfold clampQuorumToPoolMajority
  rw [if_neg (by omega)]
  simp only
  split
  next enough =>
    have order := Int32.le_iff_toInt_le.mp enough
    rwa [exactly] at order
  next => rw [exactly]

private theorem majority_of_ok {replicas : Int32} (pool : 0 < replicas.toInt)
    (ok : (aggregate now freshnessWindow order (clampQuorumToPoolMajority quorum replicas)
      sqs).quorum = .ok) :
    replicas.toInt < reaching (freshRecords now freshnessWindow sqs) * 2 := by
  have enough : (clampQuorumToPoolMajority quorum replicas).toInt ≤
      reaching (freshRecords now freshnessWindow sqs) := by
    rw [aggregate_eq] at ok
    simp only [verdict] at ok
    split at ok
    · cases ok
    · split at ok
      · cases ok
      · split at ok
        · cases ok
        next enough => exact not_lt.mp enough
  have floor := @clamp_ge quorum replicas pool.le
  have most : replicas.toInt < quorumThresholdInt replicas.toInt * 2 := by
    unfold quorumThresholdInt
    split <;> omega
  omega

/-- A primary is confirmed exactly by a strict majority of fresh records, in whatever order. -/
theorem aggregate_strict_majority (now freshnessWindow : Int) (quorum : Int32)
    (sqs : List SentinelQuorum) :
    (∀ order p, ((aggregate now freshnessWindow order quorum sqs).primaryConfirmed = true ∧
        (aggregate now freshnessWindow order quorum sqs).primaryPod = p) ↔
          Confirmed now freshnessWindow sqs p) ∧
      (∀ p p', Confirmed now freshnessWindow sqs p → Confirmed now freshnessWindow sqs p' →
        p = p') ∧
      (∀ order order' sqs', sqs.Perm sqs' →
        aggregate now freshnessWindow order quorum sqs =
          aggregate now freshnessWindow order' quorum sqs') ∧
      (∀ order sqs', List.Forall₂ (SameIfFresh now freshnessWindow) sqs sqs' →
        aggregate now freshnessWindow order quorum sqs =
          aggregate now freshnessWindow order quorum sqs') ∧
      ∀ order replicas, 0 < replicas.toInt →
        (aggregate now freshnessWindow order (clampQuorumToPoolMajority quorum replicas)
          sqs).quorum = .ok →
        replicas.toInt < reaching (freshRecords now freshnessWindow sqs) * 2 := by
  refine ⟨fun _ _ => confirmed_iff, fun _ _ => Confirmed.unique, fun _ _ _ => aggregate_perm, ?_,
    fun _ _ => majority_of_ok⟩
  intro order sqs' same
  rw [aggregate_eq, aggregate_eq, freshRecords_congr same, same.length_eq]

/-- Three records are fresh. -/
example :
    let sqs : List SentinelQuorum := [⟨"vk-0", some true, some 90⟩, ⟨"vk-1", some true, some 1⟩,
      ⟨"vk-0", some true, some 95⟩, ⟨"vk-1", none, some 99⟩]
    let result := aggregate 100 30 ⟨id, fun _ => .refl _⟩ (clampQuorumToPoolMajority 1 3) sqs
    result.primaryConfirmed = true ∧ result.primaryPod = "vk-0" ∧ result.quorum = .ok ∧
      3 < reaching (freshRecords 100 30 sqs) * 2 := by
  decide

end Verdict

end Velkir.Aggregation
