import Velkir.QuorumGate

/-!
# Hysteresis of the suppression gate

The gate closes on a confirmed loss that lasts, and opens after enough distinct polls. It is
described by them alone.
-/

namespace Velkir

namespace CrQuorumState

/-- What the tracker of the gate is given. -/
structure Sighting where
  quorum : QuorumStatus
  /-- The stamp of the poll, zero before the first one. -/
  polledAt : Nat
  now : Nat
  deriving DecidableEq

/-- The sighting says whether sentinels agree. -/
def Sighting.known (sighting : Sighting) : Bool :=
  sighting.quorum ≠ .unknown

/-- The tracker's answer to a sighting. -/
def suppress (tunables : Tunables) (sighting : Sighting) (state : CrQuorumState) :
    Bool × Bool × CrQuorumState :=
  state.updateQuorumSuppression sighting.quorum sighting.polledAt sighting.now tunables

/-- The tracker after these sightings, the newest of which comes first. -/
def tracked (tunables : Tunables) : List Sighting → CrQuorumState
  | [] => {}
  | sighting :: past => (suppress tunables sighting (tracked tunables past)).2.2

/-- Whether the gate closes, and whether it opens, at a sighting after these. -/
def decision (tunables : Tunables) (sighting : Sighting) (past : List Sighting) : Bool × Bool :=
  let result := suppress tunables sighting (tracked tunables past)
  (result.1, result.2.1)

/-- The first loss since the last agreement. -/
def firstLost : List Sighting → Option Sighting
  | [] => none
  | sighting :: past =>
      match sighting.quorum with
      | .ok => none
      | .lost => (firstLost past).or (some sighting)
      | .unknown => firstLost past

/-- Agreements since the last loss with a newer stamp, and the last stamp. -/
def counted : List Sighting → Nat × Nat
  | [] => (0, 0)
  | sighting :: past =>
      match sighting.quorum with
      | .ok =>
          if (counted past).2 < sighting.polledAt then ((counted past).1 + 1, sighting.polledAt)
          else counted past
      | .lost => (0, 0)
      | .unknown => counted past

/-- The loss has lasted, and a newer poll confirms it. -/
def LossConfirmed (tunables : Tunables) (sighting : Sighting) (past : List Sighting) : Prop :=
  ∃ first ∈ firstLost (sighting :: past),
    first.now + tunables.effectiveLossThreshold ≤ sighting.now ∧
      first.polledAt < sighting.polledAt

/-- The sighting is counted, and it is the last one that recovery takes. -/
def Recovered (tunables : Tunables) (sighting : Sighting) (past : List Sighting) : Prop :=
  (counted past).2 < sighting.polledAt ∧
    (counted (sighting :: past)).1 = tunables.effectiveRecoveryPolls

instance (tunables : Tunables) (sighting : Sighting) (past : List Sighting) :
    Decidable (LossConfirmed tunables sighting past) :=
  decidable_of_iff ((firstLost (sighting :: past)).any fun first =>
    first.now + tunables.effectiveLossThreshold ≤ sighting.now ∧
      first.polledAt < sighting.polledAt) (by
    cases seen : firstLost (sighting :: past) <;> simp [LossConfirmed, seen])

instance (tunables : Tunables) (sighting : Sighting) (past : List Sighting) :
    Decidable (Recovered tunables sighting past) :=
  inferInstanceAs (Decidable (_ ∧ _))

/-- The gate is closed after these sightings. -/
def closed (tunables : Tunables) : List Sighting → Bool
  | [] => false
  | sighting :: past =>
      if closed tunables past then !(sighting.quorum = .ok ∧ Recovered tunables sighting past)
      else sighting.quorum = .lost ∧ LossConfirmed tunables sighting past

/-- The gate is to close. -/
def Closes (tunables : Tunables) (sighting : Sighting) (past : List Sighting) : Prop :=
  sighting.quorum = .lost ∧ closed tunables past = false ∧ LossConfirmed tunables sighting past

/-- The gate is to open. -/
def Opens (tunables : Tunables) (sighting : Sighting) (past : List Sighting) : Prop :=
  sighting.quorum = .ok ∧ closed tunables past = true ∧ Recovered tunables sighting past

section Tracker

variable {tunables : Tunables} {sighting : Sighting} {past : List Sighting}

theorem effectiveRecoveryPolls_pos (tunables : Tunables) :
    0 < tunables.effectiveRecoveryPolls := by
  unfold Tunables.effectiveRecoveryPolls
  split_ifs with set
  · exact set
  · decide

/-- The tracker remembers the first loss, or the agreements so far. -/
structure Remembers (tunables : Tunables) (past : List Sighting) (state : CrQuorumState) :
    Prop where
  active : state.suppressionActive = closed tunables past
  lostSince : closed tunables past = false →
    state.quorumLostSince = (firstLost past).map Sighting.now
  lostSincePoll : closed tunables past = false → ∀ first ∈ firstLost past,
    state.quorumLostSincePoll = first.polledAt
  polls : closed tunables past = true → state.quorumOKConsecutivePolls = (counted past).1
  lastPoll : closed tunables past = true → state.quorumOKLastCountedPoll = (counted past).2
  short : closed tunables past = true → (counted past).1 < tunables.effectiveRecoveryPolls

variable {state : CrQuorumState}

theorem Remembers.of_closed (shut : closed tunables past = true)
    (active : state.suppressionActive = true)
    (polls : (state.quorumOKConsecutivePolls, state.quorumOKLastCountedPoll) = counted past)
    (short : (counted past).1 < tunables.effectiveRecoveryPolls) :
    Remembers tunables past state where
  active := active.trans shut.symm
  lostSince ajar := absurd (shut.symm.trans ajar) (by decide)
  lostSincePoll ajar := absurd (shut.symm.trans ajar) (by decide)
  polls _ := congrArg Prod.fst polls
  lastPoll _ := congrArg Prod.snd polls
  short _ := short

theorem Remembers.of_open (ajar : closed tunables past = false)
    (active : state.suppressionActive = false)
    (since : state.quorumLostSince = (firstLost past).map Sighting.now)
    (sincePoll : ∀ first ∈ firstLost past, state.quorumLostSincePoll = first.polledAt) :
    Remembers tunables past state where
  active := active.trans ajar.symm
  lostSince _ := since
  lostSincePoll _ := sincePoll
  polls shut := absurd (ajar.symm.trans shut) (by decide)
  lastPoll shut := absurd (ajar.symm.trans shut) (by decide)
  short shut := absurd (ajar.symm.trans shut) (by decide)

/-- The decisions at a sighting, and what is remembered afterwards. -/
structure Decides (tunables : Tunables) (sighting : Sighting) (past : List Sighting)
    (result : Bool × Bool × CrQuorumState) : Prop where
  closes : result.1 = true ↔ Closes tunables sighting past
  opens : result.2.1 = true ↔ Opens tunables sighting past
  remembers : Remembers tunables (sighting :: past) result.2.2

private theorem suppress_unknown (unknown : sighting.quorum = .unknown)
    (remembers : Remembers tunables past state) :
    Decides tunables sighting past (suppress tunables sighting state) := by
  have gate : closed tunables (sighting :: past) = closed tunables past := by
    simp [closed, unknown]
  have lost : firstLost (sighting :: past) = firstLost past := by
    simp [firstLost, unknown]
  have polls : counted (sighting :: past) = counted past := by
    simp [counted, unknown]
  simp only [suppress, updateQuorumSuppression, unknown]
  refine ⟨by simp [Closes, unknown], by simp [Opens, unknown], ?_⟩
  obtain ⟨active, lostSince, lostSincePoll, consecutive, lastPoll, short⟩ := remembers
  exact ⟨gate ▸ active, gate ▸ lost ▸ lostSince, gate ▸ lost ▸ lostSincePoll,
    gate ▸ polls ▸ consecutive, gate ▸ polls ▸ lastPoll, gate ▸ polls ▸ short⟩

private theorem suppress_lost_closed (lost : sighting.quorum = .lost)
    (remembers : Remembers tunables past state) (shut : closed tunables past = true) :
    Decides tunables sighting past (suppress tunables sighting state) := by
  have active : state.suppressionActive = true := remembers.active.trans shut
  have still : closed tunables (sighting :: past) = true := by
    simp [closed, shut, lost]
  have restarted : counted (sighting :: past) = (0, 0) := by
    simp [counted, lost]
  simp only [suppress, updateQuorumSuppression, lost, active, if_true]
  refine ⟨by simp [Closes, shut], by simp [Opens, lost], ?_⟩
  refine .of_closed still rfl restarted.symm ?_
  rw [restarted]
  exact effectiveRecoveryPolls_pos tunables

private theorem suppress_lost_first (lost : sighting.quorum = .lost)
    (remembers : Remembers tunables past state) (ajar : closed tunables past = false)
    (first : firstLost past = none) :
    Decides tunables sighting past (suppress tunables sighting state) := by
  have active : state.suppressionActive = false := remembers.active.trans ajar
  have since : state.quorumLostSince = none := by
    rw [remembers.lostSince ajar, first]
    rfl
  have begun : firstLost (sighting :: past) = some sighting := by
    simp [firstLost, lost, first]
  have unconfirmed : ¬LossConfirmed tunables sighting past := by
    simp [LossConfirmed, begun]
  have still : closed tunables (sighting :: past) = false := by
    simp [closed, ajar, unconfirmed]
  simp only [suppress, updateQuorumSuppression, lost, active, since, Bool.false_eq_true, if_false]
  refine ⟨by simp [Closes, unconfirmed], by simp [Opens, lost], ?_⟩
  exact .of_open still rfl (by simp [begun]) (by simp [begun])

private theorem suppress_lost_again (lost : sighting.quorum = .lost)
    (remembers : Remembers tunables past state) (ajar : closed tunables past = false)
    {first : Sighting} (began : firstLost past = some first) :
    Decides tunables sighting past (suppress tunables sighting state) := by
  have active : state.suppressionActive = false := remembers.active.trans ajar
  have since : state.quorumLostSince = some first.now := by
    rw [remembers.lostSince ajar, began, Option.map_some]
  have sincePoll : state.quorumLostSincePoll = first.polledAt :=
    remembers.lostSincePoll ajar first began
  have same : firstLost (sighting :: past) = some first := by
    simp [firstLost, lost, began]
  have confirmed : LossConfirmed tunables sighting past ↔
      first.now + tunables.effectiveLossThreshold ≤ sighting.now ∧
        first.polledAt < sighting.polledAt := by
    simp [LossConfirmed, same]
  have gate : closed tunables (sighting :: past) =
      decide (LossConfirmed tunables sighting past) := by
    simp [closed, ajar, lost]
  simp only [suppress, updateQuorumSuppression, lost, active, since, sincePoll, ← confirmed,
    Bool.false_eq_true, if_false]
  by_cases crossed : LossConfirmed tunables sighting past
  · have restarted : counted (sighting :: past) = (0, 0) := by
      simp [counted, lost]
    rw [if_pos crossed]
    refine ⟨by simp [Closes, lost, ajar, crossed], by simp [Opens, lost], ?_⟩
    refine .of_closed (by simp [gate, crossed]) rfl restarted.symm ?_
    rw [restarted]
    exact effectiveRecoveryPolls_pos tunables
  · rw [if_neg crossed]
    refine ⟨by simp [Closes, crossed], by simp [Opens, lost], ?_⟩
    exact .of_open (by simp [gate, crossed]) rfl (by simp [same]) (by simp [same])

private theorem suppress_ok_open (ok : sighting.quorum = .ok)
    (remembers : Remembers tunables past state) (ajar : closed tunables past = false) :
    Decides tunables sighting past (suppress tunables sighting state) := by
  have active : state.suppressionActive = false := remembers.active.trans ajar
  have still : closed tunables (sighting :: past) = false := by
    simp [closed, ajar, ok]
  have ended : firstLost (sighting :: past) = none := by
    simp [firstLost, ok]
  simp only [suppress, updateQuorumSuppression, ok, active, Bool.not_false, true_or, if_true]
  refine ⟨by simp [Closes, ok], by simp [Opens, ajar], ?_⟩
  exact .of_open still rfl (by simp [ended]) (by simp [ended])

private theorem suppress_ok_closed (ok : sighting.quorum = .ok)
    (remembers : Remembers tunables past state) (shut : closed tunables past = true) :
    Decides tunables sighting past (suppress tunables sighting state) := by
  have active : state.suppressionActive = true := remembers.active.trans shut
  have polls := remembers.polls shut
  have lastPoll := remembers.lastPoll shut
  have short := remembers.short shut
  have gate : closed tunables (sighting :: past) = !decide (Recovered tunables sighting past) := by
    simp [closed, shut, ok]
  simp only [suppress, updateQuorumSuppression, ok, active, lastPoll, polls, Bool.not_true,
    Bool.false_eq_true, false_or]
  by_cases replayed : sighting.polledAt ≤ (counted past).2
  · have unrecovered : ¬Recovered tunables sighting past :=
      fun recovered => absurd recovered.1 (Nat.not_lt.mpr replayed)
    have same : counted (sighting :: past) = counted past := by
      simp [counted, ok, Nat.not_lt.mpr replayed]
    rw [if_pos replayed]
    refine ⟨by simp [Closes, ok], by simp [Opens, unrecovered], ?_⟩
    exact .of_closed (by simp [gate, unrecovered]) rfl (by rw [same]) (by rw [same]; exact short)
  · have fresh : (counted past).2 < sighting.polledAt := Nat.lt_of_not_le replayed
    have grown : counted (sighting :: past) = ((counted past).1 + 1, sighting.polledAt) := by
      simp [counted, ok, fresh]
    -- The count was short of recovery, so reaching it is the same as being equal to it.
    have recovered : Recovered tunables sighting past ↔
        tunables.effectiveRecoveryPolls ≤ (counted past).1 + 1 := by
      rw [Recovered, grown]
      omega
    simp only [if_neg replayed, ← recovered]
    by_cases last : Recovered tunables sighting past
    · have ended : firstLost (sighting :: past) = none := by
        simp [firstLost, ok]
      rw [if_pos last]
      refine ⟨by simp [Closes, ok], by simp [Opens, ok, shut, last], ?_⟩
      exact .of_open (by simp [gate, last]) rfl (by simp [ended]) (by simp [ended])
    · rw [if_neg last]
      refine ⟨by simp [Closes, ok], by simp [Opens, last], ?_⟩
      refine .of_closed (by simp [gate, last]) rfl grown.symm ?_
      rw [grown]
      rw [recovered] at last
      omega

theorem suppress_decides (sighting : Sighting) (remembers : Remembers tunables past state) :
    Decides tunables sighting past (suppress tunables sighting state) := by
  cases verdict : sighting.quorum with
  | unknown => exact suppress_unknown verdict remembers
  | ok =>
      cases gate : closed tunables past with
      | false => exact suppress_ok_open verdict remembers gate
      | true => exact suppress_ok_closed verdict remembers gate
  | lost =>
      cases gate : closed tunables past with
      | true => exact suppress_lost_closed verdict remembers gate
      | false =>
          cases began : firstLost past with
          | none => exact suppress_lost_first verdict remembers gate began
          | some first => exact suppress_lost_again verdict remembers gate began

/-- The tracker remembers what it has to of any sightings. -/
theorem tracked_remembers (tunables : Tunables) (past : List Sighting) :
    Remembers tunables past (tracked tunables past) := by
  induction past with
  | nil => exact .of_open rfl rfl rfl nofun
  | cons sighting past ih => exact (suppress_decides sighting ih).remembers

theorem suppress_lastQuorum (known : sighting.known = true) (status : QuorumStatus) :
    suppress tunables sighting { state with lastQuorum := status } =
      suppress tunables sighting state := by
  obtain ⟨quorum, polledAt, now⟩ := sighting
  cases quorum with
  | unknown => cases known
  | ok => rfl
  | lost => rfl

private theorem tracked_filter_known (tunables : Tunables) (past : List Sighting) :
    { tracked tunables past with lastQuorum := .unknown } =
      { tracked tunables (past.filter Sighting.known) with lastQuorum := .unknown } := by
  induction past with
  | nil => rfl
  | cons sighting past ih =>
      by_cases known : sighting.known = true
      · rw [List.filter_cons_of_pos known, tracked, tracked,
          ← suppress_lastQuorum known .unknown, ih, suppress_lastQuorum known .unknown]
      · have unknown : sighting.quorum = .unknown := by
          simpa [Sighting.known] using known
        rw [List.filter_cons_of_neg known, ← ih, tracked]
        simp [suppress, updateQuorumSuppression, unknown]

private theorem decision_filter_known (tunables : Tunables) (sighting : Sighting)
    (past : List Sighting) :
    decision tunables sighting past = decision tunables sighting (past.filter Sighting.known) := by
  by_cases known : sighting.known = true
  · rw [decision, decision, ← suppress_lastQuorum known .unknown, tracked_filter_known,
      suppress_lastQuorum known .unknown]
  · have unknown : sighting.quorum = .unknown := by
      simpa [Sighting.known] using known
    simp [decision, suppress, updateQuorumSuppression, unknown]

end Tracker

/-- The gate closes exactly at a confirmed loss and opens exactly at the last agreement needed. -/
theorem updateQuorumSuppression_exact (tunables : Tunables) (past : List Sighting)
    (sighting : Sighting) :
    ((decision tunables sighting past).1 = true ↔ Closes tunables sighting past) ∧
      ((decision tunables sighting past).2 = true ↔ Opens tunables sighting past) ∧
      (tracked tunables past).suppressionActive = closed tunables past ∧
      (sighting.known = false → decision tunables sighting past = (false, false)) ∧
      ∀ others, others.filter Sighting.known = past.filter Sighting.known →
        decision tunables sighting others = decision tunables sighting past := by
  have remembers := tracked_remembers tunables past
  have decides := suppress_decides sighting remembers
  refine ⟨decides.closes, decides.opens, remembers.active, ?_, ?_⟩
  · intro quiet
    have unknown : sighting.quorum = .unknown := by
      simpa [Sighting.known] using quiet
    simp [decision, suppress, updateQuorumSuppression, unknown]
  · intro others same
    rw [decision_filter_known, same, ← decision_filter_known]

/-- A loss confirmed after seventy seconds, with an idle sighting between. -/
def confirmedLoss : List Sighting :=
  [⟨.lost, 80 * second, 80 * second⟩, ⟨.unknown, 40 * second, 40 * second⟩,
    ⟨.lost, 10 * second, 10 * second⟩]

/-- The gate closes at the confirmed loss and opens at the second agreement. -/
theorem updateQuorumSuppression_exact_run :
    Closes {} ⟨.lost, 80 * second, 80 * second⟩ confirmedLoss.tail ∧
      ¬Opens {} ⟨.ok, 90 * second, 91 * second⟩
        (⟨.ok, 90 * second, 90 * second⟩ :: confirmedLoss) ∧
      Opens {} ⟨.ok, 100 * second, 100 * second⟩
        (⟨.ok, 90 * second, 91 * second⟩ :: ⟨.ok, 90 * second, 90 * second⟩ :: confirmedLoss) := by
  refine ⟨?_, ?_, ?_⟩
  · exact (updateQuorumSuppression_exact {} _ _).1.mp (by decide)
  · rw [← (updateQuorumSuppression_exact {} _ _).2.1]
    decide
  · exact (updateQuorumSuppression_exact {} _ _).2.1.mp (by decide)

end CrQuorumState

end Velkir
