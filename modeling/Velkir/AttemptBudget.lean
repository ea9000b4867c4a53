import Mathlib.Algebra.Order.Ring.Int
import Velkir.Machine
import Velkir.Resource

/-!
# The attempt budget of the self-heal

The first attempt since a reset is always allowed. Each further one waits twice as long, up to a cap
and a limit.
-/

namespace Velkir

namespace SelfHeal

def dualMasterSelfHealBaseCooldown : Nat := 30 * second
def dualMasterSelfHealMaxBackoff : Nat := 300 * second
def dualMasterSelfHealMaxAttempts : Nat := 5

end SelfHeal

namespace AttemptBudget

/-- What is kept of the attempts; times are in nanoseconds. -/
structure Budget where
  attemptCount : Nat
  lastAttempt : Int
  deriving DecidableEq

/-- The tuning of a budget. -/
structure Limits where
  baseCooldown : Int64
  maxBackoff : Int64
  maxAttempts : Int

/-- `<<` on a duration loses bits beyond the 64th; a count of 64 leaves none. -/
def shiftLeft (duration : Int64) (count : Nat) : Int64 := Int64.ofInt (duration.toInt * 2 ^ count)

section Checks

variable (limits : Limits)

/-- The wait after an attempt, when so many have been recorded. -/
def backoff (attemptCount : Nat) : Int64 :=
  let backoff := shiftLeft limits.baseCooldown (attemptCount - 1)
  if backoff ≤ 0 ∨ limits.maxBackoff < backoff then limits.maxBackoff else backoff

/-- Whether the budget allows an attempt now. -/
def selfHealAttemptAllowed (now : Int) : Option Budget → Bool
  | none => true
  | some st =>
      if st.attemptCount = 0 then true
      else if limits.maxAttempts ≤ st.attemptCount then false
      else !(now < st.lastAttempt + (backoff limits st.attemptCount).toInt)

end Checks

/-- Count an attempt made now. -/
def recordSelfHealAttempt (now : Int) (state : Option Budget) : Option Budget :=
  some ⟨(state.elim 0 Budget.attemptCount) + 1, now⟩

/-- The calls on a budget. -/
inductive Act
  | check (now : Int)
  | record (now : Int)
  | reset
  deriving DecidableEq

def Act.isRecord : Act → Bool
  | .record _ => true
  | .check _ | .reset => false

/-- One call on a budget. -/
def step : Act → Option Budget → Option Budget
  | .check _, state => state
  | .record now, state => recordSelfHealAttempt now state
  | .reset, _ => none

/-- The budget after these calls. -/
def run (acts : List Act) : Option Budget := Machine.run step acts none

/-- The attempts recorded since the last reset. -/
def attempts (acts : List Act) : List Int :=
  acts.foldl (fun times act =>
    match act with
    | .check _ => times
    | .record now => times ++ [now]
    | .reset => []) []

/-- Every recorded attempt has a positive check of its own at the same time. -/
def Licensed (limits : Limits) (acts : List Act) : Prop :=
  ∀ past now rest, acts = past ++ .record now :: rest →
    ∃ earlier between, past = earlier ++ .check now :: between ∧
      (∀ act ∈ between, act.isRecord = false) ∧
      selfHealAttemptAllowed limits now (run earlier) = true

/-- The wait after this many attempts. -/
def wait (limits : Limits) (index : Nat) : Int :=
  min (limits.baseCooldown.toInt * 2 ^ index) limits.maxBackoff.toInt

section Check

variable {limits : Limits} {now : Int}

/-- Limits whose waits can be computed. -/
structure Limits.Valid (limits : Limits) : Prop where
  base : 0 < limits.baseCooldown.toInt
  cap : 0 < limits.maxBackoff.toInt
  range : limits.baseCooldown.toInt * 2 ^ limits.maxAttempts.toNat < 2 ^ 63

private theorem shiftLeft_toInt (valid : limits.Valid) {count : Nat}
    (within : count ≤ limits.maxAttempts.toNat) :
    (shiftLeft limits.baseCooldown count).toInt = limits.baseCooldown.toInt * 2 ^ count := by
  have base := valid.base
  have grows : limits.baseCooldown.toInt * 2 ^ count ≤
      limits.baseCooldown.toInt * 2 ^ limits.maxAttempts.toNat :=
    Int.mul_le_mul_of_nonneg_left (pow_le_pow_right₀ (by decide) within) base.le
  have positive : 0 < limits.baseCooldown.toInt * 2 ^ count :=
    Int.mul_pos base (pow_pos (by decide) count)
  have range := valid.range
  rw [shiftLeft, Int64.toInt_ofInt]
  refine Int.bmod_eq_of_le ?_ ?_ <;> simp only [Int64.size] <;> omega

/-- No shift overflows before the limit is reached. -/
theorem backoff_toInt (valid : limits.Valid) {index : Nat}
    (within : index ≤ limits.maxAttempts.toNat) :
    (backoff limits (index + 1)).toInt = wait limits index := by
  have shifted := shiftLeft_toInt valid within
  have positive : 0 < limits.baseCooldown.toInt * 2 ^ index :=
    Int.mul_pos valid.base (pow_pos (by decide) index)
  unfold backoff wait
  simp only [Nat.add_sub_cancel, Int64.le_iff_toInt_le, Int64.lt_iff_toInt_lt, shifted,
    Int64.toInt_zero]
  split_ifs <;> omega

/-- What the state knows of the attempts. -/
def summary (times : List Int) : Option Budget :=
  times.getLast?.map fun last => ⟨times.length, last⟩

theorem summary_concat (times : List Int) (last : Int) :
    summary (times ++ [last]) = some ⟨times.length + 1, last⟩ := by
  simp [summary]

theorem allowed_after (valid : limits.Valid) (index : Nat) (last : Int) :
    selfHealAttemptAllowed limits now (some ⟨index + 1, last⟩) = true ↔
      (index + 1 : Int) < limits.maxAttempts ∧ last + wait limits index ≤ now := by
  simp only [selfHealAttemptAllowed, Nat.add_eq_zero_iff, one_ne_zero, and_false, if_false]
  push_cast
  split_ifs with exhausted
  · simp only [false_iff, not_and]
    omega
  · rw [backoff_toInt valid (by omega)]
    simp only [Bool.not_eq_true', decide_eq_false_iff_not, not_lt]
    omega

end Check

section Runs

variable {limits : Limits} {acts between : List Act}

@[simp]
theorem attempts_concat (acts : List Act) (act : Act) :
    attempts (acts ++ [act]) =
      match act with
      | .check _ => attempts acts
      | .record now => attempts acts ++ [now]
      | .reset => [] := by
  simp only [attempts, List.foldl_append, List.foldl_cons, List.foldl_nil]

theorem run_eq_summary (acts : List Act) : run acts = summary (attempts acts) := by
  refine Machine.run_history (fun past state => state = summary (attempts past)) rfl ?_ acts
  intro past act same
  rw [attempts_concat, same]
  cases act with
  | check now => rfl
  | reset => rfl
  | record now =>
      rcases List.eq_nil_or_concat (attempts past) with empty | ⟨times, last, split⟩
      · simp [empty, summary, step, recordSelfHealAttempt]
      · simp [split, summary, step, recordSelfHealAttempt]

/-- Without a new attempt, those recorded stay or are all forgotten. -/
theorem attempts_unrecorded (quiet : ∀ act ∈ between, act.isRecord = false) :
    attempts (acts ++ between) = attempts acts ∨ attempts (acts ++ between) = [] := by
  induction between using List.reverseRecOn with
  | nil => exact .inl (by rw [List.append_nil])
  | append_singleton between act ih =>
      have earlier := ih fun other mem => quiet other (List.mem_append_left _ mem)
      have last : act.isRecord = false := quiet act (by simp)
      rw [← List.append_assoc, attempts_concat]
      cases act with
      | check now => exact earlier
      | record now => cases last
      | reset => exact .inr rfl

theorem Licensed.recorded (valid : limits.Valid) {now : Int}
    (licensed : Licensed limits (acts ++ [.record now])) {times : List Int} {last : Int}
    (split : attempts acts = times ++ [last]) :
    (times.length + 1 : Int) < limits.maxAttempts ∧ last + wait limits times.length ≤ now := by
  obtain ⟨earlier, between, rfl, quiet, allowed⟩ := licensed acts now [] rfl
  rw [← List.singleton_append, ← List.append_assoc] at split
  rcases attempts_unrecorded quiet with same | empty
  · rw [same, attempts_concat] at split
    dsimp only at split
    rw [run_eq_summary, split, summary_concat] at allowed
    exact (allowed_after valid times.length last).mp allowed
  · rw [empty] at split
    simp at split

theorem Licensed.of_append {rest : List Act} (licensed : Licensed limits (acts ++ rest)) :
    Licensed limits acts := by
  intro past now later split
  exact licensed past now (later ++ rest) (by rw [split, List.append_assoc]; rfl)

/-- What holds of the attempts since the last reset. -/
structure Bounded (limits : Limits) (acts : List Act) : Prop where
  count : ((attempts acts).length : Int) ≤ max 1 limits.maxAttempts
  spaced : ∀ front earlier later back, attempts acts = front ++ earlier :: later :: back →
    earlier + wait limits front.length ≤ later
  allowed : ∀ now, ((attempts acts).length : Int) < limits.maxAttempts →
    (∀ front last, attempts acts = front ++ [last] → last + wait limits front.length ≤ now) →
      selfHealAttemptAllowed limits now (run acts) = true

private theorem allowed_of_waited (valid : limits.Valid) (now : Int)
    (below : ((attempts acts).length : Int) < limits.maxAttempts)
    (waited : ∀ front last, attempts acts = front ++ [last] →
      last + wait limits front.length ≤ now) :
    selfHealAttemptAllowed limits now (run acts) = true := by
  rw [run_eq_summary]
  rcases List.eq_nil_or_concat (attempts acts) with empty | ⟨times, last, split⟩
  · rw [empty]
    rfl
  · rw [List.concat_eq_append] at split
    rw [split, List.length_append] at below
    rw [split, summary_concat, allowed_after valid]
    exact ⟨by simpa using below, waited times last split⟩

private theorem Licensed.count (valid : limits.Valid) (licensed : Licensed limits acts) :
    ((attempts acts).length : Int) ≤ max 1 limits.maxAttempts := by
  induction acts using List.reverseRecOn with
  | nil => simp [attempts]
  | append_singleton past act ih =>
      rw [attempts_concat]
      cases act with
      | check now => exact ih licensed.of_append
      | reset => simp
      | record now =>
          rcases List.eq_nil_or_concat (attempts past) with empty | ⟨times, last, split⟩
          · simp [empty]
          · rw [List.concat_eq_append] at split
            obtain ⟨below, -⟩ := licensed.recorded valid split
            rw [split]
            simp only [List.length_append, List.length_singleton]
            omega

private theorem Licensed.spaced (valid : limits.Valid) (licensed : Licensed limits acts)
    {front back : List Int} {earlier later : Int}
    (listed : attempts acts = front ++ earlier :: later :: back) :
    earlier + wait limits front.length ≤ later := by
  induction acts using List.reverseRecOn generalizing back with
  | nil => simp [attempts] at listed
  | append_singleton past act ih =>
      rw [attempts_concat] at listed
      cases act with
      | check now => exact ih licensed.of_append listed
      | reset => simp at listed
      | record now =>
          rcases List.eq_nil_or_concat back with rfl | ⟨back, last, rfl⟩
          · have split : attempts past ++ [now] = (front ++ [earlier]) ++ [later] := by
              simpa using listed
            obtain ⟨before, same⟩ := List.append_inj' split rfl
            rw [List.singleton_inj] at same
            exact same ▸ (licensed.recorded valid before).2
          · have split :
                attempts past ++ [now] = (front ++ earlier :: later :: back) ++ [last] := by
              simpa using listed
            exact ih licensed.of_append (List.append_inj' split rfl).1

/-- Attempts that keep to the checks are bounded in number and spaced. -/
theorem attempts_bounded (valid : limits.Valid) (licensed : Licensed limits acts) :
    ∀ past rest, acts = past ++ rest → Bounded limits past := by
  rintro past rest rfl
  have licensed := licensed.of_append
  exact ⟨licensed.count valid, fun _ _ _ _ => licensed.spaced valid, fun now below waited =>
    allowed_of_waited valid now below waited⟩

theorem licensed_nil : Licensed limits [] := by
  intro past now rest split
  simp at split

theorem Licensed.attempt (licensed : Licensed limits acts) {now : Int}
    (allowed : selfHealAttemptAllowed limits now (run acts) = true) :
    Licensed limits (acts ++ [.check now, .record now]) := by
  intro past time rest split
  rcases List.eq_nil_or_concat rest with rfl | ⟨rest, last, rfl⟩
  · have ends : (acts ++ [.check now]) ++ [.record now] = past ++ [.record time] := by
      simpa using split
    obtain ⟨before, same⟩ := List.append_inj' ends rfl
    rw [List.singleton_inj, Act.record.injEq] at same
    exact ⟨acts, [], by rw [← before, same], by simp, same ▸ allowed⟩
  · have ends : (acts ++ [.check now]) ++ [.record now] =
        (past ++ .record time :: rest) ++ [last] := by
      simpa using split
    have before := (List.append_inj' ends rfl).1
    rcases List.eq_nil_or_concat rest with rfl | ⟨rest, last, rfl⟩
    · have same := (List.append_inj' before rfl).2
      simp at same
    · have ends : acts ++ [.check now] = (past ++ .record time :: rest) ++ [last] := by
        simpa using before
      exact licensed past time rest (List.append_inj' ends rfl).1

end Runs

/-- The limits of the dual-master repair. -/
def dualMasterLimits : Limits where
  baseCooldown := Int64.ofNat SelfHeal.dualMasterSelfHealBaseCooldown
  maxBackoff := Int64.ofNat SelfHeal.dualMasterSelfHealMaxBackoff
  maxAttempts := SelfHeal.dualMasterSelfHealMaxAttempts

private theorem dualMasterLimits_valid : dualMasterLimits.Valid := by
  constructor <;> decide

/-- Two attempts, half a minute apart. -/
def spacedActs : List Act := [.check 0, .record 0, .check 30000000000, .record 30000000000]

private theorem spacedActs_licensed : Licensed dualMasterLimits spacedActs := by
  have first : Licensed dualMasterLimits [.check 0, .record 0] := licensed_nil.attempt rfl
  exact first.attempt (by decide)

/-- Both attempts are counted. -/
theorem attempts_bounded_spaced :
    attempts spacedActs = [0, 30000000000] ∧
      ∀ past rest, spacedActs = past ++ rest → Bounded dualMasterLimits past :=
  ⟨by decide, attempts_bounded dualMasterLimits_valid spacedActs_licensed⟩

/-- With a limit of zero the first attempt is still allowed. -/
theorem first_attempt_beyond_limit :
    let limits : Limits := { dualMasterLimits with maxAttempts := 0 }
    limits.Valid ∧ Licensed limits [.check 0, .record 0] ∧
      ¬((attempts [.check 0, .record 0]).length : Int) ≤ limits.maxAttempts := by
  refine ⟨by constructor <;> decide, licensed_nil.attempt rfl, by decide⟩

end AttemptBudget

end Velkir
