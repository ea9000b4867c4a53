import Mathlib.Data.List.Induction
import Mathlib.Order.Basic

/-!
# First-seen stamps

A stamp is set by the first reading that finds a condition, and dropped by the first one that does
not.
-/

namespace FirstSeen

variable {τ : Type*}

/-- The stamp after one more reading. -/
def advance (stamp : Option τ) (reading : τ × Bool) : Option τ :=
  if reading.2 then some (stamp.getD reading.1) else none

/-- A reading at that time finds the condition, and all later ones do. -/
def Unbroken (readings : List (τ × Bool)) (t : τ) : Prop :=
  ∃ before after, readings = before ++ (t, true) :: after ∧ ∀ reading ∈ after, reading.2 = true

/-- The earliest such time. -/
def Onset [LE τ] (readings : List (τ × Bool)) (t : τ) : Prop :=
  Unbroken readings t ∧ ∀ other, Unbroken readings other → t ≤ other

variable {readings : List (τ × Bool)} {reading : τ × Bool} {t : τ}

theorem advance_found (stamp : Option τ) (found : reading.2 = true) :
    advance stamp reading = some (stamp.getD reading.1) := if_pos found

theorem advance_absent (stamp : Option τ) (absent : reading.2 = false) :
    advance stamp reading = none := by
  simp [advance, absent]

theorem Unbroken.mem (unbroken : Unbroken readings t) : (t, true) ∈ readings := by
  obtain ⟨before, after, rfl, -⟩ := unbroken
  simp

private theorem not_unbroken_nil : ¬Unbroken [] t := fun unbroken => by
  cases unbroken.mem

private theorem unbroken_concat :
    Unbroken (readings ++ [reading]) t ↔
      reading.2 = true ∧ (Unbroken readings t ∨ reading.1 = t) := by
  constructor
  · rintro ⟨before, after, split, found⟩
    rcases List.eq_nil_or_concat after with rfl | ⟨after, last, rfl⟩
    · obtain ⟨-, same⟩ := List.append_inj' split rfl
      rw [List.singleton_inj] at same
      rw [same]
      exact ⟨rfl, .inr rfl⟩
    · rw [List.concat_eq_append] at split found
      rw [← List.cons_append, ← List.append_assoc] at split
      obtain ⟨rfl, same⟩ := List.append_inj' split rfl
      rw [List.singleton_inj] at same
      rw [same]
      exact ⟨found last (by simp), .inl ⟨before, after, rfl, fun r mem => found r (by simp [mem])⟩⟩
  · rintro ⟨found, ⟨before, after, rfl, later⟩ | rfl⟩
    · refine ⟨before, after ++ [reading], by simp, fun r mem => ?_⟩
      rcases List.mem_append.mp mem with old | new
      · exact later r old
      · rw [List.mem_singleton.mp new]
        exact found
    · exact ⟨readings, [], by rw [← found], nofun⟩

section Order

variable [PartialOrder τ]

private theorem Onset.unique {t' : τ} (first : Onset readings t) (second : Onset readings t') :
    t = t' :=
  le_antisymm (first.2 t' second.1) (second.2 t first.1)

/-- Without a stamp the condition does not hold, and a stamp is its onset. -/
theorem foldl_advance_spec (sorted : readings.Pairwise fun earlier later => earlier.1 ≤ later.1) :
    (readings.foldl advance none = none → ∀ t, ¬Unbroken readings t) ∧
      ∀ t, readings.foldl advance none = some t → Onset readings t := by
  induction readings using List.reverseRecOn with
  | nil => exact ⟨fun _ _ => not_unbroken_nil, nofun⟩
  | append_singleton readings reading ih =>
      rw [List.pairwise_append] at sorted
      obtain ⟨sorted, -, last⟩ := sorted
      obtain ⟨absent, present⟩ := ih sorted
      rw [List.foldl_append, List.foldl_cons, List.foldl_nil]
      cases found : reading.2 with
      | false =>
          rw [advance_absent _ found]
          exact ⟨fun _ t => by simp [unbroken_concat, found], by simp⟩
      | true =>
          rw [advance_found _ found]
          refine ⟨by simp, fun t stamped => ?_⟩
          rw [Option.some.injEq] at stamped
          unfold Onset
          simp only [unbroken_concat, found, true_and]
          cases stamp : readings.foldl advance none with
          | none =>
              rw [stamp, Option.getD_none] at stamped
              refine ⟨.inr stamped, ?_⟩
              rintro other (unbroken | rfl)
              · exact absurd unbroken (absent stamp other)
              · exact stamped.ge
          | some old =>
              rw [stamp, Option.getD_some] at stamped
              subst stamped
              obtain ⟨unbroken, earliest⟩ := present old stamp
              refine ⟨.inl unbroken, ?_⟩
              rintro other (later | rfl)
              · exact earliest other later
              · exact last _ unbroken.mem reading (by simp)

theorem foldl_advance_eq_some
    (sorted : readings.Pairwise fun earlier later => earlier.1 ≤ later.1) :
    readings.foldl advance none = some t ↔ Onset readings t := by
  obtain ⟨absent, present⟩ := foldl_advance_spec sorted
  refine ⟨present t, fun onset => ?_⟩
  cases stamp : readings.foldl advance none with
  | none => exact absurd onset.1 (absent stamp t)
  | some old => rw [(present old stamp).unique onset]

end Order

theorem foldl_advance_isSome :
    (readings.foldl advance none).isSome = true ↔
      (readings.getLast?.map Prod.snd) = some true := by
  induction readings using List.reverseRecOn with
  | nil => simp
  | append_singleton readings reading _ =>
      rw [List.foldl_append, List.foldl_cons, List.foldl_nil, List.getLast?_concat]
      cases found : reading.2 with
      | false => simp [advance_absent _ found, found]
      | true => simp [advance_found _ found, found]

end FirstSeen
