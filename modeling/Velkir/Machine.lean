import Mathlib.Data.List.Induction

/-!
# Runs of a step function

Invariants may speak about the state alone, or about the state and the acts that led to it.
-/

namespace Machine

variable {σ α : Type*}

/-- The state after a list of acts. -/
def run (step : α → σ → σ) : List α → σ → σ
  | [], state => state
  | act :: acts, state => run step acts (step act state)

/-- Every act meets the condition where it is made. -/
def Meets (step : α → σ → σ) (condition : α → σ → Prop) : List α → σ → Prop
  | [], _ => True
  | act :: acts, state => condition act state ∧ Meets step condition acts (step act state)

instance (step : α → σ → σ) (condition : α → σ → Prop)
    [∀ act state, Decidable (condition act state)]
    (acts : List α) (state : σ) : Decidable (Meets step condition acts state) := by
  induction acts generalizing state with
  | nil => exact isTrue trivial
  | cons act acts ih => exact instDecidableAnd

variable {step : α → σ → σ} {state : σ}

theorem run_append (before after : List α) (state : σ) :
    run step (before ++ after) state = run step after (run step before state) := by
  induction before generalizing state with
  | nil => rfl
  | cons act acts ih => exact ih (step act state)

@[simp]
theorem run_concat (acts : List α) (act : α) (state : σ) :
    run step (acts ++ [act]) state = step act (run step acts state) :=
  run_append acts [act] state

variable {condition : α → σ → Prop}

theorem Meets.of_append {before after : List α}
    (meets : Meets step condition (before ++ after) state) : Meets step condition before state := by
  induction before generalizing state with
  | nil => trivial
  | cons act acts ih => exact ⟨meets.1, ih meets.2⟩

variable {acts : List α}

theorem run_induction (inv : σ → Prop)
    (keeps : ∀ act middle, condition act middle → inv middle → inv (step act middle))
    (meets : Meets step condition acts state) (start : inv state) : inv (run step acts state) := by
  induction acts generalizing state with
  | nil => exact start
  | cons act acts ih => exact ih meets.2 (keeps act state meets.1 start)

/-- A run meets what its condition implies under an invariant. -/
theorem Meets.of_invariant {property : α → σ → Prop} (inv : σ → Prop)
    (keeps : ∀ act middle, condition act middle → inv middle → inv (step act middle))
    (gives : ∀ act middle, condition act middle → inv middle → property act middle)
    (meets : Meets step condition acts state) (start : inv state) :
    Meets step property acts state := by
  induction acts generalizing state with
  | nil => trivial
  | cons act acts ih =>
      exact ⟨gives act state meets.1 start, ih meets.2 (keeps act state meets.1 start)⟩

/-- Conditions that agree under an invariant are met by the same runs. -/
theorem meets_iff {valid left right : α → σ → Prop} (inv : σ → Prop)
    (agree : ∀ act middle, valid act middle → inv middle → (left act middle ↔ right act middle))
    (keeps : ∀ act middle, valid act middle → inv middle → right act middle → inv (step act middle))
    (meets : Meets step valid acts state) (start : inv state) :
    Meets step left acts state ↔ Meets step right acts state := by
  induction acts generalizing state with
  | nil => rfl
  | cons act acts ih =>
      constructor
      · rintro ⟨here, later⟩
        have right := (agree act state meets.1 start).mp here
        exact ⟨right, (ih meets.2 (keeps act state meets.1 start right)).mp later⟩
      · rintro ⟨here, later⟩
        exact ⟨(agree act state meets.1 start).mpr here,
          (ih meets.2 (keeps act state meets.1 start here)).mpr later⟩

/-- The acts with the states they were taken in, newest first. -/
def lines (step : α → σ → σ) : List α → σ → List (α × σ)
  | [], _ => []
  | act :: acts, state => lines step acts (step act state) ++ [(act, state)]

private theorem lines_append (before after : List α) (state : σ) :
    lines step (before ++ after) state =
      lines step after (run step before state) ++ lines step before state := by
  induction before generalizing state with
  | nil => simp [lines, run]
  | cons act acts ih => simp [lines, run, ih]

@[simp]
theorem lines_concat (acts : List α) (act : α) (state : σ) :
    lines step (acts ++ [act]) state = (act, run step acts state) :: lines step acts state :=
  lines_append acts [act] state

theorem mem_of_mem_lines {line : α × σ} (mem : line ∈ lines step acts state) : line.1 ∈ acts := by
  induction acts generalizing state with
  | nil => cases mem
  | cons act acts ih =>
      rcases List.mem_append.mp mem with later | first
      · exact List.mem_cons_of_mem _ (ih later)
      · rw [List.mem_singleton.mp first]
        exact List.mem_cons_self

theorem run_invariant (inv : σ → Prop) (keeps : ∀ act middle, inv middle → inv (step act middle))
    (acts : List α) (start : inv state) : inv (run step acts state) := by
  induction acts generalizing state with
  | nil => exact start
  | cons act acts ih => exact ih (keeps act state start)

/-- An invariant of acts and state holds after every run. -/
theorem run_history (inv : List α → σ → Prop) (start : inv [] state)
    (keeps : ∀ past act, inv past (run step past state) →
      inv (past ++ [act]) (step act (run step past state)))
    (acts : List α) : inv acts (run step acts state) := by
  induction acts using List.reverseRecOn with
  | nil => exact start
  | append_singleton past act ih =>
      rw [run_concat]
      exact keeps past act ih

end Machine
