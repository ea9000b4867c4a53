import Mathlib.Data.List.Basic

/-!
# Properties of a history

A history lists what happened, newest first. `Since` and `Always` relate a line to what came before
it.
-/

namespace History

variable {α : Type}

/-- A line starts the window, and every later one keeps it open. -/
inductive Since (keeps starts : α → Prop) : List α → Prop
  | start {line : α} {rest : List α} (here : starts line) : Since keeps starts (line :: rest)
  | later {line : α} {rest : List α} (kept : keeps line) (before : Since keeps starts rest) :
      Since keeps starts (line :: rest)

/-- Every line is right after the lines before it. -/
inductive Always (right : α → List α → Prop) : List α → Prop
  | nil : Always right []
  | cons {line : α} {rest : List α} (here : right line rest) (before : Always right rest) :
      Always right (line :: rest)

section Since

variable {keeps starts : α → Prop} {line : α} {lines rest : List α}

@[simp]
theorem not_since_nil : ¬Since keeps starts [] := nofun

@[simp]
theorem since_cons :
    Since keeps starts (line :: rest) ↔ starts line ∨ (keeps line ∧ Since keeps starts rest) := by
  constructor
  · rintro (here | ⟨kept, before⟩)
    · exact .inl here
    · exact .inr ⟨kept, before⟩
  · rintro (here | ⟨kept, before⟩)
    · exact .start here
    · exact .later kept before

instance decidableSince [DecidablePred keeps] [DecidablePred starts] :
    DecidablePred (Since keeps starts)
  | [] => isFalse not_since_nil
  | _ :: rest =>
      have := decidableSince rest
      decidable_of_iff' _ since_cons

theorem Since.of_append (quiet : ∀ line ∈ lines, ¬starts line)
    (since : Since keeps starts (lines ++ rest)) : Since keeps starts rest := by
  induction lines with
  | nil => exact since
  | cons line lines ih =>
      simp only [List.mem_cons, forall_eq_or_imp] at quiet
      rcases since_cons.mp since with start | ⟨-, since⟩
      · exact absurd start quiet.1
      · exact ih quiet.2 since

theorem Since.mono {keeps' : α → Prop} (since : Since keeps starts rest)
    (weaken : ∀ line, keeps line → keeps' line) : Since keeps' starts rest := by
  induction since with
  | start here => exact .start here
  | later kept _ ih => exact .later (weaken _ kept) ih

theorem Since.mono_start {starts' : α → Prop} (since : Since keeps starts rest)
    (weaken : ∀ line, starts line → starts' line) : Since keeps starts' rest := by
  induction since with
  | start here => exact .start (weaken _ here)
  | later kept _ ih => exact .later kept ih

theorem Since.split (since : Since keeps starts rest) (property : α → Prop) :
    Since keeps (fun line => starts line ∧ property line) rest ∨
      Since keeps (fun line => starts line ∧ ¬property line) rest := by
  induction since with
  | @start line _ here =>
      by_cases holds : property line
      · exact .inl (.start ⟨here, holds⟩)
      · exact .inr (.start ⟨here, holds⟩)
  | later kept _ ih => exact ih.imp (.later kept) (.later kept)

theorem Since.exists_start (since : Since keeps starts rest) : ∃ line ∈ rest, starts line := by
  induction since with
  | start here => exact ⟨_, List.mem_cons_self, here⟩
  | later _ _ ih =>
      obtain ⟨line, mem, here⟩ := ih
      exact ⟨line, List.mem_cons_of_mem _ mem, here⟩

theorem Since.append (kept : ∀ line ∈ lines, keeps line) (since : Since keeps starts rest) :
    Since keeps starts (lines ++ rest) := by
  induction lines with
  | nil => exact since
  | cons line lines ih =>
      simp only [List.mem_cons, forall_eq_or_imp] at kept
      exact .later kept.1 (ih kept.2)

end Since

theorem split_dropWhile {p : α → Bool} {line : α} {lines : List α}
    (front : (lines.dropWhile p).head? = some line) :
    lines = lines.takeWhile p ++ line :: (lines.dropWhile p).tail := by
  rw [List.cons_head?_tail front, List.takeWhile_append_dropWhile]

section Always

variable {right : α → List α → Prop} {line : α} {lines rest history : List α}

theorem always_cons :
    Always right (line :: rest) ↔ right line rest ∧ Always right rest := by
  constructor
  · rintro (_ | ⟨here, before⟩)
    exact ⟨here, before⟩
  · rintro ⟨here, before⟩
    exact .cons here before

instance decidableAlways [∀ line rest, Decidable (right line rest)] :
    DecidablePred (Always right)
  | [] => isTrue .nil
  | _ :: rest =>
      have := decidableAlways rest
      decidable_of_iff' _ always_cons

theorem Always.of_append (always : Always right (lines ++ rest)) : Always right rest := by
  induction lines with
  | nil => exact always
  | cons line lines ih => exact ih (always_cons.mp always).2

/-- A history is right if every line is right after its past. -/
theorem always_iff :
    Always right history ↔ ∀ later line rest, history = later ++ line :: rest →
      right line rest := by
  constructor
  · rintro always later line rest rfl
    exact (always_cons.mp always.of_append).1
  · intro all
    induction history with
    | nil => exact .nil
    | cons line rest ih =>
        refine .cons (all [] line rest rfl) (ih fun later other earlier split => ?_)
        exact all (line :: later) other earlier (by rw [split]; rfl)

/-- Lines can be added if each is right after the past and any of the others. -/
theorem Always.extend (always : Always right rest)
    (step : ∀ line ∈ lines, ∀ others ⊆ lines, right line (others ++ rest)) :
    Always right (lines ++ rest) := by
  induction lines with
  | nil => exact always
  | cons line lines ih =>
      refine .cons (step line (by simp) lines (List.subset_cons_self _ _)) (ih ?_)
      intro other mem others sub
      exact step other (List.mem_cons_of_mem _ mem) others (List.subset_cons_of_subset _ sub)

theorem Always.append (always : Always right rest)
    (neutral : ∀ line ∈ lines, ∀ before, right line before) : Always right (lines ++ rest) :=
  always.extend fun line mem _ _ => neutral line mem _

theorem always_of_forall (neutral : ∀ line ∈ history, ∀ before, right line before) :
    Always right history := by
  rw [← history.append_nil]
  exact Always.append .nil neutral

end Always

end History
