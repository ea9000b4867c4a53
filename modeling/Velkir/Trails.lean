import Velkir.Procedure

/-!
# Trails as paths

What holds of every write holds along a trail, and an invariant may rest on assumptions about the
states in between.
-/

namespace Crash

variable {σ α β : Type}

/-- The list leads from the first state to the last by steps. -/
def Path (step : σ → σ → Prop) : σ → List σ → σ → Prop
  | state, [], final => final = state
  | state, next :: rest, final => step state next ∧ Path step next rest final

namespace Path

variable {step : σ → σ → Prop} {first middle final : σ} {trail rest : List σ}

theorem append (before : Path step first trail middle) (after : Path step middle rest final) :
    Path step first (trail ++ rest) final := by
  induction trail generalizing first with
  | nil =>
      have same : middle = first := before
      rwa [same] at after
  | cons next trail ih => exact ⟨before.1, ih before.2⟩

/-- What a step into an admissible state preserves, a path does. -/
theorem invariant {admissible inv : σ → Prop}
    (keeps : ∀ before after, step before after → admissible after → inv before → inv after)
    (path : Path step first trail final) (through : ∀ state ∈ trail, admissible state)
    (start : inv first) : (∀ state ∈ trail, inv state) ∧ inv final := by
  induction trail generalizing first with
  | nil =>
      have same : final = first := path
      exact ⟨by simp, same ▸ start⟩
  | cons next trail ih =>
      have here : inv next := keeps first next path.1 (through next (by simp)) start
      obtain ⟨along, last⟩ := ih path.2 (fun state mem => through state (by simp [mem])) here
      exact ⟨List.forall_mem_cons.mpr ⟨here, along⟩, last⟩

end Path

namespace Proc

/-- Every write of the procedure is a step. -/
def Linked (step : σ → σ → Prop) (proc : Proc σ α) : Prop :=
  ∀ state, Path step state (proc.run state).trail (proc.run state).final

variable {test : Prop} {update : σ → σ} {first yes no : Proc σ α} {next : α → Proc σ β}

namespace Linked

variable {step : σ → σ → Prop}

theorem pure (value : α) : Linked step (pure value : Proc σ α) :=
  fun _ => rfl

theorem read (view : σ → α) : Linked step (read view) :=
  fun _ => rfl

theorem write (steps : ∀ state, step state (update state)) : Linked step (write update) :=
  fun state => ⟨steps state, rfl⟩

theorem bind (left : Linked step first) (right : ∀ value, Linked step (next value)) :
    Linked step (first >>= next) :=
  fun state => (left state).append (right _ _)

theorem ite [Decidable test] (left : Linked step yes) (right : Linked step no) :
    Linked step (if test then yes else no) := by
  split
  · exact left
  · exact right

end Linked

/-- Called here, every write is a step and the result satisfies `post`. -/
def Steps (step : σ → σ → Prop) (proc : Proc σ α) (post : α → σ → Prop) (state : σ) : Prop :=
  Path step state (proc.run state).trail (proc.run state).final ∧
    post (proc.run state).value (proc.run state).final

theorem Linked.steps {step : σ → σ → Prop} {proc : Proc σ α} (linked : Linked step proc)
    (state : σ) : Steps step proc (fun _ _ => True) state :=
  ⟨linked state, trivial⟩

variable {value : α}

namespace Steps

variable {step : σ → σ → Prop} {state : σ}

variable {post : α → σ → Prop}

theorem pure (holds : post value state) : Steps step (pure value) post state :=
  ⟨rfl, holds⟩

theorem read {view : σ → α} (holds : post (view state) state) : Steps step (read view) post state :=
  ⟨rfl, holds⟩

theorem write {post : Unit → σ → Prop} (steps : step state (update state))
    (holds : post () (update state)) : Steps step (write update) post state :=
  ⟨⟨steps, rfl⟩, holds⟩

theorem bind {post : β → σ → Prop}
    (steps : Steps step first (fun value middle => Steps step (next value) post middle) state) :
    Steps step (first >>= next) post state :=
  ⟨steps.1.append steps.2.1, steps.2.2⟩

theorem ite [Decidable test] (left : test → Steps step yes post state)
    (right : ¬test → Steps step no post state) :
    Steps step (if test then yes else no) post state := by
  split
  · exact left ‹_›
  · exact right ‹_›

theorem mono {proc : Proc σ α} {post' : α → σ → Prop} (steps : Steps step proc post state)
    (weaken : ∀ value final, post value final → post' value final) : Steps step proc post' state :=
  ⟨steps.1, weaken _ _ steps.2⟩

end Steps

theorem trail_bind (first : Proc σ α) (next : α → Proc σ β) (state : σ) :
    ((first >>= next).run state).trail = (first.run state).trail ++
      ((next (first.run state).value).run (first.run state).final).trail := rfl

/-- Through admissible states the procedure keeps the invariant. -/
def Through (admissible inv : σ → Prop) (proc : Proc σ α) : Prop :=
  ∀ state, inv state → (∀ middle ∈ (proc.run state).trail, admissible middle) →
    proc.wp inv (fun _ => inv) state

namespace Through

variable {admissible inv : σ → Prop}

theorem of_within {proc : Proc σ α} (within : Within (Keeps inv) proc) :
    Through admissible inv proc :=
  fun _ start _ => within.wp start

theorem write (keeps : ∀ state, inv state → admissible (update state) → inv (update state)) :
    Through admissible inv (write update) := by
  intro state start through
  have here := keeps state start (through _ (List.mem_singleton_self _))
  exact wp_write.mpr ⟨here, here⟩

theorem bind (left : Through admissible inv first)
    (right : ∀ value, Through admissible inv (next value)) :
    Through admissible inv (first >>= next) := by
  intro state start through
  have before := left state start fun other mem => through other (by simp [trail_bind, mem])
  have after := right (first.run state).value _ before.2
    fun other mem => through other (by simp [trail_bind, mem])
  exact wp_bind.mpr ⟨before.1, after⟩

theorem ite [Decidable test] (left : Through admissible inv yes)
    (right : Through admissible inv no) :
    Through admissible inv (if test then yes else no) := by
  split
  · exact left
  · exact right

theorem pure (value : α) : Through admissible inv (pure value : Proc σ α) :=
  of_within (.pure _)

theorem read (view : σ → α) : Through admissible inv (read view) :=
  of_within (.read _)

theorem chain {procs : List (Proc σ Bool)} (all : ∀ proc ∈ procs, Through admissible inv proc) :
    Through admissible inv (chain procs) := by
  induction procs with
  | nil => exact pure true
  | cons first rest ih =>
      exact (all first (by simp)).bind fun _ =>
        .ite (ih fun proc mem => all proc (by simp [mem])) (pure false)

end Through

/-- Where `first` returns, the trail of `whole` goes on with `next`. -/
def Opens (first : Proc σ (Option α)) (next : α → Proc σ β) {γ : Type} (whole : Proc σ γ) :
    Prop :=
  ∀ state value, (first.run state).value = some value →
    ∃ rest, (whole.run state).trail =
      (first.run state).trail ++ ((next value).run (first.run state).final).trail ++ rest

namespace Opens

variable {γ δ : Type} {next : α → Proc σ β}

variable {whole : Proc σ γ}

theorem never : Opens (pure none) next whole := by
  intro state value returned
  exact absurd returned (by simp)

theorem last : Opens (pure (some value)) next (next value) := by
  rintro state _ ⟨⟩
  exact ⟨[], (List.append_nil _).symm⟩

theorem after {before : Proc σ δ} {first : δ → Proc σ (Option α)} {whole : δ → Proc σ γ}
    (opens : ∀ value, Opens (first value) next (whole value)) :
    Opens (before >>= first) next (before >>= whole) := by
  intro state value returned
  obtain ⟨rest, trail⟩ := opens _ _ value returned
  refine ⟨rest, ?_⟩
  rw [trail_bind, trail_bind, trail]
  simp only [final_bind, List.append_assoc]

theorem extend {first : Proc σ (Option α)} {rest : γ → Proc σ δ} (opens : Opens first next whole) :
    Opens first next (whole >>= rest) := by
  intro state value returned
  obtain ⟨tail, trail⟩ := opens state value returned
  rw [trail_bind, trail, List.append_assoc]
  exact ⟨_, rfl⟩

theorem ite [Decidable test] {first first' : Proc σ (Option α)} {whole' : Proc σ γ}
    (yes : Opens first next whole) (no : Opens first' next whole') :
    Opens (if test then first else first') next (if test then whole else whole') := by
  split
  · exact yes
  · exact no

end Opens

end Proc

/-- What holds of every act under the invariant holds of a run. -/
theorem System.meets_of_invariant {ι δ : Type} {system : System σ ι δ α} {inv : σ → Prop}
    {condition : Act ι δ → σ → Prop} {state : σ}
    (holds : ∀ act middle, inv middle → condition act middle)
    (keeps : ∀ act middle, inv middle → inv (system.exec act middle)) (acts : List (Act ι δ))
    (start : inv state) : system.Meets condition acts state := by
  induction acts generalizing state with
  | nil => exact trivial
  | cons act acts ih => exact ⟨holds act state start, ih (keeps act state start)⟩

end Crash
