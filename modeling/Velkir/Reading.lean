import Mathlib.Data.List.Basic
import Mathlib.Logic.Relation

/-!
# Readers that ask for memory

A reader takes from the front of its input and asks for memory. It ends with a value, an error, or
by being stopped.
-/

namespace Reading

/-- How a reader ends. -/
inductive Outcome (σ ε α : Type)
  | value (value : α) (rest : σ)
  | error (error : ε)
  | crash
  deriving DecidableEq

/-- The sizes that were asked for, oldest first, and the end. -/
structure Run (σ ε α : Type) where
  requests : List Nat
  outcome : Outcome σ ε α

/-- A reader of some input. -/
structure Reader (σ ε α : Type) where
  run : σ → Run σ ε α

namespace Reader

variable {σ ε α β : Type}

instance : Monad (Reader σ ε) where
  pure value := ⟨fun input => ⟨[], .value value input⟩⟩
  bind first next := ⟨fun input =>
    let ⟨requests, outcome⟩ := first.run input
    match outcome with
    | .value value rest =>
        let after := (next value).run rest
        ⟨requests ++ after.requests, after.outcome⟩
    | .error error => ⟨requests, .error error⟩
    | .crash => ⟨requests, .crash⟩⟩

/-- Ask for memory. -/
def request (size : Nat) : Reader σ ε Unit :=
  ⟨fun input => ⟨[size], .value () input⟩⟩

/-- Stop with an error. -/
def fail (error : ε) : Reader σ ε α :=
  ⟨fun _ => ⟨[], .error error⟩⟩

/-- Stop the program. -/
def crash : Reader σ ε α :=
  ⟨fun _ => ⟨[], .crash⟩⟩

/-- Take this many items, or fail if there are fewer. -/
def take (count : Nat) (error : ε) : Reader (List β) ε (List β) :=
  ⟨fun input =>
    if input.length < count then ⟨[], .error error⟩
    else ⟨[], .value (input.take count) (input.drop count)⟩⟩

/-- Say where an error comes from. -/
def wrap (context : ε → ε) (reader : Reader σ ε α) : Reader σ ε α :=
  ⟨fun input =>
    let ⟨requests, outcome⟩ := reader.run input
    match outcome with
    | .error error => ⟨requests, .error (context error)⟩
    | outcome => ⟨requests, outcome⟩⟩

/-- The reader ends with this value, and leaves this input. -/
def Returns (reader : Reader σ ε α) (input : σ) (value : α) (rest : σ) : Prop :=
  (reader.run input).outcome = .value value rest

/-- The reader asks for no more than the limit at a time, and is not stopped. -/
def Safe (limit : Nat) (reader : Reader σ ε α) (input : σ) : Prop :=
  (∀ size ∈ (reader.run input).requests, size ≤ limit) ∧ (reader.run input).outcome ≠ .crash

variable {size count : Nat}

section Returns

variable {input rest : σ}

@[simp]
theorem returns_pure {value result : α} :
    (pure value : Reader σ ε α).Returns input result rest ↔ result = value ∧ rest = input := by
  simp [Returns, pure, eq_comm]

@[simp]
theorem returns_request {value : Unit} :
    (request size : Reader σ ε Unit).Returns input value rest ↔ rest = input := by
  simp [Returns, request, eq_comm]

@[simp]
theorem returns_take {error : ε} {input value rest : List β} :
    (take count error).Returns input value rest ↔
      count ≤ input.length ∧ value = input.take count ∧ rest = input.drop count := by
  unfold Returns take
  dsimp only
  split
  next short => simp [Nat.not_le.mpr short]
  next enough => simp [Nat.not_lt.mp enough, eq_comm]

@[simp]
theorem returns_wrap {context : ε → ε} {reader : Reader σ ε α} {value : α} :
    (wrap context reader).Returns input value rest ↔ reader.Returns input value rest := by
  unfold Returns wrap
  dsimp only
  cases (reader.run input).outcome <;> simp

@[simp]
theorem returns_bind {first : Reader σ ε α} {next : α → Reader σ ε β} {value : β} :
    (first >>= next).Returns input value rest ↔
      ∃ middle after,
        first.Returns input middle after ∧ (next middle).Returns after value rest := by
  unfold Returns
  simp only [bind]
  cases (first.run input).outcome <;> simp

end Returns

section Repeats

variable {ε α β γ : Type}

/-- What the first reader returns the second returns too. -/
def Repeats (first second : Reader (List γ) ε α) : Prop :=
  ∀ ⦃input value rest⦄, first.Returns input value rest →
    ∃ taken, input = taken ++ rest ∧ ∀ other, second.Returns (taken ++ other) value other

variable {first second : Reader (List γ) ε α}

theorem Repeats.idle (idle : ∀ input value rest, first.Returns input value rest →
      rest = input ∧ ∀ other, second.Returns other value other) : Repeats first second := by
  intro input value rest returned
  obtain ⟨rfl, again⟩ := idle input value rest returned
  exact ⟨[], rfl, again⟩

theorem Repeats.take (count : Nat) (error : ε) :
    Repeats (take count error : Reader (List γ) ε (List γ)) (Reader.take count error) := by
  intro input value rest returned
  obtain ⟨enough, rfl, rfl⟩ := returns_take.mp returned
  exact ⟨input.take count, by simp, fun other => by simp [enough]⟩

theorem Repeats.bind {next after : α → Reader (List γ) ε β} (head : Repeats first second)
    (tail : ∀ value, Repeats (next value) (after value)) :
    Repeats (first >>= next) (second >>= after) := by
  intro input value rest returned
  obtain ⟨middle, between, reads, goes⟩ := returns_bind.mp returned
  obtain ⟨taken, rfl, again⟩ := head reads
  obtain ⟨more, rfl, follows⟩ := tail middle goes
  refine ⟨taken ++ more, by simp, fun other => returns_bind.mpr ⟨middle, more ++ other, ?_, ?_⟩⟩
  · rw [List.append_assoc]
    exact again _
  · exact follows other

end Repeats

section Ensures

variable {limit : Nat} {input : σ}

/-- The reader is safe, and what it returns satisfies `post`. -/
def Ensures (limit : Nat) (reader : Reader σ ε α) (post : α → σ → Prop) (input : σ) : Prop :=
  reader.Safe limit input ∧ ∀ value rest, reader.Returns input value rest → post value rest

theorem safe_iff_ensures {reader : Reader σ ε α} :
    reader.Safe limit input ↔ reader.Ensures limit (fun _ _ => True) input := by
  simp [Ensures]

@[simp]
theorem ensures_pure {value : α} {post : α → σ → Prop} :
    (pure value : Reader σ ε α).Ensures limit post input ↔ post value input := by
  simp [Ensures, Safe, pure, Returns]

@[simp]
theorem ensures_request {post : Unit → σ → Prop} :
    (request size : Reader σ ε Unit).Ensures limit post input ↔ size ≤ limit ∧ post () input := by
  simp [Ensures, Safe, request, Returns, Unique.forall_iff]

@[simp]
theorem ensures_fail {error : ε} {post : α → σ → Prop} :
    (fail error : Reader σ ε α).Ensures limit post input := by
  simp [Ensures, Safe, fail, Returns]

@[simp]
theorem ensures_crash {post : α → σ → Prop} :
    ¬(crash : Reader σ ε α).Ensures limit post input := by
  simp [Ensures, Safe, crash]

@[simp]
theorem ensures_take {error : ε} {input : List β} {post : List β → List β → Prop} :
    (take count error).Ensures limit post input ↔
      (count ≤ input.length → post (input.take count) (input.drop count)) := by
  unfold Ensures Safe Returns take
  dsimp only
  split
  next short => simp [Nat.not_le.mpr short]
  next enough => simp [Nat.not_lt.mp enough]

@[simp]
theorem ensures_wrap {context : ε → ε} {reader : Reader σ ε α} {post : α → σ → Prop} :
    (wrap context reader).Ensures limit post input ↔ reader.Ensures limit post input := by
  unfold Ensures Safe Returns wrap
  dsimp only
  cases (reader.run input).outcome <;> simp

@[simp]
theorem ensures_bind {first : Reader σ ε α} {next : α → Reader σ ε β} {post : β → σ → Prop} :
    (first >>= next).Ensures limit post input ↔
      first.Ensures limit (fun value rest => (next value).Ensures limit post rest) input := by
  unfold Ensures Safe Returns
  simp only [bind]
  cases (first.run input).outcome with
  | value value rest => simp [or_imp, forall_and, and_assoc]
  | error error => simp
  | crash => simp

end Ensures

end Reader

section Scan

variable {σ : Type} {next : σ → Option σ} {inv : σ → Prop} {state : σ}

/-- The invariant holds in every state from here on. -/
def Throughout (next : σ → Option σ) (inv : σ → Prop) (state : σ) : Prop :=
  ∀ later, Relation.ReflTransGen (fun before after => next before = some after) state later →
    inv later

theorem throughout_iff :
    Throughout next inv state ↔ inv state ∧ ∀ after ∈ next state, Throughout next inv after := by
  constructor
  · intro always
    exact ⟨always state .refl, fun after step later reach => always later (.head step reach)⟩
  · rintro ⟨here, later⟩ last reach
    rcases reach.cases_head with rfl | ⟨after, step, reach⟩
    · exact here
    · exact later after step last reach

end Scan

end Reading
