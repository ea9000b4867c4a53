import Mathlib.Data.List.Basic

/-!
# Procedures that can be cut short

A procedure is a sequence of indivisible writes. Its trail lists the states they leave, where it can
be stopped.
-/

namespace Crash

/-- What a call did: the states of its writes, the last one, and its value. -/
structure Outcome (σ α : Type) where
  /-- The state after each write, oldest first. -/
  trail : List σ
  final : σ
  value : α

/-- A procedure over states `σ` returning an `α`. -/
structure Proc (σ α : Type) where
  run : σ → Outcome σ α

/-- How a write is answered; a lost answer hides that it took place. -/
inductive Answer
  | done
  | refused
  | lost
  deriving DecidableEq

namespace Proc

variable {σ α β : Type}

instance : Monad (Proc σ) where
  pure value := ⟨fun state => ⟨[], state, value⟩⟩
  bind first next := ⟨fun state =>
    let before := first.run state
    let after := (next before.value).run before.final
    ⟨before.trail ++ after.trail, after.final, after.value⟩⟩

/-- Look at the state. -/
def read (view : σ → α) : Proc σ α :=
  ⟨fun state => ⟨[], state, view state⟩⟩

/-- Apply an update. -/
def write (update : σ → σ) : Proc σ Unit :=
  ⟨fun state => ⟨[update state], update state, ()⟩⟩

/-- Ask for a write; the value says whether success was answered. -/
def request (answer : Answer) (update : σ → σ) : Proc σ Bool :=
  match answer with
  | .done => do
      write update
      return true
  | .refused => return false
  | .lost => do
      write update
      return false

/-- Go on if the first succeeds. -/
def andThen (first next : Proc σ Bool) : Proc σ Bool := do
  if ← first then next else return false

/-- Run procedures in order up to the first failure. -/
def chain : List (Proc σ Bool) → Proc σ Bool
  | [] => pure true
  | first :: rest => andThen first (chain rest)

/-- Run `body` on every element in order up to the first failure. -/
def each (body : β → Proc σ Bool) (items : List β) : Proc σ Bool :=
  chain (items.map body)

theorem each_cons (body : β → Proc σ Bool) (item : β) (items : List β) :
    each body (item :: items) = (body item).andThen (each body items) := rfl

variable {items : List β}

section Results

variable {state : σ}

@[simp]
theorem final_pure (value : α) : ((pure value : Proc σ α).run state).final = state := rfl

@[simp]
theorem value_pure (value : α) : ((pure value : Proc σ α).run state).value = value := rfl

@[simp]
theorem final_read (view : σ → α) : ((read view).run state).final = state := rfl

@[simp]
theorem value_read (view : σ → α) : ((read view).run state).value = view state := rfl

@[simp]
theorem final_write (update : σ → σ) : ((write update).run state).final = update state := rfl

@[simp]
theorem final_bind (first : Proc σ α) (next : α → Proc σ β) :
    ((first >>= next).run state).final =
      ((next (first.run state).value).run (first.run state).final).final := rfl

@[simp]
theorem value_bind (first : Proc σ α) (next : α → Proc σ β) :
    ((first >>= next).run state).value =
      ((next (first.run state).value).run (first.run state).final).value := rfl

@[simp]
theorem run_ite (test : Prop) [Decidable test] (yes no : Proc σ α) :
    (if test then yes else no).run state = if test then yes.run state else no.run state := by
  split <;> rfl

private theorem value_andThen (first next : Proc σ Bool) :
    ((first.andThen next).run state).value =
      ((first.run state).value && (next.run (first.run state).final).value) := by
  simp only [andThen, value_bind, run_ite]
  split <;> simp_all

theorem each_succeeds {body : β → Proc σ Bool}
    (succeeds : ∀ item ∈ items, ∀ state, ((body item).run state).value = true) :
    ((each body items).run state).value = true := by
  induction items generalizing state with
  | nil => rfl
  | cons item items ih =>
      rw [each_cons, value_andThen, succeeds item (by simp), Bool.true_and]
      exact ih fun other mem => succeeds other (by simp [mem])

end Results

/-- Every state on the trail satisfies `along`, the result `post`. -/
def wp (along : σ → Prop) (proc : Proc σ α) (post : α → σ → Prop) (state : σ) : Prop :=
  (∀ middle ∈ (proc.run state).trail, along middle) ∧
    post (proc.run state).value (proc.run state).final

variable {test : Prop}

section Rules

variable {along along' : σ → Prop} {state : σ}

@[simp]
theorem wp_pure {value : α} {post : α → σ → Prop} :
    wp along (pure value) post state ↔ post value state := by
  simp [wp, pure]

@[simp]
theorem wp_read {view : σ → α} {post : α → σ → Prop} :
    wp along (read view) post state ↔ post (view state) state := by
  simp [wp, read]

@[simp]
theorem wp_write {update : σ → σ} {post : Unit → σ → Prop} :
    wp along (write update) post state ↔ along (update state) ∧ post () (update state) := by
  simp [wp, write]

@[simp]
theorem wp_bind {first : Proc σ α} {next : α → Proc σ β} {post : β → σ → Prop} :
    wp along (first >>= next) post state ↔
      wp along first (fun value middle => wp along (next value) post middle) state := by
  simp only [wp, bind, List.mem_append]
  grind

@[simp]
theorem wp_ite [Decidable test] {yes no : Proc σ α} {post : α → σ → Prop} :
    wp along (if test then yes else no) post state ↔
      (test → wp along yes post state) ∧ (¬test → wp along no post state) := by
  split <;> simp_all

/-- A request has to be right whatever the answer hides. -/
theorem wp_request {answer : Answer} {update : σ → σ} {post : Bool → σ → Prop}
    (written : answer ≠ .refused → along (update state) ∧
      post (decide (answer = .done)) (update state))
    (refused : answer = .refused → post false state) :
    wp along (request answer update) post state := by
  cases answer with
  | done => simpa [request] using written
  | refused => simpa [request] using refused
  | lost => simpa [request] using written

theorem wp_mono {proc : Proc σ α} {post post' : α → σ → Prop}
    (holds : wp along proc post state) (trail : ∀ middle, along middle → along' middle)
    (result : ∀ value final, post value final → post' value final) :
    wp along' proc post' state :=
  ⟨fun middle mem => trail middle (holds.1 middle mem), result _ _ holds.2⟩

theorem wp_and {proc : Proc σ α} {post post' : α → σ → Prop} (first : wp along proc post state)
    (second : wp along' proc post' state) :
    wp (fun middle => along middle ∧ along' middle) proc
      (fun value final => post value final ∧ post' value final) state :=
  ⟨fun middle mem => ⟨first.1 middle mem, second.1 middle mem⟩, first.2, second.2⟩

theorem wp_andThen {first next : Proc σ Bool} {post : Bool → σ → Prop}
    (holds : wp along first
      (fun ok middle => if ok then wp along next post middle else post false middle) state) :
    wp along (first.andThen next) post state := by
  unfold andThen
  simp only [wp_bind, wp_ite, wp_pure]
  refine wp_mono holds (fun _ => id) ?_
  intro ok middle branch
  cases ok <;> simpa using branch

/-- Cut short, a procedure leaves a state of its trail, or the first one. -/
theorem wp_cut {proc : Proc σ α} {post : α → σ → Prop} {writes : Nat} (start : along state)
    (holds : wp along proc post state) :
    along (((proc.run state).trail.take writes).getLastD state) := by
  rcases List.mem_cons.mp List.getLastD_mem_cons with eq | mem
  · rwa [eq]
  · exact holds.1 _ (List.mem_of_mem_take mem)

end Rules

/-- The second state satisfies the invariant if the first one does. -/
def Keeps (inv : σ → Prop) (before after : σ) : Prop :=
  inv before → inv after

instance (inv : σ → Prop) : Std.Refl (Keeps inv) where
  refl _ := id

instance (inv : σ → Prop) : IsTrans σ (Keeps inv) where
  trans _ _ _ first second := second ∘ first

/-- Every state it passes through is related to the first one. -/
def Within (relation : σ → σ → Prop) (proc : Proc σ α) : Prop :=
  ∀ state, wp (relation state) proc (fun _ final => relation state final) state

namespace Within

variable {relation : σ → σ → Prop}

theorem mono {relation' : σ → σ → Prop} {proc : Proc σ α} (within : Within relation proc)
    (embed : ∀ before after, relation before after → relation' before after) :
    Within relation' proc := by
  intro state
  exact wp_mono (within state) (embed state) (fun _ final => embed state final)

theorem pure [Std.Refl relation] (value : α) : Within relation (pure value : Proc σ α) := by
  intro state
  simpa using Std.Refl.refl state

theorem read [Std.Refl relation] (view : σ → α) : Within relation (read view) := by
  intro state
  simpa using Std.Refl.refl state

theorem write {update : σ → σ} (step : ∀ state, relation state (update state)) :
    Within relation (write update) := by
  intro state
  simpa using step state

theorem bind [IsTrans σ relation] {first : Proc σ α} {next : α → Proc σ β}
    (left : Within relation first) (right : ∀ value, Within relation (next value)) :
    Within relation (first >>= next) := by
  intro state
  rw [wp_bind]
  refine wp_mono (left state) (fun _ => id) ?_
  intro value middle reached
  exact wp_mono (right value middle) (fun _ => IsTrans.trans _ _ _ reached)
    (fun _ _ => IsTrans.trans _ _ _ reached)

theorem ite [Decidable test] {yes no : Proc σ α} (left : Within relation yes)
    (right : Within relation no) : Within relation (if test then yes else no) := by
  split
  · exact left
  · exact right

theorem when [IsTrans σ relation] [Decidable test] {first : Proc σ β} {rest : Proc σ α}
    (left : Within relation first) (right : Within relation rest) :
    Within relation (if test then first >>= fun _ => rest else rest) :=
  .ite (left.bind fun _ => right) right

theorem andThen [Std.Refl relation] [IsTrans σ relation] {first next : Proc σ Bool}
    (left : Within relation first) (right : Within relation next) :
    Within relation (first.andThen next) :=
  left.bind fun _ => right.ite (pure false)

private theorem chain [Std.Refl relation] [IsTrans σ relation] {procs : List (Proc σ Bool)}
    (all : ∀ proc ∈ procs, Within relation proc) : Within relation (chain procs) := by
  induction procs with
  | nil => exact pure true
  | cons first rest ih =>
      exact (all first (by simp)).andThen (ih fun proc mem => all proc (by simp [mem]))

theorem each [Std.Refl relation] [IsTrans σ relation] {body : β → Proc σ Bool}
    (all : ∀ item ∈ items, Within relation (body item)) : Within relation (each body items) := by
  refine chain fun proc mem => ?_
  obtain ⟨item, item_mem, rfl⟩ := List.mem_map.mp mem
  exact all item item_mem

theorem foldlM [Std.Refl relation] [IsTrans σ relation] {body : α → β → Proc σ α} {first : α}
    (all : ∀ held, ∀ item ∈ items, Within relation (body held item)) :
    Within relation (items.foldlM body first) := by
  induction items generalizing first with
  | nil => exact pure first
  | cons item items ih =>
      exact (all first item (by simp)).bind fun held =>
        ih fun other next mem => all other next (by simp [mem])

/-- An invariant that a procedure keeps holds along it and at its end. -/
theorem wp {inv : σ → Prop} {proc : Proc σ α} (within : Within (Keeps inv) proc) {state : σ}
    (start : inv state) : proc.wp inv (fun _ => inv) state :=
  wp_mono (within state) (fun _ step => step start) (fun _ _ step => step start)

/-- A step that keeps a stage, in front of procedures that start from it. -/
theorem stage {inv along : σ → Prop} {first next : Proc σ Bool} {state : σ}
    (within : Within (Keeps inv) first) (weaken : ∀ middle, inv middle → along middle)
    (start : inv state) (rest : ∀ middle, inv middle → next.wp along (fun _ => along) middle) :
    (first.andThen next).wp along (fun _ => along) state := by
  refine wp_andThen (wp_mono (within.wp start) weaken ?_)
  intro ok middle reached
  cases ok with
  | true => exact rest middle reached
  | false => exact weaken middle reached

theorem of_wp {inv : σ → Prop} {proc : Proc σ α}
    (holds : ∀ state, inv state → proc.wp inv (fun _ => inv) state) :
    Within (Keeps inv) proc := by
  intro state
  refine ⟨fun middle mem start => (holds state start).1 middle mem,
    fun start => (holds state start).2⟩

theorem and {left right : σ → Prop} {proc : Proc σ α} (first : Within (Keeps left) proc)
    (second : Within (Keeps right) proc) :
    Within (Keeps fun state => left state ∧ right state) proc :=
  of_wp fun _ start => ⟨fun middle mem =>
    ⟨(first.wp start.1).1 middle mem, (second.wp start.2).1 middle mem⟩,
    (first.wp start.1).2, (second.wp start.2).2⟩

end Within

end Proc

/-- A whole call, a call cut short, or a change from outside. -/
inductive Act (ι δ : Type)
  | call (input : ι)
  | crash (input : ι) (writes : Nat)
  | drift (change : δ)
  deriving DecidableEq

/-- A procedure called again on a state that also changes from outside. -/
structure System (σ ι δ α : Type) where
  call : ι → Proc σ α
  /-- What is left of the state when the caller dies. -/
  restart : σ → σ
  drift : δ → σ → σ

namespace System

variable {σ ι δ α : Type} (system : System σ ι δ α)

/-- The state after one act. -/
def exec : Act ι δ → σ → σ
  | .call input, state => ((system.call input).run state).final
  | .crash input writes, state =>
      system.restart ((((system.call input).run state).trail.take writes).getLastD state)
  | .drift change, state => system.drift change state

/-- The state after these acts. -/
def run : List (Act ι δ) → σ → σ
  | [], state => state
  | act :: acts, state => run acts (system.exec act state)

/-- Every act of the run is taken in a state that meets `condition`. -/
def Meets (condition : Act ι δ → σ → Prop) : List (Act ι δ) → σ → Prop
  | [], _ => True
  | act :: acts, state => condition act state ∧ Meets condition acts (system.exec act state)

variable {system} {state : σ}

/-- A crash leaves the restart of a state of the call or of the first. -/
theorem exec_crash {along inv : σ → Prop} {post : α → σ → Prop} {input : ι} {writes : Nat}
    (start : along state) (holds : (system.call input).wp along post state)
    (restart : ∀ middle, along middle → inv (system.restart middle)) :
    inv (system.exec (.crash input writes) state) :=
  restart _ (Proc.wp_cut start holds)

variable {acts : List (Act ι δ)}

theorem meets_of_forall {condition : Act ι δ → Prop} (all : ∀ act ∈ acts, condition act) :
    system.Meets (fun act _ => condition act) acts state := by
  induction acts generalizing state with
  | nil => exact trivial
  | cons act acts ih => exact ⟨all act (by simp), ih fun other mem => all other (by simp [mem])⟩

theorem run_induction {condition : Act ι δ → σ → Prop} {inv : σ → Prop}
    (step : ∀ act middle, condition act middle → inv middle → inv (system.exec act middle))
    (meets : system.Meets condition acts state) (start : inv state) :
    inv (system.run acts state) := by
  induction acts generalizing state with
  | nil => exact start
  | cons act acts ih => exact ih meets.2 (step act state meets.1 start)

/-- An invariant of calls, restarts and outside changes holds after every run. -/
theorem run_invariant {inv : σ → Prop}
    (call : ∀ input middle, inv middle → (system.call input).wp inv (fun _ => inv) middle)
    (restart : ∀ middle, inv middle → inv (system.restart middle))
    (drift : ∀ change middle, inv middle → inv (system.drift change middle))
    (acts : List (Act ι δ)) (start : inv state) : inv (system.run acts state) := by
  induction acts generalizing state with
  | nil => exact start
  | cons act acts ih =>
      refine ih ?_
      cases act with
      | call input => exact (call input state start).2
      | crash input writes => exact exec_crash start (call input state start) restart
      | drift change => exact drift change state start

end System

end Crash
