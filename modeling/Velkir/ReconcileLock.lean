import Mathlib.Data.Fintype.Basic
import Velkir.Machine

/-!
# The reconcile lock of one CR

The mutex of a CR lives in a bag that `forgetCR` deletes. A later call gets a new mutex, whoever
holds the old one.
-/

namespace Velkir.Lock

/-- What the read of the CR at the start of a call returns. -/
inductive Fetch
  | notFound
  | failed
  | found (deleting : Bool)
deriving DecidableEq

/-- How far a call of `Reconcile` has come. -/
inductive Stage
  | start
  | fetched (deleting : Bool)
  | loaded (deleting : Bool) (bag : Nat)
  | locked (deleting cleanupMutex : Bool) (bag : Nat)
  | forgetting
  | returned
deriving DecidableEq

namespace Stage

/-- The bag whose mutex the call has in hand, until it unlocks it. -/
def bag : Stage → Option Nat
  | .loaded _ bag => some bag
  | .locked _ _ bag => some bag
  | _ => none

/-- The call is between a successful `TryLock` and the matching `Unlock`. -/
def locks : Stage → Bool
  | .locked _ _ _ => true
  | _ => false

end Stage

/-- One key of the map `perCR`, the mutexes made for it, and its calls. -/
structure Registry (ι : Type*) where
  perCR : Option Nat
  created : Nat
  held : Nat → Bool
  stage : ι → Stage

/-- The atomic steps of a call; `touch` is any other use of the state bag. -/
inductive Act (ι : Type*)
  | fetch (call : ι) (reply : Fetch)
  | leave (call : ι)
  | lockFor (call : ι)
  | tryLock (call : ι)
  | reconcileDeletion (call : ι) (done : Bool)
  | unlock (call : ι)
  | forgetCR (call : ι)
  | touch

variable {ι : Type*}

namespace Registry

/-- No bag and no call under way. -/
def empty : Registry ι where
  perCR := none
  created := 0
  held := fun _ => false
  stage := fun _ => .start

/-- `LoadOrStore` of the state bag: a new bag comes with an unlocked mutex. -/
def stateFor (registry : Registry ι) : Nat × Registry ι :=
  match registry.perCR with
  | some bag => (bag, registry)
  | none =>
      (registry.created,
        { registry with
          perCR := some registry.created
          created := registry.created + 1
          held := Function.update registry.held registry.created false })

/-- At most one call is inside the lock. -/
def Exclusive (registry : Registry ι) : Prop :=
  ∀ left right, (registry.stage left).locks = true → (registry.stage right).locks = true →
    left = right

variable [DecidableEq ι]

def move (registry : Registry ι) (call : ι) (next : Stage) : Registry ι :=
  { registry with stage := Function.update registry.stage call next }

def setHeld (registry : Registry ι) (bag : Nat) (held : Bool) : Registry ι :=
  { registry with held := Function.update registry.held bag held }

end Registry

open Registry

/-- A step that its call is not ready for changes nothing. -/
def step [DecidableEq ι] : Act ι → Registry ι → Registry ι
  | .fetch call reply, registry =>
      match registry.stage call, reply with
      | .start, .notFound => registry.move call .forgetting
      | .start, .failed => registry.move call .returned
      | .start, .found deleting => registry.move call (.fetched deleting)
      | _, _ => registry
  | .leave call, registry =>
      match registry.stage call with
      | .fetched _ => registry.move call .returned
      | _ => registry
  | .lockFor call, registry =>
      match registry.stage call with
      | .fetched deleting =>
          registry.stateFor.2.move call (.loaded deleting registry.stateFor.1)
      | _ => registry
  | .tryLock call, registry =>
      match registry.stage call with
      | .loaded deleting bag =>
          if registry.held bag then registry.move call .returned
          else (registry.setHeld bag true).move call (.locked deleting false bag)
      | _ => registry
  | .reconcileDeletion call done, registry =>
      match registry.stage call with
      | .locked true _ bag => registry.move call (.locked true done bag)
      | _ => registry
  | .unlock call, registry =>
      match registry.stage call with
      | .locked _ cleanupMutex bag =>
          -- the deferred function unlocks first and drops the entry afterwards
          (registry.setHeld bag false).move call
            (if cleanupMutex then .forgetting else .returned)
      | _ => registry
  | .forgetCR call, registry =>
      match registry.stage call with
      | .forgetting => { registry with perCR := none }.move call .returned
      | _ => registry
  | .touch, registry => registry.stateFor.2

/-- The drop takes no bag from the map whose mutex another call has in hand. -/
def Unused : Act ι → Registry ι → Prop
  | .forgetCR call, registry =>
      registry.stage call = .forgetting →
        ∀ other, (registry.stage other).bag ≠ none → (registry.stage other).bag ≠ registry.perCR
  | _, _ => True

instance [Fintype ι] (act : Act ι) (registry : Registry ι) : Decidable (Unused act registry) := by
  cases act <;> unfold Unused <;> infer_instance

/-- Every mutex in hand is the one in the map; a call inside holds it. -/
structure Guarded (registry : Registry ι) : Prop where
  current : ∀ call bag, (registry.stage call).bag = some bag → registry.perCR = some bag
  held : ∀ call deleting cleanupMutex bag,
    registry.stage call = .locked deleting cleanupMutex bag → registry.held bag = true
  exclusive : registry.Exclusive

namespace Stage

theorem locks_iff {stage : Stage} :
    stage.locks = true ↔
      ∃ deleting cleanupMutex bag, stage = .locked deleting cleanupMutex bag := by
  cases stage <;> simp [locks]

theorem locks_eq_false {stage : Stage} (free : stage.bag = none) : stage.locks = false := by
  cases stage with
  | locked deleting cleanupMutex bag => cases free
  | _ => rfl

end Stage

namespace Registry

variable {registry : Registry ι}

@[simp]
theorem stateFor_stage : registry.stateFor.2.stage = registry.stage := by
  unfold stateFor
  split <;> rfl

@[simp]
theorem stateFor_perCR : registry.stateFor.2.perCR = some registry.stateFor.1 := by
  unfold stateFor
  split
  · assumption
  · rfl

end Registry

namespace Guarded

variable {registry : Registry ι} {call : ι} {bag : Nat}

private theorem empty : Guarded (Registry.empty : Registry ι) where
  current := by intro call bag inHand; cases inHand
  held := by intro call deleting cleanupMutex bag locked; cases locked
  exclusive := by intro left right locked; cases locked

variable (guarded : Guarded registry)

include guarded

private theorem untouched (absent : registry.perCR = none) (call : ι) :
    (registry.stage call).bag = none := by
  cases inHand : (registry.stage call).bag with
  | none => rfl
  | some bag =>
      have present := guarded.current call bag inHand
      rw [absent] at present
      cases present

private theorem stateFor : Guarded registry.stateFor.2 := by
  cases present : registry.perCR with
  | some bag =>
      have same : registry.stateFor.2 = registry := by simp [Registry.stateFor, present]
      rw [same]
      exact guarded
  | none =>
      have nobody (call : ι) := guarded.untouched present call
      refine ⟨?_, ?_, ?_⟩
      · intro call bag inHand
        rw [stateFor_stage, nobody call] at inHand
        cases inHand
      · intro call deleting cleanupMutex bag locked
        rw [stateFor_stage] at locked
        have free := nobody call
        rw [locked] at free
        cases free
      · intro left right leftLocked
        rw [stateFor_stage, Stage.locks_eq_false (nobody left)] at leftLocked
        cases leftLocked

/-- A drop of a bag that nobody has in hand leaves nobody with a mutex. -/
theorem drop (unused : ∀ other, (registry.stage other).bag ≠ none →
      (registry.stage other).bag ≠ registry.perCR) :
    Guarded { registry with perCR := none } where
  current := by
    intro other bag inHand
    have present := guarded.current other bag inHand
    refine absurd ?_ (unused other ?_)
    · rw [inHand, present]
    · rw [inHand]
      exact Option.some_ne_none bag
  held := guarded.held
  exclusive := guarded.exclusive

variable [DecidableEq ι]

variable {next : Stage}

/-- A call may take any stage whose mutex is the one in the map. -/
theorem move (current : ∀ bag, next.bag = some bag → registry.perCR = some bag)
    (inside : ∀ deleting cleanupMutex bag, next = .locked deleting cleanupMutex bag →
      registry.held bag = true ∧ (registry.stage call).locks = true) :
    Guarded (registry.move call next) := by
  refine ⟨?_, ?_, ?_⟩
  · intro other bag inHand
    by_cases same : other = call
    · subst same
      simp only [Registry.move, Function.update_self] at inHand
      exact current bag inHand
    · simp only [Registry.move, Function.update_of_ne same] at inHand
      exact guarded.current other bag inHand
  · intro other deleting cleanupMutex bag locked
    by_cases same : other = call
    · subst same
      simp only [Registry.move, Function.update_self] at locked
      exact (inside deleting cleanupMutex bag locked).1
    · simp only [Registry.move, Function.update_of_ne same] at locked
      exact guarded.held other deleting cleanupMutex bag locked
  · have before (other : ι) (locked : ((registry.move call next).stage other).locks = true) :
        (registry.stage other).locks = true := by
      by_cases same : other = call
      · subst same
        simp only [Registry.move, Function.update_self] at locked
        obtain ⟨_, _, bag, stage⟩ := Stage.locks_iff.mp locked
        exact (inside _ _ bag stage).2
      · simpa only [Registry.move, Function.update_of_ne same] using locked
    intro left right leftLocked rightLocked
    exact guarded.exclusive left right (before left leftLocked) (before right rightLocked)

private theorem release (free : next.bag = none) : Guarded (registry.move call next) := by
  refine guarded.move ?_ ?_
  · intro bag inHand
    rw [free] at inHand
    cases inHand
  · intro deleting cleanupMutex bag locked
    rw [locked] at free
    cases free

/-- A call that finds the mutex in the map unlocked is alone in the lock. -/
theorem lock (deleting : Bool)
    (inHand : (registry.stage call).bag = some bag) (unlocked : registry.held bag = false) :
    Guarded ((registry.setHeld bag true).move call (.locked deleting false bag)) := by
  have alone (other : ι) : (registry.stage other).locks = false := by
    cases locked : (registry.stage other).locks with
    | false => rfl
    | true =>
        obtain ⟨_, _, theirs, stage⟩ := Stage.locks_iff.mp locked
        have present := guarded.current other theirs (by rw [stage]; rfl)
        have held := guarded.held other _ _ theirs stage
        rw [guarded.current call bag inHand] at present
        cases present
        rw [unlocked] at held
        cases held
  refine ⟨?_, ?_, ?_⟩
  · intro other theirs theirHand
    by_cases same : other = call
    · subst same
      simp only [Registry.move, Function.update_self, Stage.bag, Option.some.injEq] at theirHand
      subst theirHand
      exact guarded.current other bag inHand
    · simp only [Registry.move, setHeld, Function.update_of_ne same] at theirHand
      exact guarded.current other theirs theirHand
  · intro other deleting cleanupMutex theirs locked
    by_cases same : other = call
    · subst same
      simp only [Registry.move, Function.update_self, Stage.locked.injEq] at locked
      simp [Registry.move, setHeld, ← locked.2.2]
    · simp only [Registry.move, setHeld, Function.update_of_ne same] at locked
      have outside := alone other
      rw [locked] at outside
      cases outside
  · have only (other : ι) (locked :
        (((registry.setHeld bag true).move call (.locked deleting false bag)).stage
          other).locks = true) : other = call := by
      by_contra different
      simp only [Registry.move, setHeld, Function.update_of_ne different, alone other] at locked
      cases locked
    intro left right leftLocked rightLocked
    rw [only left leftLocked, only right rightLocked]

/-- The call inside the lock may unlock the mutex. -/
theorem unlock (free : next.bag = none) (locks : (registry.stage call).locks = true) :
    Guarded ((registry.setHeld bag false).move call next) := by
  have alone (other : ι) (different : other ≠ call) : (registry.stage other).locks ≠ true :=
    fun locked => different (guarded.exclusive other call locked locks)
  have nobody (other : ι) :
      (((registry.setHeld bag false).move call next).stage other).locks = false := by
    by_cases same : other = call
    · subst same
      simp only [Registry.move, Function.update_self]
      exact Stage.locks_eq_false free
    · simp only [Registry.move, setHeld, Function.update_of_ne same]
      exact Bool.eq_false_iff.mpr (alone other same)
  refine ⟨?_, ?_, ?_⟩
  · intro other theirs theirHand
    by_cases same : other = call
    · subst same
      simp only [Registry.move, Function.update_self, free] at theirHand
      cases theirHand
    · simp only [Registry.move, setHeld, Function.update_of_ne same] at theirHand
      exact guarded.current other theirs theirHand
  · intro other deleting cleanupMutex theirs locked
    have outside := nobody other
    rw [locked] at outside
    cases outside
  · intro left right leftLocked
    rw [nobody left] at leftLocked
    cases leftLocked

omit guarded in
private theorem step (act : Act ι) (registry : Registry ι) (unused : Unused act registry)
    (guarded : Guarded registry) : Guarded (step act registry) := by
  cases act with
  | fetch call reply =>
      simp only [Lock.step]
      split
      · exact guarded.release rfl
      · exact guarded.release rfl
      · exact guarded.release rfl
      · exact guarded
  | leave call =>
      simp only [Lock.step]
      split
      · exact guarded.release rfl
      · exact guarded
  | lockFor call =>
      simp only [Lock.step]
      split
      · refine guarded.stateFor.move ?_ (by simp)
        intro bag inHand
        rw [stateFor_perCR]
        exact inHand
      · exact guarded
  | tryLock call =>
      simp only [Lock.step]
      split
      next deleting bag stage =>
        split
        · exact guarded.release rfl
        next unlocked =>
          exact guarded.lock deleting (by rw [stage]; rfl) (Bool.eq_false_iff.mpr unlocked)
      · exact guarded
  | reconcileDeletion call done =>
      simp only [Lock.step]
      split
      next cleanupMutex bag stage =>
        have inHand : (registry.stage call).bag = some bag := by rw [stage]; rfl
        refine guarded.move ?_ ?_
        · intro other same
          cases same
          exact guarded.current call bag inHand
        · intro _ _ other same
          cases same
          exact ⟨guarded.held call _ _ bag stage, by rw [stage]; rfl⟩
      · exact guarded
  | unlock call =>
      simp only [Lock.step]
      split
      next deleting cleanupMutex bag stage =>
        exact guarded.unlock (by split <;> rfl) (by rw [stage]; rfl)
      · exact guarded
  | forgetCR call =>
      simp only [Lock.step]
      split
      next stage => exact (guarded.drop (unused stage)).release rfl
      · exact guarded
  | touch => exact guarded.stateFor

end Guarded

/-- While no drop takes a mutex in hand out of the map, at most one call is inside the lock. -/
theorem reconcile_exclusive [DecidableEq ι] (past rest : List (Act ι))
    (unused : Machine.Meets step Unused (past ++ rest) Registry.empty) :
    (Machine.run step past (Registry.empty : Registry ι)).Exclusive := by
  have meets := unused.of_append
  exact (Machine.run_induction Guarded Guarded.step meets Guarded.empty).exclusive

/-- A call misses the CR while another is inside; a third finds it again. -/
def recreatedInside : List (Act (Fin 3)) :=
  [.fetch 0 (.found false), .lockFor 0, .tryLock 0, .fetch 1 .notFound, .forgetCR 1,
    .fetch 2 (.found false), .lockFor 2, .tryLock 2]

/-- A call unlocks; before it drops the bag a second locks, then a third starts. -/
def droppedUnlocked : List (Act (Fin 3)) :=
  [.fetch 0 (.found true), .fetch 1 (.found true), .lockFor 0, .tryLock 0, .lockFor 1,
    .reconcileDeletion 0 true, .unlock 0, .tryLock 1, .forgetCR 0,
    .fetch 2 (.found true), .lockFor 2, .tryLock 2]

/-- Either way two calls are inside the lock at once. -/
theorem reconcile_overlaps :
    ¬ (Machine.run step recreatedInside Registry.empty).Exclusive ∧
      ¬ (Machine.run step droppedUnlocked Registry.empty).Exclusive := by
  constructor
  · intro exclusive
    have same := exclusive 0 2 (by decide) (by decide)
    cases same
  · intro exclusive
    have same := exclusive 1 2 (by decide) (by decide)
    cases same

/-- Two calls contend for the lock under deletion, and a third misses the CR. -/
def deletedQuietly : List (Act (Fin 3)) :=
  [.fetch 0 (.found true), .fetch 1 (.found true), .lockFor 0, .tryLock 0, .lockFor 1, .tryLock 1,
    .reconcileDeletion 0 true, .touch, .unlock 0, .forgetCR 0, .fetch 2 .notFound, .forgetCR 2]

theorem reconcile_exclusive_deleted :
    Machine.Meets step Unused (deletedQuietly.take 7 ++ deletedQuietly.drop 7) Registry.empty ∧
      (Machine.run step (deletedQuietly.take 7) Registry.empty).Exclusive :=
  ⟨by decide,
    reconcile_exclusive (deletedQuietly.take 7) (deletedQuietly.drop 7) (by decide)⟩

end Velkir.Lock
