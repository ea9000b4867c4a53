import Mathlib.Data.List.Perm.Basic
import Mathlib.Order.Lattice

/-!
# The candidate with the most votes

Candidates are compared in any order, and ties settled by a commutative and associative rule.
-/

namespace Plurality

variable {α : Type*}

/-- The better of two candidates with their votes. -/
def better (pick : α → α → α) (left right : α × Nat) : α × Nat :=
  if left.2 < right.2 then right
  else if left.2 = right.2 then (pick left.1 right.1, left.2)
  else left

/-- The candidate that is left after all comparisons. -/
def leader (pick : α → α → α) (start : α) (counts : List (α × Nat)) : α :=
  (counts.foldl (better pick) (start, 0)).1

section Order

variable {pick : α → α → α} (comm : ∀ x y, pick x y = pick y x)
  (assoc : ∀ x y z, pick (pick x y) z = pick x (pick y z))

include comm in
private theorem better_comm (left right : α × Nat) :
    better pick left right = better pick right left := by
  unfold better
  rcases Nat.lt_trichotomy left.2 right.2 with less | same | more
  · simp [less, Nat.lt_asymm less, Nat.ne_of_gt less]
  · simp [same, comm left.1]
  · simp [more, Nat.lt_asymm more, Nat.ne_of_gt more]

include assoc in
private theorem better_assoc (first second third : α × Nat) :
    better pick (better pick first second) third =
      better pick first (better pick second third) := by
  unfold better
  grind

include comm assoc in
theorem leader_perm {start : α} {counts counts' : List (α × Nat)} (perm : counts.Perm counts') :
    leader pick start counts = leader pick start counts' := by
  have swap : ∀ lead x y,
      better pick (better pick lead x) y = better pick (better pick lead y) x := by
    intro lead x y
    rw [better_assoc assoc, better_comm comm x y, ← better_assoc assoc]
  unfold leader
  rw [perm.foldl_eq' (fun x _ y _ lead => swap lead x y) (start, 0)]

end Order

/-- The better of two equals: the incumbent, or the smaller. -/
def prefer [LinearOrder α] (incumbent x y : α) : α :=
  if x = incumbent then x else if y = incumbent then y else if x < y then x else y

section Prefer

variable [LinearOrder α] (incumbent : α)

theorem prefer_comm (x y : α) : prefer incumbent x y = prefer incumbent y x := by
  unfold prefer
  grind

theorem prefer_assoc (x y z : α) :
    prefer incumbent (prefer incumbent x y) z = prefer incumbent x (prefer incumbent y z) := by
  unfold prefer
  grind

variable {counts : List (α × Nat)} {votes : Nat}

private theorem foldl_better_incumbent (most : ∀ entry ∈ counts, entry.2 ≤ votes) :
    counts.foldl (better (prefer incumbent)) (incumbent, votes) = (incumbent, votes) := by
  induction counts with
  | nil => rfl
  | cons entry counts ih =>
      rw [List.forall_mem_cons] at most
      have stays : better (prefer incumbent) (incumbent, votes) entry = (incumbent, votes) := by
        unfold better prefer
        simp [Nat.not_lt.mpr most.1]
      rw [List.foldl_cons, stays]
      exact ih most.2

theorem leader_incumbent {start : α} (positive : 0 < votes) (listed : (incumbent, votes) ∈ counts)
    (most : ∀ entry ∈ counts, entry.2 ≤ votes) :
    leader (prefer incumbent) start counts = incumbent := by
  have front : leader (prefer incumbent) start counts =
      leader (prefer incumbent) start ((incumbent, votes) :: counts.erase (incumbent, votes)) :=
    leader_perm (prefer_comm incumbent) (prefer_assoc incumbent) (List.perm_cons_erase listed)
  have first : better (prefer incumbent) (start, 0) (incumbent, votes) = (incumbent, votes) := by
    simp [better, positive]
  rw [front, leader, List.foldl_cons, first, foldl_better_incumbent]
  exact fun entry later => most entry (List.mem_of_mem_erase later)

end Prefer

end Plurality
