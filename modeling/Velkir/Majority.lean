import Mathlib.Data.List.Dedup
import Mathlib.Data.List.Perm.Basic

/-!
# Strict majorities

At most one candidate is named by more than half of the voters, in whatever order the votes are
visited.
-/

namespace Majority

variable {α : Type*} [DecidableEq α] {votes : List α} {a b : α} {voters : Nat}

/-- The entries of a map in the order in which they happen to be visited. -/
structure Iteration (α : Type*) where
  visit : List α → List α
  perm : ∀ entries, (visit entries).Perm entries

/-- Every candidate with its votes. -/
def tally (votes : List α) : List (α × Nat) := votes.dedup.map fun a => (a, votes.count a)

/-- The first candidate found with more than half of the voters behind it. -/
def winner (order : Iteration (α × Nat)) (voters : Nat) (votes : List α) : Option α :=
  ((order.visit (tally votes)).find? fun entry => voters < entry.2 * 2).map Prod.fst

theorem mem_tally {n : Nat} : (a, n) ∈ tally votes ↔ a ∈ votes ∧ votes.count a = n := by
  simp [tally]

theorem tally_perm {votes' : List α} (perm : votes.Perm votes') :
    (tally votes).Perm (tally votes') := by
  have same : tally votes' = votes'.dedup.map fun a => (a, votes.count a) := by
    simp only [tally, perm.count_eq]
  rw [same]
  exact perm.dedup.map _

theorem count_add_count_le (different : a ≠ b) :
    votes.count a + votes.count b ≤ votes.length := by
  induction votes with
  | nil => simp
  | cons vote votes ih =>
      rw [List.count_cons, List.count_cons, List.length_cons]
      by_cases first : vote = a
      · have other : vote ≠ b := first ▸ different
        simp only [first, beq_self_eq_true, if_true, beq_iff_eq, different, if_false]
        omega
      · simp only [beq_iff_eq, first, if_false]
        split <;> omega

theorem unique (enough : votes.length ≤ voters) (left : voters < votes.count a * 2)
    (right : voters < votes.count b * 2) : a = b := by
  by_contra different
  have bound : votes.count a + votes.count b ≤ votes.length := count_add_count_le different
  omega

variable {order : Iteration (α × Nat)}

private theorem most_of_found {entry : α × Nat}
    (found : ((order.visit (tally votes)).find? fun entry => voters < entry.2 * 2) = some entry) :
    voters < votes.count entry.1 * 2 := by
  have listed : entry ∈ tally votes :=
    (order.perm (tally votes)).mem_iff.mp (List.mem_of_find?_eq_some found)
  have most := List.find?_some found
  rw [(mem_tally.mp listed).2]
  exact of_decide_eq_true most

theorem winner_eq_some_iff (enough : votes.length ≤ voters) :
    winner order voters votes = some a ↔ voters < votes.count a * 2 := by
  constructor
  · intro won
    obtain ⟨entry, found, rfl⟩ := Option.map_eq_some_iff.mp won
    exact most_of_found found
  · intro most
    have named : a ∈ votes := List.count_pos_iff.mp (by omega)
    have listed : (a, votes.count a) ∈ order.visit (tally votes) :=
      (order.perm (tally votes)).mem_iff.mpr (mem_tally.mpr ⟨named, rfl⟩)
    have some_found :
        ((order.visit (tally votes)).find? fun entry => voters < entry.2 * 2).isSome = true :=
      List.find?_isSome.mpr ⟨_, listed, decide_eq_true most⟩
    obtain ⟨entry, found⟩ := Option.isSome_iff_exists.mp some_found
    rw [winner, found, Option.map_some, unique enough (most_of_found found) most]

/-- The winner depends on the order of neither votes nor visits. -/
theorem winner_perm {order' : Iteration (α × Nat)} {votes' : List α}
    (enough : votes.length ≤ voters) (perm : votes.Perm votes') :
    winner order voters votes = winner order' voters votes' := by
  have enough' : votes'.length ≤ voters := perm.length_eq ▸ enough
  refine Option.ext fun a => ?_
  rw [winner_eq_some_iff enough, winner_eq_some_iff enough', perm.count_eq]

end Majority
