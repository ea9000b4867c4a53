import Mathlib.Data.List.Sort

/-!
# Merging sorted lists without repetitions

Two sorted lists are merged from the front. A value is left out if it is the last one written.
-/

namespace SortedUnion

variable {α : Type*} [LinearOrder α] {as bs out : List α} {v x : α}

/-- Write a value unless it is the last one written. -/
def appendUnique (out : List α) (v : α) : List α :=
  if out.getLast? = some v then out else out ++ [v]

/-- Merge what is left of both lists behind what is written. -/
def mergeLoop : List α → List α → List α → List α
  | a :: as, b :: bs, out =>
      if a < b then mergeLoop as (b :: bs) (appendUnique out a)
      else if b < a then mergeLoop (a :: as) bs (appendUnique out b)
      else mergeLoop as bs (appendUnique out a)
  | as, bs, out => bs.foldl appendUnique (as.foldl appendUnique out)

/-- Merge two sorted lists. -/
def mergeSortedUnique (as bs : List α) : List α := mergeLoop as bs []

/-- Written without repetitions, and nothing that is left comes before. -/
structure Written (out rest : List α) : Prop where
  strict : out.Pairwise (· < ·)
  before : ∀ x ∈ out, ∀ y ∈ rest, x ≤ y

private theorem getLast?_eq_some_of_mem (strict : out.Pairwise (· < ·)) (mem : v ∈ out)
    (greatest : ∀ x ∈ out, x ≤ v) : out.getLast? = some v := by
  rcases List.eq_nil_or_concat out with rfl | ⟨front, last, rfl⟩
  · cases mem
  · rw [List.concat_eq_append] at strict mem greatest ⊢
    rw [List.getLast?_concat]
    rcases List.mem_append.mp mem with earlier | final
    · have less := (List.pairwise_append.mp strict).2.2 v earlier last (by simp)
      exact absurd (greatest last (by simp)) (not_le_of_gt less)
    · rw [List.mem_singleton.mp final]

theorem mem_appendUnique : x ∈ appendUnique out v ↔ x ∈ out ∨ x = v := by
  unfold appendUnique
  split
  next last =>
    have mem := List.mem_of_getLast? last
    constructor
    · exact .inl
    · rintro (old | rfl)
      · exact old
      · exact mem
  next => simp

theorem Written.append {rest : List α} (written : Written out (v :: rest))
    (first : ∀ y ∈ rest, v ≤ y) : Written (appendUnique out v) rest := by
  have below : ∀ x ∈ out, x ≤ v := fun x mem => written.before x mem v (by simp)
  constructor
  · unfold appendUnique
    split
    next => exact written.strict
    next different =>
      refine List.pairwise_append.mpr ⟨written.strict, List.pairwise_singleton _ v, ?_⟩
      intro x mem y last
      rw [List.mem_singleton.mp last]
      refine lt_of_le_of_ne (below x mem) ?_
      rintro rfl
      exact different (getLast?_eq_some_of_mem written.strict mem below)
  · intro x mem y left
    rcases mem_appendUnique.mp mem with old | rfl
    · exact written.before x old y (List.mem_cons_of_mem _ left)
    · exact first y left

private theorem Written.mono {rest less : List α} (written : Written out rest) (sub : less ⊆ rest) :
    Written out less :=
  ⟨written.strict, fun x mem y left => written.before x mem y (sub left)⟩

private theorem Written.foldl {rest : List α} (written : Written out (as ++ rest))
    (sorted : (as ++ rest).Pairwise (· ≤ ·)) :
    Written (as.foldl appendUnique out) rest ∧
      ∀ x, x ∈ as.foldl appendUnique out ↔ x ∈ out ∨ x ∈ as := by
  induction as generalizing out with
  | nil => exact ⟨written, by simp⟩
  | cons a as ih =>
      obtain ⟨first, sorted⟩ := List.pairwise_cons.mp sorted
      obtain ⟨strict, members⟩ := ih (written.append first) sorted
      refine ⟨strict, fun x => ?_⟩
      rw [List.foldl_cons, members, mem_appendUnique, List.mem_cons, or_assoc]

private theorem Written.mergeLoop (written : Written out (as ++ bs)) (left : as.Pairwise (· ≤ ·))
    (right : bs.Pairwise (· ≤ ·)) :
    (mergeLoop as bs out).Pairwise (· < ·) ∧
      ∀ x, x ∈ mergeLoop as bs out ↔ x ∈ out ∨ x ∈ as ∨ x ∈ bs := by
  fun_induction SortedUnion.mergeLoop as bs out with
  | case1 a as b bs out less ih =>
      obtain ⟨first, left⟩ := List.pairwise_cons.mp left
      have least : ∀ y ∈ as ++ b :: bs, a ≤ y := by
        intro y mem
        rcases List.mem_append.mp mem with own | other
        · exact first y own
        · rcases List.mem_cons.mp other with rfl | later
          · exact less.le
          · exact less.le.trans ((List.pairwise_cons.mp right).1 y later)
      obtain ⟨strict, members⟩ := ih (written.append least) left right
      refine ⟨strict, fun x => ?_⟩
      rw [members, mem_appendUnique, List.mem_cons, List.mem_cons]
      simp only [or_assoc]
  | case2 a as b bs out _ less ih =>
      obtain ⟨first, right⟩ := List.pairwise_cons.mp right
      have least : ∀ y ∈ (a :: as) ++ bs, b ≤ y := by
        intro y mem
        rcases List.mem_append.mp mem with other | own
        · rcases List.mem_cons.mp other with rfl | later
          · exact less.le
          · exact less.le.trans ((List.pairwise_cons.mp left).1 y later)
        · exact first y own
      have turned : Written out (b :: ((a :: as) ++ bs)) :=
        written.mono List.perm_middle.symm.subset
      obtain ⟨strict, members⟩ := ih (turned.append least) left right
      refine ⟨strict, fun x => ?_⟩
      rw [members, mem_appendUnique, List.mem_cons, List.mem_cons]
      simp only [or_assoc, or_left_comm]
  | case3 a as b bs out above below ih =>
      obtain rfl : a = b := le_antisymm (not_lt.mp below) (not_lt.mp above)
      obtain ⟨firstLeft, left⟩ := List.pairwise_cons.mp left
      obtain ⟨firstRight, right⟩ := List.pairwise_cons.mp right
      have least : ∀ y ∈ as ++ bs, a ≤ y := by
        intro y mem
        exact (List.mem_append.mp mem).elim (firstLeft y) (firstRight y)
      have fewer : List.Sublist (as ++ bs) (as ++ a :: bs) :=
        (List.sublist_cons_self a bs).append_left as
      have once : Written out (a :: (as ++ bs)) := written.mono (fewer.cons_cons a).subset
      obtain ⟨strict, members⟩ := ih (once.append least) left right
      refine ⟨strict, fun x => ?_⟩
      rw [members, mem_appendUnique, List.mem_cons, List.mem_cons]
      simp only [or_assoc, or_left_comm, or_self_left]
  | case4 as bs out rest =>
      have sorted : (as ++ bs).Pairwise (· ≤ ·) := by
        cases as with
        | nil => exact right
        | cons a as =>
            cases bs with
            | nil => rwa [List.append_nil]
            | cons b bs => exact absurd rfl (rest a as b bs rfl)
      obtain ⟨half, membersLeft⟩ := written.foldl sorted
      rw [← List.append_nil bs] at half
      obtain ⟨whole, membersRight⟩ := half.foldl (by rwa [List.append_nil])
      refine ⟨whole.strict, fun x => ?_⟩
      rw [membersRight, membersLeft, or_assoc]

theorem mergeSortedUnique_spec (left : as.Pairwise (· ≤ ·)) (right : bs.Pairwise (· ≤ ·)) :
    (mergeSortedUnique as bs).Pairwise (· < ·) ∧
      ∀ x, x ∈ mergeSortedUnique as bs ↔ x ∈ as ∨ x ∈ bs := by
  have start : Written [] (as ++ bs) := ⟨.nil, by simp⟩
  simpa [mergeSortedUnique] using start.mergeLoop left right

end SortedUnion
