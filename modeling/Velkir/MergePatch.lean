import Mathlib.Tactic.TypeStar

/-!
# Three-way merge patches

A patch from `base` to `target` carries the fields in which the two differ and overwrites only those
of a third value.
-/

/-- Values that a merge patch updates field by field. -/
class MergePatch (α : Type*) where
  /-- The value none of whose fields is encoded. -/
  blank : α
  /-- Apply to `stored` the patch computed from `base` to `target`. -/
  merge (base target stored : α) : α
  /-- A patch between equal values changes nothing. -/
  merge_self (base stored : α) : merge base base stored = stored
  /-- A patch applied to its own base yields its target. -/
  merge_base (base target : α) : merge base target base = target

namespace MergePatch

variable {α : Type*}

attribute [simp] merge_self merge_base

/-- Patch a value that is replaced as a whole. -/
def replace [DecidableEq α] (base target stored : α) : α :=
  if base = target then stored else target

@[simp]
theorem replace_self [DecidableEq α] (base stored : α) : replace base base stored = stored := by
  simp [replace]

@[simp]
theorem replace_base [DecidableEq α] (base target : α) : replace base target base = target := by
  simp +contextual [replace]

theorem replace_eq_or [DecidableEq α] (base target stored : α) :
    replace base target stored = target ∨ target = base := by
  unfold replace
  split
  · exact .inr (Eq.symm ‹_›)
  · exact .inl rfl

theorem replace_eq_target_or_stored [DecidableEq α] (base target stored : α) :
    replace base target stored = target ∨ replace base target stored = stored := by
  unfold replace
  split
  · exact .inr rfl
  · exact .inl rfl

theorem stored_or_set_of_replace_eq [DecidableEq α] {base target stored value : α}
    (left : replace base target stored = value) :
    stored = value ∨ target = value ∧ base ≠ value := by
  unfold replace at left
  split at left
  · exact .inl left
  · rename_i differs
    exact .inr ⟨left, fun same => differs (same.trans left.symm)⟩

/-- Patch an optional field; fields blank in the target survive. -/
def mergeOption [MergePatch α] [DecidableEq α] : Option α → Option α → Option α → Option α
  | none, none, stored => stored
  | some _, none, _ => none
  | none, some target, stored => some (merge blank target (stored.getD blank))
  | some base, some target, stored =>
      if base = target then stored else some (merge base target (stored.getD blank))

instance [MergePatch α] [DecidableEq α] : MergePatch (Option α) where
  blank := none
  merge := mergeOption
  merge_self := by rintro (_ | base) stored <;> simp [mergeOption]
  merge_base := by rintro (_ | base) (_ | target) <;> simp +contextual [mergeOption]

end MergePatch
