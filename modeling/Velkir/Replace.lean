import Mathlib.Data.List.Infix

/-!
# Replacing a part of a text

Occurrences are replaced from the left. A separator cuts the text into pieces that are treated one
by one.
-/

namespace Replace

variable {α : Type*} [DecidableEq α] {old new text front back piece : List α} {sep : α}

/-- The text with `old` replaced; `skip` characters still belong to one. -/
def replaceFrom (old new : List α) : Nat → List α → List α
  | _, [] => []
  | skip + 1, _ :: rest => replaceFrom old new skip rest
  | 0, head :: rest =>
      if old <+: head :: rest then new ++ replaceFrom old new (old.length - 1) rest
      else head :: replaceFrom old new 0 rest

/-- Replace every occurrence. -/
def replaceAll (old new text : List α) : List α := replaceFrom old new 0 text

@[simp]
theorem replaceAll_nil : replaceAll old new [] = [] := rfl

private theorem replaceFrom_eq (skip : Nat) (text : List α) :
    replaceFrom old new skip text = replaceAll old new (text.drop skip) := by
  induction text generalizing skip with
  | nil => cases skip <;> rfl
  | cons head rest ih =>
      cases skip with
      | zero => rfl
      | succ skip => exact ih skip

theorem replaceAll_append (nonempty : old ≠ []) :
    replaceAll old new (old ++ back) = new ++ replaceAll old new back := by
  obtain ⟨head, rest, rfl⟩ := List.exists_cons_of_ne_nil nonempty
  have starts : head :: rest <+: head :: (rest ++ back) := List.prefix_append (head :: rest) back
  rw [replaceAll, List.cons_append, replaceFrom, if_pos starts, replaceFrom_eq]
  simp

theorem replaceAll_cons {head : α} {rest : List α} (other : ¬old <+: head :: rest) :
    replaceAll old new (head :: rest) = head :: replaceAll old new rest := by
  rw [replaceAll, replaceFrom, if_neg other]
  rfl

/-- A text is gone through as the replacement goes through it. -/
theorem induction_on {motive : List α → Prop} (nonempty : old ≠ []) (nil : motive [])
    (found : ∀ back, motive back → motive (old ++ back))
    (kept : ∀ head rest, ¬old <+: head :: rest → motive rest → motive (head :: rest))
    (text : List α) : motive text := by
  induction length : text.length using Nat.strongRecOn generalizing text with
  | ind n ih =>
      cases text with
      | nil => exact nil
      | cons head rest =>
          by_cases starts : old <+: head :: rest
          · obtain ⟨back, whole⟩ := starts
            rw [← whole] at length ⊢
            have positive := List.length_pos_iff.mpr nonempty
            rw [List.length_append] at length
            exact found back (ih back.length (by omega) back rfl)
          · rw [List.length_cons] at length
            exact kept head rest starts (ih rest.length (by omega) rest rfl)

omit [DecidableEq α] in
theorem prefix_of_append_sep (clean : sep ∉ old) (starts : old <+: front ++ sep :: back) :
    old <+: front := by
  obtain ⟨rest, whole⟩ := starts
  rcases List.append_eq_append_iff.mp whole with ⟨cut, inside, -⟩ | ⟨extra, beyond, tail⟩
  · exact ⟨cut, inside.symm⟩
  · cases extra with
    | nil => exact ⟨[], by rw [beyond, List.append_nil, List.append_nil]⟩
    | cons head extra =>
        rw [List.cons_append, List.cons.injEq] at tail
        exact absurd (by rw [beyond, tail.1]; simp) clean

omit [DecidableEq α] in
theorem infix_append_sep_iff (clean : sep ∉ old) :
    old <:+: front ++ sep :: back ↔ old <:+: front ∨ old <:+: back := by
  constructor
  · intro inside
    induction front with
    | nil =>
        rcases List.infix_cons_iff.mp inside with starts | later
        · have empty : old <+: [] := prefix_of_append_sep clean starts
          exact .inl empty.isInfix
        · exact .inr later
    | cons head rest ih =>
        rcases List.infix_cons_iff.mp inside with starts | later
        · have early : old <+: head :: rest := prefix_of_append_sep clean starts
          exact .inl early.isInfix
        · exact (ih later).imp_left fun inside => List.infix_cons_iff.mpr (.inr inside)
  · rintro (inside | inside)
    · exact inside.trans (List.prefix_append front (sep :: back)).isInfix
    · exact inside.trans ((List.suffix_cons sep back).trans
        (List.suffix_append front (sep :: back))).isInfix

omit [DecidableEq α] in
/-- Lines contain a part within one line exactly when one of them does. -/
theorem infix_flatMap_iff {lines : List (List α)} (nonempty : old ≠ []) (clean : sep ∉ old) :
    old <:+: lines.flatMap (· ++ [sep]) ↔ ∃ line ∈ lines, old <:+: line := by
  induction lines with
  | nil => simp [nonempty]
  | cons line lines ih =>
      rw [List.flatMap_cons, List.append_assoc, List.singleton_append,
        infix_append_sep_iff clean, ih]
      simp

omit [DecidableEq α] in
private theorem infix_intercalate (sep : α) {pieces : List (List α)} (listed : piece ∈ pieces) :
    piece <:+: [sep].intercalate pieces := by
  induction pieces with
  | nil => cases listed
  | cons first others ih =>
      cases others with
      | nil =>
          rw [List.mem_singleton.mp listed, List.intercalate_singleton]
      | cons second others =>
          rw [List.intercalate_cons_cons]
          rcases List.mem_cons.mp listed with rfl | later
          · rw [List.append_assoc]
            exact (List.prefix_append piece _).isInfix
          · exact (ih later).trans (List.suffix_append (first ++ [sep]) _).isInfix

theorem infix_of_mem_splitOn (inside : piece ∈ text.splitOn sep) : piece <:+: text := by
  have inside := infix_intercalate sep inside
  rwa [List.intercalate_splitOn] at inside

private theorem replaceAll_append_sep (nonempty : old ≠ []) (clean : sep ∉ old) :
    replaceAll old new (front ++ sep :: back) =
      replaceAll old new front ++ sep :: replaceAll old new back := by
  induction front using induction_on nonempty with
  | nil =>
      rw [List.nil_append, replaceAll_nil, List.nil_append, replaceAll_cons]
      intro starts
      have empty : old <+: [] := prefix_of_append_sep clean starts
      exact nonempty (List.prefix_nil.mp empty)
  | found rest ih =>
      rw [List.append_assoc, replaceAll_append nonempty, replaceAll_append nonempty, ih,
        List.append_assoc]
  | kept head rest other ih =>
      have still : ¬old <+: head :: (rest ++ sep :: back) := fun starts =>
        other (prefix_of_append_sep clean starts)
      rw [List.cons_append, replaceAll_cons still, replaceAll_cons other, ih, List.cons_append]

theorem replaceAll_append_of_ends (nonempty : old ≠ []) (clean : sep ∉ old)
    (ends : front.getLast? = some sep) :
    replaceAll old new (front ++ back) = replaceAll old new front ++ replaceAll old new back := by
  obtain ⟨start, rfl⟩ := List.getLast?_eq_some_iff.mp ends
  rw [List.append_assoc, List.singleton_append, replaceAll_append_sep nonempty clean,
    replaceAll_append_sep nonempty clean, replaceAll_nil, List.append_assoc, List.singleton_append]

omit [DecidableEq α] in
theorem infix_append_of_ends (clean : sep ∉ old) (ends : front.getLast? = some sep) :
    old <:+: front ++ back ↔ old <:+: front ∨ old <:+: back := by
  obtain ⟨start, rfl⟩ := List.getLast?_eq_some_iff.mp ends
  have alone : old <:+: start ++ [sep] ↔ old <:+: start ∨ old <:+: [] :=
    infix_append_sep_iff clean
  rw [List.append_assoc, List.singleton_append, infix_append_sep_iff clean, alone]
  constructor
  · exact Or.imp_left .inl
  · rintro ((inside | empty) | inside)
    · exact .inl inside
    · exact .inl (List.infix_nil.mp empty ▸ List.nil_infix)
    · exact .inr inside

theorem infix_splitOn (nonempty : old ≠ []) (clean : sep ∉ old) (inside : old <:+: text) :
    ∃ piece ∈ text.splitOn sep, old <:+: piece := by
  have whole : [sep].intercalate (text.splitOn sep) = text := List.intercalate_splitOn sep
  rw [← whole] at inside
  generalize text.splitOn sep = pieces at inside
  induction pieces with
  | nil => exact absurd (List.infix_nil.mp inside) nonempty
  | cons first others ih =>
      cases others with
      | nil =>
          rw [List.intercalate_singleton] at inside
          exact ⟨first, by simp, inside⟩
      | cons second others =>
          rw [List.intercalate_cons_cons, List.append_assoc, List.singleton_append,
            infix_append_sep_iff clean] at inside
          rcases inside with here | later
          · exact ⟨first, by simp, here⟩
          · obtain ⟨piece, listed, contains⟩ := ih later
            exact ⟨piece, List.mem_cons_of_mem _ listed, contains⟩

private theorem length_replaceAll (new text : List α) (nonempty : old ≠ []) :
    ∃ count, (replaceAll old new text).length + count * old.length =
      text.length + count * new.length := by
  induction text using induction_on nonempty with
  | nil => exact ⟨0, by simp⟩
  | found rest ih =>
      obtain ⟨count, balance⟩ := ih
      refine ⟨count + 1, ?_⟩
      rw [replaceAll_append nonempty, List.length_append, List.length_append, Nat.add_mul,
        Nat.add_mul]
      omega
  | kept head rest other ih =>
      obtain ⟨count, balance⟩ := ih
      refine ⟨count, ?_⟩
      rw [replaceAll_cons other, List.length_cons, List.length_cons]
      omega

theorem exists_replaceAll (new : List α) (nonempty : old ≠ []) (inside : old <:+: text) :
    ∃ front back, text = front ++ (old ++ back) ∧
      replaceAll old new text = front ++ (new ++ replaceAll old new back) := by
  induction text using induction_on nonempty with
  | nil => exact absurd (List.infix_nil.mp inside) nonempty
  | found rest ih => exact ⟨[], rest, rfl, replaceAll_append nonempty⟩
  | kept head rest other ih =>
      rcases List.infix_cons_iff.mp inside with starts | later
      · exact absurd starts other
      · obtain ⟨front, back, whole, replaced⟩ := ih later
        exact ⟨head :: front, back, by rw [whole, List.cons_append],
          by rw [replaceAll_cons other, replaced, List.cons_append]⟩

theorem replaceAll_of_absent (outside : ¬old <:+: text) : replaceAll old new text = text := by
  induction text with
  | nil => rfl
  | cons head rest ih =>
      rw [List.infix_cons_iff, not_or] at outside
      rw [replaceAll_cons outside.1, ih outside.2]

theorem replaceAll_eq_nil_iff (some : new ≠ []) : replaceAll old new text = [] ↔ text = [] := by
  refine ⟨fun none => ?_, fun none => by rw [none, replaceAll_nil]⟩
  cases text with
  | nil => rfl
  | cons head rest =>
      rw [replaceAll, replaceFrom] at none
      split at none
      next => exact absurd (List.append_eq_nil_iff.mp none).1 some
      next => cases none

theorem replaceAll_self (nonempty : old ≠ []) (text : List α) : replaceAll old old text = text := by
  induction text using induction_on nonempty with
  | nil => rfl
  | found rest ih => rw [replaceAll_append nonempty, ih]
  | kept head rest other ih => rw [replaceAll_cons other, ih]

/-- Putting something else in changes exactly the texts that contain the part. -/
theorem replaceAll_eq_self_iff (nonempty : old ≠ []) (different : new ≠ old) :
    replaceAll old new text = text ↔ ¬old <:+: text := by
  constructor
  · intro same inside
    obtain ⟨front, back, whole, replaced⟩ := exists_replaceAll new nonempty inside
    rw [same, whole, List.append_cancel_left_eq] at replaced
    have lengths := congrArg List.length replaced
    rw [List.length_append, List.length_append] at lengths
    obtain ⟨count, balance⟩ := length_replaceAll new back nonempty
    have scaled : (count + 1) * old.length = (count + 1) * new.length := by
      rw [Nat.add_mul, Nat.add_mul]
      omega
    have equal := Nat.eq_of_mul_eq_mul_left count.succ_pos scaled
    exact different (List.append_inj_left replaced equal).symm
  · exact replaceAll_of_absent

end Replace
