import Velkir.Replace

/-!
# Parts that do not overlap

A part is clear of a text if it cannot begin inside it. Words clear of each other never share a
letter.
-/

namespace Replace

variable {α : Type*} {old new part part' text front back : List α}

/-- The part does not begin inside the text, whatever follows it. -/
def Clear (part text : List α) : Prop :=
  ∀ tail, tail <:+ text → tail ≠ [] → ¬tail <+: part ∧ ¬part <+: tail

/-- Occurrences of the two words never share a letter. -/
def Apart (part part' : List α) : Prop := Clear part part' ∧ Clear part' part

theorem Apart.symm (apart : Apart part part') : Apart part' part := ⟨apart.2, apart.1⟩

/-- The word occurs behind the text, and none begins in the text. -/
def First (old front : List α) : Prop :=
  ∀ last, last <:+ front → last ≠ [] → ¬old <+: last ++ old

theorem First.nil {old : List α} : First old [] :=
  fun _ ends some => absurd (List.suffix_nil.mp ends) some

/-- The new word completes no beginning of the part where it is put in. -/
def Uncompleted (old new part : List α) : Prop :=
  ∀ front tail, part = front ++ tail → tail ≠ [] → First old front → ¬tail <+: new ∧ ¬new <+: tail

/-- Putting in the new word for the old one never makes the part. -/
def Unmade (old new part : List α) : Prop := Clear part new ∧ Uncompleted old new part

theorem Clear.uncompleted (clear : Clear new part) (old : List α) : Uncompleted old new part :=
  fun front tail whole some _ => clear tail ⟨front, whole.symm⟩ some

theorem Apart.unmade (apart : Apart part new) (old : List α) : Unmade old new part :=
  ⟨apart.1, apart.2.uncompleted old⟩

variable {head : α} {rest : List α}

private theorem First.of_cons (first : First old (head :: rest)) : First old rest :=
  fun last inside => first last (inside.trans (List.suffix_cons head rest))

/-- The text in which the part is made. -/
theorem exists_of_not_unmade (made : ¬Unmade old new part) (someNew : new ≠ [])
    (somePart : part ≠ []) :
    ∃ front back, First old front ∧ part <:+: front ++ (new ++ back) ∧ front <:+: part ∧
      front.length < part.length ∧ back <:+: part ∧ back.length < part.length := by
  have nonempty := List.length_pos_iff.mpr somePart
  have nonemptyNew := List.length_pos_iff.mpr someNew
  rw [Unmade, not_and_or] at made
  rcases made with begins | reaches
  · simp only [Clear, not_forall, not_and_or, not_not] at begins
    obtain ⟨tail, ⟨rest, rfl⟩, some, ⟨back, rfl⟩ | ⟨more, rfl⟩⟩ := begins
    · have positive := List.length_pos_iff.mpr some
      exact ⟨[], back, .nil, ⟨rest, [], by simp⟩, List.nil_infix, nonempty,
        (List.suffix_append tail back).isInfix, by rw [List.length_append]; omega⟩
    · exact ⟨[], [], .nil, ⟨rest, more, by simp⟩, List.nil_infix, nonempty, List.nil_infix,
        nonempty⟩
  · simp only [Uncompleted, not_forall, not_and_or, not_not] at reaches
    obtain ⟨front, tail, rfl, some, first, ⟨rest, rfl⟩ | ⟨back, rfl⟩⟩ := reaches
    · have positive := List.length_pos_iff.mpr some
      exact ⟨front, [], first, ⟨[], rest, by simp⟩, (List.prefix_append front tail).isInfix,
        by rw [List.length_append]; omega, List.nil_infix, nonempty⟩
    · refine ⟨front, back, first, ⟨[], [], by simp⟩, (List.prefix_append front _).isInfix, ?_,
        ⟨front ++ new, [], by simp⟩, ?_⟩
      · rw [List.length_append, List.length_append]
        omega
      · rw [List.length_append, List.length_append]
        omega

theorem Clear.of_cons (clear : Clear part (head :: rest)) : Clear part rest :=
  fun tail inside => clear tail (inside.trans (List.suffix_cons head rest))

theorem Clear.not_prefix_append (clear : Clear part text) (nonempty : text ≠ []) :
    ¬part <+: text ++ back := by
  intro starts
  obtain ⟨shorter, longer⟩ := clear text List.suffix_rfl nonempty
  exact (List.prefix_or_prefix_of_prefix starts (List.prefix_append text back)).elim longer shorter

theorem Clear.infix_of_append (clear : Clear part text) (inside : part <:+: text ++ back) :
    part <:+: back := by
  induction text with
  | nil => exact inside
  | cons head rest ih =>
      rcases List.infix_cons_iff.mp inside with starts | later
      · exact absurd starts (clear.not_prefix_append (List.cons_ne_nil head rest))
      · exact ih clear.of_cons later

variable {first : α} {word : List α}

theorem clear_of_head (absent : first ∉ text) : Clear (first :: word) text := by
  intro tail ends some
  obtain ⟨head, rest, rfl⟩ := List.exists_cons_of_ne_nil some
  have listed : head ∈ text := ends.subset List.mem_cons_self
  refine ⟨fun starts => ?_, fun starts => ?_⟩
  · rw [List.cons_prefix_cons] at starts
    exact absent (starts.1 ▸ listed)
  · rw [List.cons_prefix_cons] at starts
    exact absent (starts.1 ▸ listed)

/-- A bracketed word is touched by no outside part without brackets. -/
theorem apart_of_brackets {last : α} (noFirst : first ∉ part) (noLast : last ∉ part)
    (outside : ¬part <:+: word) : Apart part (first :: (word ++ [last])) := by
  refine ⟨fun tail ends some => ?_, clear_of_head noFirst⟩
  have ends : tail <:+ (first :: word) ++ [last] := ends
  rcases List.suffix_concat_iff.mp ends with none | ⟨init, rfl, -⟩
  · exact absurd none some
  refine ⟨fun starts => noLast (starts.subset (by simp)), fun starts => ?_⟩
  have inside : part <:+: [] ++ first :: (word ++ last :: []) :=
    starts.isInfix.trans ends.isInfix
  rw [infix_append_sep_iff noFirst, infix_append_sep_iff noLast] at inside
  rcases inside with none | within | none
  · exact outside (List.infix_nil.mp none ▸ List.nil_infix)
  · exact outside within
  · exact outside (List.infix_nil.mp none ▸ List.nil_infix)

variable [DecidableEq α]

private theorem Clear.replaceAll_append (clear : Clear old text) :
    replaceAll old new (text ++ back) = text ++ replaceAll old new back := by
  induction text with
  | nil => rfl
  | cons head rest ih =>
      have other : ¬old <+: head :: (rest ++ back) :=
        clear.not_prefix_append (List.cons_ne_nil head rest)
      rw [List.cons_append, replaceAll_cons other, ih clear.of_cons, List.cons_append]

theorem First.replaceAll_append (first : First old front) (nonempty : old ≠ []) :
    replaceAll old new (front ++ (old ++ back)) = front ++ (new ++ replaceAll old new back) := by
  induction front with
  | nil => exact Replace.replaceAll_append nonempty
  | cons head rest ih =>
      have other : ¬old <+: head :: (rest ++ (old ++ back)) := fun starts =>
        first _ List.suffix_rfl (List.cons_ne_nil head rest)
          (List.prefix_of_prefix_length_le starts ⟨back, by simp⟩ (by simp; omega))
      rw [List.cons_append, replaceAll_cons other, ih first.of_cons, List.cons_append]

/-- A part that cannot be made was there before. -/
theorem Uncompleted.prefix_of_replaceAll (clear : Uncompleted old new part) (nonempty : old ≠ [])
    (kept : ∀ last, last <:+ front → last ≠ [] → ¬old <+: last ++ text)
    (starts : part <+: front ++ replaceAll old new text) : part <+: front ++ text := by
  induction text using induction_on nonempty generalizing front with
  | nil => exact starts
  | found rest ih =>
      rw [Replace.replaceAll_append nonempty] at starts
      rcases List.prefix_or_prefix_of_prefix starts (List.prefix_append front _) with
        early | ⟨tail, rfl⟩
      · exact early.trans (List.prefix_append front _)
      · rcases eq_or_ne tail [] with rfl | some
        · rw [List.append_nil]
          exact List.prefix_append front _
        · have first : First old front := fun last ends nonempty starts =>
            kept last ends nonempty (starts.trans ((List.prefix_append_right_inj last).mpr
              (List.prefix_append old rest)))
          have meets := List.prefix_or_prefix_of_prefix
            ((List.prefix_append_right_inj front).mp starts) (List.prefix_append new _)
          exact absurd meets (not_or_intro (clear front tail rfl some first).1
            (clear front tail rfl some first).2)
  | kept head rest other ih =>
      rw [replaceAll_cons other, List.append_cons] at starts
      rw [List.append_cons]
      refine ih (fun last ends nonempty starts => ?_) starts
      rcases List.suffix_concat_iff.mp ends with none | ⟨init, rfl, inside⟩
      · exact nonempty none
      · rw [← List.append_cons] at starts
        rcases eq_or_ne init [] with rfl | some
        · exact other starts
        · exact kept init inside some starts

theorem Uncompleted.prefix_cons_of_replaceAll (clear : Uncompleted old new part)
    (nonempty : old ≠ []) (other : ¬old <+: head :: text)
    (starts : part <+: head :: replaceAll old new text) : part <+: head :: text := by
  rw [← List.singleton_append] at starts ⊢
  refine clear.prefix_of_replaceAll nonempty (fun last ends some => ?_) starts
  rcases List.suffix_cons_iff.mp ends with rfl | none
  · exact other
  · exact absurd (List.suffix_nil.mp none) some

/-- A part that cannot be made was there before. -/
theorem Unmade.infix_of_replaceAll (unmade : Unmade old new part) (nonempty : old ≠ [])
    (inside : part <:+: replaceAll old new text) : part <:+: text := by
  induction text using induction_on nonempty with
  | nil => exact inside
  | found rest ih =>
      rw [Replace.replaceAll_append nonempty] at inside
      have later := ih (unmade.1.infix_of_append inside)
      exact later.trans (List.suffix_append old rest).isInfix
  | kept head rest other ih =>
      rw [replaceAll_cons other] at inside
      rw [List.infix_cons_iff] at inside ⊢
      exact inside.imp (unmade.2.prefix_cons_of_replaceAll nonempty other) ih

/-- A part is gone after it was replaced by a word that cannot make it again. -/
theorem Unmade.not_infix_replaceAll (unmade : Unmade old new old) (nonempty : old ≠ [])
    (text : List α) : ¬old <:+: replaceAll old new text := by
  induction text using induction_on nonempty with
  | nil => exact fun inside => nonempty (List.infix_nil.mp inside)
  | found rest ih =>
      rw [Replace.replaceAll_append nonempty]
      exact fun inside => ih (unmade.1.infix_of_append inside)
  | kept head rest other ih =>
      rw [replaceAll_cons other, List.infix_cons_iff]
      rintro (starts | later)
      · exact other (unmade.2.prefix_cons_of_replaceAll nonempty other starts)
      · exact ih later

section Commute

variable {left right : List α} (apart : Apart left right) (someLeft : left ≠ [])
  (someRight : right ≠ [])
include apart someLeft

private theorem Apart.replaceAll_found (clear : Clear right new)
    (same : replaceAll left new (replaceAll right new back) =
      replaceAll right new (replaceAll left new back)) :
    replaceAll left new (replaceAll right new (left ++ back)) =
      replaceAll right new (replaceAll left new (left ++ back)) := by
  rw [apart.2.replaceAll_append, Replace.replaceAll_append someLeft,
    Replace.replaceAll_append someLeft, same, clear.replaceAll_append]

include someRight

/-- Parts that neither touch nor make each other can be replaced in any order. -/
theorem Apart.replaceAll_comm (unmadeLeft : Unmade right new left)
    (unmadeRight : Unmade left new right) (text : List α) :
    replaceAll left new (replaceAll right new text) =
      replaceAll right new (replaceAll left new text) := by
  induction length : text.length using Nat.strongRecOn generalizing text with
  | ind n ih =>
      have shorter : ∀ {part back : List α}, part ≠ [] → part ++ back = text →
          back.length < n := by
        intro part back nonempty whole
        rw [← length, ← whole, List.length_append]
        have := List.length_pos_iff.mpr nonempty
        omega
      by_cases startsLeft : left <+: text
      · obtain ⟨back, whole⟩ := startsLeft
        have same := ih back.length (shorter someLeft whole) back rfl
        rw [← whole]
        exact apart.replaceAll_found someLeft unmadeRight.1 same
      by_cases startsRight : right <+: text
      · obtain ⟨back, whole⟩ := startsRight
        have same := ih back.length (shorter someRight whole) back rfl
        rw [← whole]
        exact (apart.symm.replaceAll_found someRight unmadeLeft.1 same.symm).symm
      cases text with
      | nil => rfl
      | cons head rest =>
          have same := ih rest.length (by rw [← length]; simp) rest rfl
          have keptLeft : ¬left <+: head :: replaceAll right new rest := fun starts =>
            startsLeft (unmadeLeft.2.prefix_cons_of_replaceAll someRight startsRight starts)
          have keptRight : ¬right <+: head :: replaceAll left new rest := fun starts =>
            startsRight (unmadeRight.2.prefix_cons_of_replaceAll someLeft startsLeft starts)
          rw [replaceAll_cons startsRight, replaceAll_cons startsLeft, replaceAll_cons keptLeft,
            replaceAll_cons keptRight, same]

end Commute

end Replace
