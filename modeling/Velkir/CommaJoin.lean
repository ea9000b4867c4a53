import Mathlib.Data.String.Basic

/-!
# Joining with commas

Texts that are not empty and have no comma can be told apart after they are joined with commas.
-/

namespace CommaJoin

/-- A text that can be joined with others. -/
def Piece (text : String) : Prop := text ≠ "" ∧ ',' ∉ text.toList

instance (text : String) : Decidable (Piece text) := inferInstanceAs (Decidable (_ ∧ _))

variable {left right : List String}

theorem splitOn_intercalate (pieces : ∀ text ∈ left, Piece text) (some : left ≠ []) :
    (",".intercalate left).toList.splitOn ',' = left.map String.toList := by
  rw [String.toList_intercalate]
  refine List.splitOn_intercalate ',' ?_ (by simpa using some)
  simpa using fun text mem => (pieces text mem).2

theorem intercalate_ne_empty (pieces : ∀ text ∈ left, Piece text) (some : left ≠ []) :
    ",".intercalate left ≠ "" := by
  intro empty
  have split := splitOn_intercalate pieces some
  rw [empty] at split
  obtain ⟨text, rfl⟩ : ∃ text, left = [text] := List.length_eq_one_iff.mp (by
    simpa using (congrArg List.length split).symm)
  have blank : text.toList = [] := by simpa using split.symm
  exact (pieces text (by simp)).1 (String.toList_eq_nil_iff.mp blank)

theorem intercalate_inj (piecesLeft : ∀ text ∈ left, Piece text)
    (piecesRight : ∀ text ∈ right, Piece text) :
    ",".intercalate left = ",".intercalate right ↔ left = right := by
  refine ⟨fun same => ?_, congrArg _⟩
  rcases eq_or_ne left [] with rfl | someLeft
  · by_contra other
    rw [String.intercalate_nil] at same
    exact intercalate_ne_empty piecesRight (Ne.symm other) same.symm
  · rcases eq_or_ne right [] with rfl | someRight
    · rw [String.intercalate_nil] at same
      exact absurd same (intercalate_ne_empty piecesLeft someLeft)
    · have split := splitOn_intercalate piecesLeft someLeft
      rw [same, splitOn_intercalate piecesRight someRight] at split
      exact (List.map_injective_iff.mpr (fun _ _ => String.toList_injective) split).symm

end CommaJoin
