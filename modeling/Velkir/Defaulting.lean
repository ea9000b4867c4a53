import Mathlib.Data.Option.Basic

/-!
# Filling the fields that were left out

Defaulting fills a field that was left out, an edit sets a field or entries of a section. Both
orders are compared.
-/

namespace Defaulting

section Fields

variable {α : Type*}

/-- The edit leaves the field alone if it changed from one value to the other. -/
def Leaves (edit : Option α) (before after : α) : Prop :=
  after ≠ before → edit = none

variable [Inhabited α] [DecidableEq α]

/-- The field, or this value if it was left out. -/
def fill (value field : α) : α :=
  if field = default then value else field

@[simp]
theorem fill_default (value : α) : fill value default = value := if_pos rfl

theorem fill_of_ne (value : α) {field : α} (present : field ≠ default) : fill value field = field :=
  if_neg present

@[simp]
theorem fill_none {β : Type*} [DecidableEq β] (value : Option β) : fill value none = value :=
  fill_default value

@[simp]
theorem fill_some {β : Type*} [DecidableEq β] (value : Option β) (field : β) :
    fill value (some field) = some field :=
  fill_of_ne value (Option.some_ne_none field)

@[simp]
theorem fill_fill (value field : α) : fill value (fill value field) = fill value field := by
  by_cases missing : field = default
  · simp [missing, fill]
  · simp only [fill_of_ne value missing]

/-- Filling changes only a field left out that there is a value for. -/
theorem fill_ne_iff {value field : α} :
    fill value field ≠ field ↔ field = default ∧ value ≠ default := by
  by_cases missing : field = default
  · subst missing
    simp
  · simp [fill_of_ne, missing]

/-- Filling before an edit shows if the edited record would get another value. -/
theorem fill_edit_iff {edit : Option α} {value field : α} (later : α)
    (leaves : Leaves edit field (fill value field)) :
    fill later (edit.getD field) = fill later (edit.getD (fill value field)) ↔
      (field = default → value ≠ default → later = value) := by
  by_cases filled : fill value field = field
  · have idle : field = default → ¬value ≠ default := fun missing present =>
      fill_ne_iff.mpr ⟨missing, present⟩ filled
    rw [filled]
    exact ⟨fun _ missing present => absurd present (idle missing), fun _ => rfl⟩
  · obtain ⟨rfl, present⟩ := fill_ne_iff.mp filled
    rw [leaves filled]
    simp [fill_of_ne, present]

/-- A fixed value may be filled in before the edit. -/
theorem fill_edit {edit : Option α} {value field : α}
    (leaves : Leaves edit field (fill value field)) :
    fill value (edit.getD field) = fill value (edit.getD (fill value field)) :=
  (fill_edit_iff value leaves).mpr fun _ _ => rfl

end Fields

section Sections

variable {σ α β : Type*}

/-- Edits of single entries, and when one leaves alone entries that differ. -/
class EntryEdit (σ : Type*) (α : outParam Type*) where
  apply : σ → α → α
  Spares : σ → α → α → Prop

/-- An edit of a section, or of entries below it, which creates a missing one. -/
inductive SectionEdit (σ α : Type*)
  | keep
  | set (value : Option α)
  | below (change : σ)

/-- A section that was left out still is. -/
def StaysOut (before after : Option α) : Prop :=
  before = none → after = none

variable [Inhabited α] [EntryEdit σ α]

/-- The section after the edit. -/
def SectionEdit.apply : SectionEdit σ α → Option α → Option α
  | keep, given => given
  | set value, _ => value
  | below change, given => some (EntryEdit.apply change (given.getD default))

/-- The edit leaves alone whatever differs between the two sections. -/
def SectionEdit.Spares : SectionEdit σ α → Option α → Option α → Prop
  | keep, _, _ => True
  | set _, before, after => after = before
  | below change, before, after =>
      EntryEdit.Spares change (before.getD default) (after.getD default)

/-- A filled section shows through every edit that leaves its entries alone. -/
def Lasting (σ : Type*) [EntryEdit σ α] (value : α) : Prop :=
  ∀ change : σ, EntryEdit.Spares change default value →
    EntryEdit.apply change default ≠ EntryEdit.apply change value

/-- One entry that is not the default is enough. -/
theorem Lasting.of_entry (entry : α → β) (setting : σ → Option β)
    (acts : ∀ change record,
      entry (EntryEdit.apply change record) = (setting change).getD (entry record))
    (spares : ∀ {change before after}, EntryEdit.Spares change before after →
      Leaves (setting change) (entry before) (entry after))
    {value : α} (filled : entry value ≠ entry default) : Lasting σ value := by
  intro change spared same
  have untouched := spares spared filled
  have entries := congrArg entry same
  rw [acts, acts, untouched] at entries
  exact filled entries.symm

variable {edit : SectionEdit σ α} {content : α}

theorem Lasting.apply_ne (lasting : Lasting σ content) (spares : edit.Spares none (some content)) :
    edit.apply none ≠ edit.apply (some content) := by
  cases edit with
  | keep => simp [SectionEdit.apply]
  | set replacement => simp [SectionEdit.Spares] at spares
  | below change => simpa [SectionEdit.apply] using lasting change spares

variable [DecidableEq α]

/-- As `fill_edit_iff`; entries below a filled section must not be set either. -/
theorem fill_section_iff {value given : Option α} (later : Option α)
    (spares : edit.Spares given (fill value given))
    (lasting : ∀ content ∈ value, Lasting σ content) :
    fill later (edit.apply given) = fill later (edit.apply (fill value given)) ↔
      (given = none → value ≠ none → edit.apply given = none ∧ later = value) := by
  rcases given with _ | content
  · rcases value with _ | filling
    · simp
    · cases edit with
      | keep => simp [SectionEdit.apply]
      | set replacement => simp [SectionEdit.Spares] at spares
      | below change =>
          have shows := lasting filling rfl change spares
          simpa [SectionEdit.apply] using shows
  · simp

/-- A fixed content may be filled in first if nothing is set below it. -/
theorem fill_content_iff {given : Option α} (lasting : Lasting σ content)
    (spares : edit.Spares given (fill (some content) given)) :
    fill (some content) (edit.apply given) =
        fill (some content) (edit.apply (fill (some content) given)) ↔
      StaysOut given (edit.apply given) := by
  rw [fill_section_iff _ spares (by simpa using lasting)]
  simp [StaysOut]

end Sections

end Defaulting
