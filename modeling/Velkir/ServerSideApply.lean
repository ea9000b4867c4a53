import Mathlib.Logic.Basic

/-!
# Server-side apply

Applying sets the fields a configuration lists and removes those that the same owner does not list
any more.
-/

namespace ServerSideApply

variable {ω κ ν : Type*} [DecidableEq ω] [DecidableEq ν]

/-- The fields of an object and who applied them. -/
structure Object (ω κ ν : Type*) where
  value : κ → Option ν
  applied : ω → κ → Bool

/-- What an owner applies. -/
abbrev Configuration (κ ν : Type*) := κ → Option ν

/-- Apply with force: the other owners lose the fields that get a new value. -/
def Object.apply (object : Object ω κ ν) (owner : ω) (configuration : Configuration κ ν) :
    Object ω κ ν where
  value key :=
    match configuration key with
    | some v => some v
    | none => if object.applied owner key then none else object.value key
  applied other key :=
    if other = owner then (configuration key).isSome
    else object.applied other key &&
      (configuration key = none || configuration key = object.value key)

variable {object : Object ω κ ν} {owner : ω} {configuration : Configuration κ ν} {key : κ}

theorem value_apply_listed {v : ν} (listed : configuration key = some v) :
    (object.apply owner configuration).value key = some v := by
  simp [Object.apply, listed]

/-- An unlisted field stays exactly if not applied by the owner or not set. -/
theorem value_apply_eq_iff (absent : configuration key = none) :
    (object.apply owner configuration).value key = object.value key ↔
      (object.applied owner key = true → object.value key = none) := by
  cases applied : object.applied owner key with
  | true =>
      have removed : (object.apply owner configuration).value key = none := by
        simp [Object.apply, absent, applied]
      rw [removed, eq_comm]
      simp
  | false => simp [Object.apply, absent, applied]

end ServerSideApply
