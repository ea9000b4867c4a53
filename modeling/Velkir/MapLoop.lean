import Mathlib.Data.List.AList

/-!
# Loops that write to a map

A loop over some keys writes to the entries of these keys only.
-/

namespace MapLoop

variable {κ ν : Type*} [DecidableEq κ]

/-- Write the values of these keys. -/
def writeAll (value : κ → Option ν) (keys : List κ) (map : AList fun _ : κ => ν) :
    AList fun _ : κ => ν :=
  keys.foldl (fun map key => match value key with
    | some v => map.insert key v
    | none => map) map

/-- Change the values of the keys that are there and pending. -/
def modifyAll (pending : ν → Prop) [DecidablePred pending] (change : ν → ν) (keys : List κ)
    (map : AList fun _ : κ => ν) : AList fun _ : κ => ν :=
  keys.foldl (fun map key => match map.lookup key with
    | some v => if pending v then map.insert key (change v) else map
    | none => map) map

variable (keys : List κ) (map : AList fun _ : κ => ν) (key : κ)

theorem lookup_writeAll (value : κ → Option ν) :
    (writeAll value keys map).lookup key =
      if key ∈ keys then (value key).or (map.lookup key) else map.lookup key := by
  unfold writeAll
  induction keys generalizing map with
  | nil => simp
  | cons other keys ih =>
      rw [List.foldl_cons, ih]
      rcases eq_or_ne key other with rfl | differ
      · cases value key <;> simp
      · have kept : (match value other with
            | some v => map.insert other v
            | none => map).lookup key = map.lookup key := by
          cases value other with
          | none => rfl
          | some v => exact AList.lookup_insert_ne differ
        simp [kept, differ]

/-- A value no longer pending is changed once. -/
theorem lookup_modifyAll (pending : ν → Prop) [DecidablePred pending] (change : ν → ν)
    (settles : ∀ v, ¬pending (change v)) :
    (modifyAll pending change keys map).lookup key =
      (map.lookup key).map fun v => if key ∈ keys ∧ pending v then change v else v := by
  unfold modifyAll
  induction keys generalizing map with
  | nil => simp
  | cons other keys ih =>
      rw [List.foldl_cons, ih]
      rcases eq_or_ne key other with rfl | differ
      · cases found : map.lookup key with
        | none => simp [found]
        | some v =>
            by_cases waits : pending v
            · simp [waits, settles]
            · simp [waits, found]
      · have kept : (match map.lookup other with
            | some v => if pending v then map.insert other (change v) else map
            | none => map).lookup key = map.lookup key := by
          cases map.lookup other with
          | none => rfl
          | some v =>
              dsimp only
              split_ifs
              · exact AList.lookup_insert_ne differ
              · rfl
        simp [kept, differ]

end MapLoop
