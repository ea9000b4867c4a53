import Mathlib.Algebra.Group.Int.Defs
import Mathlib.Algebra.Group.Nat.Defs
import Mathlib.Data.List.Infix

/-!
# Text as the Go standard library reads it

Decimal integers and host-port pairs. Separators are single ASCII characters, so characters are as
good as bytes.
-/

namespace GoText

/-- The value of a decimal digit. -/
def digit (c : Char) : Option Nat :=
  if '0' ≤ c ∧ c ≤ '9' then some (c.toNat - '0'.toNat) else none

/-- The value of a nonempty digit string, most significant digit first. -/
def digits : List Char → Option Nat
  | [] => none
  | cs => cs.foldl (fun total c => do return 10 * (← total) + (← digit c)) (some 0)

/-- An integer that fits 64 bits. -/
def int64 (n : Int) : Option Int :=
  if -2 ^ 63 ≤ n ∧ n < 2 ^ 63 then some n else none

/-- `strconv.Atoi` on a 64-bit platform. -/
def atoi (s : List Char) : Option Int :=
  match s with
  | '-' :: cs => do int64 (-Int.ofNat (← digits cs))
  | '+' :: cs => do int64 (Int.ofNat (← digits cs))
  | cs => do int64 (Int.ofNat (← digits cs))

private theorem digit_digitChar {n : Nat} (small : n < 10) : digit n.digitChar = some n := by
  have all : ∀ n : Fin 10, digit (n : Nat).digitChar = some (n : Nat) := by decide
  exact all ⟨n, small⟩

private theorem digits_append {front : List Char} (nonempty : front ≠ []) (last : Char) :
    digits (front ++ [last]) = do return 10 * (← digits front) + (← digit last) := by
  obtain ⟨head, rest, rfl⟩ := List.exists_cons_of_ne_nil nonempty
  simp only [digits, List.cons_append, List.foldl_cons, List.foldl_append, List.foldl_nil]

/-- A numeral reads back as the number it was written from. -/
theorem digits_toDigits (n : Nat) : digits (Nat.toDigits 10 n) = some n := by
  induction n using Nat.strongRecOn with
  | ind n ih =>
      rcases Nat.lt_or_ge n 10 with small | large
      · rw [Nat.toDigits_of_lt_base small]
        simp [digits, digit_digitChar small]
      · have front : Nat.toDigits 10 (n / 10) ≠ [] := fun empty => by
          simpa [empty, digits] using ih (n / 10) (by omega)
        rw [Nat.toDigits_of_base_le (by decide) large, digits_append front, ih (n / 10) (by omega),
          digit_digitChar (Nat.mod_lt n (by decide))]
        exact congrArg some (Nat.div_add_mod n 10)

theorem atoi_toDigits {n : Nat} (bound : n < 2 ^ 63) :
    atoi (Nat.toDigits 10 n) = some (n : Int) := by
  have value : int64 (Int.ofNat n) = some (n : Int) := by
    simp only [int64, Int.ofNat_eq_natCast]
    exact if_pos ⟨by omega, by omega⟩
  have read := digits_toDigits n
  have signless : ∀ c ∈ Nat.toDigits 10 n, c ≠ '-' ∧ c ≠ '+' := by
    intro c mem
    have isDigit := Nat.isDigit_of_mem_toDigits (by decide) (by decide) mem
    constructor <;> rintro rfl <;> exact absurd isDigit (by decide)
  unfold atoi
  split
  · rename_i cs eq
    exact absurd rfl (signless '-' (by simp [eq])).1
  · rename_i cs eq
    exact absurd rfl (signless '+' (by simp [eq])).2
  · rw [read, Option.bind_eq_bind, Option.bind_some, value]

/-- The text before and after the last occurrence of `sep`. -/
def cutLast (sep : Char) (s : List Char) : Option (List Char × List Char) :=
  if sep ∈ s then
    let reversed := s.reverse
    some ((reversed.dropWhile (· ≠ sep)).tail.reverse, (reversed.takeWhile (· ≠ sep)).reverse)
  else none

theorem cutLast_append {sep : Char} {front back : List Char} (absent : sep ∉ back) :
    cutLast sep (front ++ sep :: back) = some (front, back) := by
  have others : ∀ c ∈ back.reverse, (decide (c ≠ sep)) = true := by
    intro c mem
    refine decide_eq_true ?_
    rintro rfl
    exact absent (List.mem_reverse.mp mem)
  have turned : (front ++ sep :: back).reverse = back.reverse ++ sep :: front.reverse := by simp
  rw [cutLast, if_pos (by simp), turned]
  dsimp only
  rw [List.takeWhile_append_of_pos others, List.dropWhile_append_of_pos others]
  simp

/-- The text before and after the first occurrence of `sep`. -/
def cutFirst (sep : Char) (s : List Char) : Option (List Char × List Char) :=
  if sep ∈ s then some (s.takeWhile (· ≠ sep), (s.dropWhile (· ≠ sep)).tail) else none

/-- The text after a leading part, as `strings.CutPrefix` returns it. -/
def cutLead (lead s : List Char) : Option (List Char) :=
  if lead.isPrefixOf s then some (s.drop lead.length) else none

/-- Whether `part` occurs in `s`, as `strings.Contains`. -/
def contains (s part : String) : Bool :=
  part.toList <:+: s.toList

/-- The host of `net.SplitHostPort`, or nothing when it reports an error. -/
def splitHost (s : List Char) : Option (List Char) := do
  let (front, port) ← cutLast ':' s
  match s with
  | '[' :: rest =>
      let (host, after) ← cutFirst ']' rest
      -- the closing bracket must stand right before the last colon
      if after = ':' :: port ∧ '[' ∉ host ∧ '[' ∉ port ∧ ']' ∉ port then some host else none
  | _ =>
      if ':' ∈ front ∨ '[' ∈ s ∨ ']' ∈ s then none else some front

/-- A host and a port as `net.JoinHostPort` does, with brackets if needed. -/
def joinHostPort (host port : String) : String :=
  if ':' ∈ host.toList then "[" ++ host ++ "]:" ++ port else host ++ ":" ++ port

end GoText
