import Mathlib.Data.List.AList
import Velkir.RedactOrder

/-!
# Redacting log lines

The registry counts who holds a secret and offers its secrets in any order. The order matters where
they overlap.
-/

namespace Velkir.Logging

open Replace

abbrev Bytes := List UInt8

/-- The shortest secret that is registered. -/
def minTokenLen : Nat := 8

def redactedWord : Bytes := [82, 69, 68, 65, 67, 84, 69, 68]

/-- The brackets of the placeholder. -/
def openBracket : UInt8 := 91

def closeBracket : UInt8 := 93

def redactedPlaceholder : Bytes := openBracket :: (redactedWord ++ [closeBracket])

/-- How often each secret is held; short ones are never held. -/
structure Registry where
  counts : AList fun _ : Bytes => Nat
  sized : ∀ token ∈ counts, minTokenLen ≤ token.length
  positive : ∀ token count, counts.lookup token = some count → 0 < count

namespace Registry

/-- Nothing is registered. -/
def empty : Registry where
  counts := ∅
  sized token held := absurd held (AList.notMem_empty token)
  positive token count found := by simp at found

/-- The registry with another count for a secret. -/
def set (token : Bytes) (count : Nat) (long : minTokenLen ≤ token.length) (some : 0 < count)
    (registry : Registry) : Registry where
  counts := registry.counts.insert token count
  sized other held := by
    rcases (AList.mem_insert _).mp held with rfl | held
    · exact long
    · exact registry.sized other held
  positive other found := by
    rcases eq_or_ne other token with rfl | different
    · rw [AList.lookup_insert]
      rintro ⟨⟩
      exact some
    · rw [AList.lookup_insert_ne different]
      exact registry.positive other found

/-- Forget a secret. -/
def delete (token : Bytes) (registry : Registry) : Registry where
  counts := registry.counts.erase token
  sized other left := registry.sized other (AList.mem_erase.mp left).2
  positive other count found := by
    rcases eq_or_ne other token with rfl | different
    · rw [AList.lookup_erase] at found
      cases found
    · rw [AList.lookup_erase_ne different] at found
      exact registry.positive other count found

/-- Register a secret once more. -/
def register (token : Bytes) (registry : Registry) : Registry :=
  if short : token.length < minTokenLen then registry
  else
    registry.set token ((registry.counts.lookup token).getD 0 + 1) (not_lt.mp short)
      (Nat.succ_pos _)

/-- Register a secret once less. -/
def forget (token : Bytes) (registry : Registry) : Registry :=
  if short : token.length < minTokenLen then registry
  else
    match registry.counts.lookup token with
    | none => registry
    | some count =>
        if last : count ≤ 1 then registry.delete token
        else registry.set token (count - 1) (not_lt.mp short) (by omega)

/-- The secrets, in any order. -/
def Snapshot (registry : Registry) (tokens : List Bytes) : Prop :=
  tokens.Perm registry.counts.keys

instance (registry : Registry) (tokens : List Bytes) : Decidable (registry.Snapshot tokens) :=
  inferInstanceAs (Decidable (List.Perm _ _))

end Registry

/-- The text with these secrets redacted. -/
def redactString (s : Bytes) (tokens : List Bytes) : Bytes :=
  redactWith redactedPlaceholder s tokens

/-- The result does not depend on the order of the secrets. -/
def Orderless (registry : Registry) : Prop :=
  ∀ s tokens tokens', registry.Snapshot tokens → registry.Snapshot tokens' →
    redactString s tokens = redactString s tokens'

/-- A secret without brackets that is not the word inside them. -/
def Plain (token : Bytes) : Prop :=
  openBracket ∉ token ∧ closeBracket ∉ token ∧ token ≠ redactedWord

instance (token : Bytes) : Decidable (Plain token) := inferInstanceAs (Decidable (_ ∧ _))

section Counting

namespace Registry

variable (registry : Registry) {token other : Bytes}

/-- How often a secret is held. -/
def count (token : Bytes) : Nat := (registry.counts.lookup token).getD 0

theorem mem_iff_count : token ∈ registry.counts ↔ 0 < registry.count token := by
  rw [← AList.lookup_isSome, count]
  cases found : registry.counts.lookup token with
  | none => simp
  | some count => simpa using registry.positive token count found

theorem count_set {count : Nat} (long : minTokenLen ≤ token.length) (some : 0 < count) :
    (registry.set token count long some).count other =
      if other = token then count else registry.count other := by
  rcases eq_or_ne other token with rfl | different
  · simp [set, Registry.count]
  · simp [set, Registry.count, different]

private theorem count_delete :
    (registry.delete token).count other = if other = token then 0 else registry.count other := by
  rcases eq_or_ne other token with rfl | different
  · simp [delete, count]
  · simp [delete, count, different]

theorem count_register (token : Bytes) (long : minTokenLen ≤ other.length) :
    (registry.register token).count other =
      registry.count other + if other = token then 1 else 0 := by
  unfold register
  split
  next short =>
    have different : other ≠ token := by
      rintro rfl
      exact absurd long (not_le.mpr short)
    rw [if_neg different, Nat.add_zero]
  next =>
    rw [count_set]
    split
    next same => rw [same, count]
    next => rfl

theorem count_forget (token : Bytes) (long : minTokenLen ≤ other.length) :
    (registry.forget token).count other =
      registry.count other - if other = token then 1 else 0 := by
  unfold forget
  split
  next short =>
    have different : other ≠ token := by
      rintro rfl
      exact absurd long (not_le.mpr short)
    rw [if_neg different, Nat.sub_zero]
  next =>
    split
    next absent =>
      split
      next same => rw [same, count, absent, Option.getD_none, Nat.zero_sub]
      next => rfl
    next held found =>
      have counted : registry.count token = held := by rw [count, found, Option.getD_some]
      split
      next last =>
        rw [count_delete]
        split
        next same => rw [same, counted]; omega
        next => rfl
      next =>
        rw [count_set]
        split
        next same => rw [same, counted]
        next => rfl

end Registry

end Counting

section Registered

variable {registry : Registry} {tokens : List Bytes} {token : Bytes}

theorem Registry.ne_nil (registry : Registry) (held : token ∈ registry.counts) : token ≠ [] := by
  rintro rfl
  exact absurd (registry.sized [] held) (by decide)

theorem Plain.apart (plain : Plain token) (long : minTokenLen ≤ token.length) :
    Apart token redactedPlaceholder := by
  refine apart_of_brackets plain.1 plain.2.1 fun inside => ?_
  exact plain.2.2 (inside.eq_of_length_le long)

theorem Registry.stable (registry : Registry)
    (separate : ∀ token ∈ registry.counts, Apart token redactedPlaceholder)
    (snapshot : registry.Snapshot tokens) : Stable redactedPlaceholder tokens :=
  fun _ mem => ⟨registry.ne_nil (snapshot.mem_iff.mp mem), fun part also =>
    (separate part (snapshot.mem_iff.mp also)).unmade _⟩

/-- No plain secret survives, in whatever order the secrets are replaced. -/
theorem redactString_hides (plain : ∀ token ∈ registry.counts, Plain token)
    (snapshot : registry.Snapshot tokens) (s : Bytes) :
    ∀ token ∈ registry.counts, ¬token <:+: redactString s tokens := by
  have stable := registry.stable
    (fun token held => (plain token held).apart (registry.sized token held)) snapshot
  intro token held
  exact stable.not_infix_redactWith s token (snapshot.mem_iff.mpr held)

/-- `letters first length` are the letters from one on. -/
def letters (first : UInt8) (length : Nat) : Bytes :=
  (List.range length).map fun index => first + UInt8.ofNat index

/-- `abcdefgh` and `ijklmnop`. -/
def twoSecrets : Registry := (Registry.empty.register (letters 97 8)).register (letters 105 8)

theorem redactString_hides_two :
    (∀ token ∈ twoSecrets.counts, Plain token) ∧
      twoSecrets.Snapshot [letters 97 8, letters 105 8] ∧
      ∀ token ∈ twoSecrets.counts,
        ¬token <:+: redactString (letters 97 24) [letters 97 8, letters 105 8] := by
  have plain : ∀ token ∈ twoSecrets.counts.keys, Plain token := by decide
  have snapshot : twoSecrets.Snapshot [letters 97 8, letters 105 8] := by decide
  exact ⟨plain, snapshot, redactString_hides plain snapshot (letters 97 24)⟩

/-- A redacted text stays as it is under another order of the secrets. -/
def Settles (registry : Registry) : Prop :=
  ∀ s tokens tokens', registry.Snapshot tokens → registry.Snapshot tokens' →
    redactString (redactString s tokens) tokens' = redactString s tokens

theorem redactString_settles
    (separate : ∀ token ∈ registry.counts, Apart token redactedPlaceholder) : Settles registry := by
  intro s tokens tokens' snapshot snapshot'
  have stable := registry.stable separate snapshot
  refine redactWith_of_absent fun token mem => stable.not_infix_redactWith s token ?_
  exact snapshot.mem_iff.mpr (snapshot'.mem_iff.mp mem)

theorem redactString_settles_two :
    (∀ token ∈ twoSecrets.counts, Apart token redactedPlaceholder) ∧ Settles twoSecrets := by
  have plain : ∀ token ∈ twoSecrets.counts.keys, Plain token := by decide
  have separate : ∀ token ∈ twoSecrets.counts, Apart token redactedPlaceholder :=
    fun token held => (plain token held).apart (twoSecrets.sized token held)
  exact ⟨separate, redactString_settles separate⟩

/-- No two secrets touch, and replacing one makes no other. -/
def Harmless (registry : Registry) : Prop :=
  ∀ left ∈ registry.counts, ∀ right ∈ registry.counts, left ≠ right →
    left ≠ redactedPlaceholder → right ≠ redactedPlaceholder →
      Apart left right ∧ Unmade left redactedPlaceholder right

private theorem orderless_of_harmless (harmless : Harmless registry) : Orderless registry := by
  intro s tokens tokens' snapshot snapshot'
  refine redactWith_perm (fun left memLeft right memRight text => ?_)
    (snapshot.trans snapshot'.symm) s
  have heldLeft : left ∈ registry.counts := snapshot.mem_iff.mp memLeft
  have heldRight : right ∈ registry.counts := snapshot.mem_iff.mp memRight
  have some := registry.ne_nil heldLeft
  by_cases same : left = right
  · rw [same]
  by_cases itself : left = redactedPlaceholder
  · rw [itself, replaceAll_self (by decide), replaceAll_self (by decide)]
  by_cases itself' : right = redactedPlaceholder
  · rw [itself', replaceAll_self (by decide), replaceAll_self (by decide)]
  obtain ⟨apart, unmade⟩ := harmless left heldLeft right heldRight same itself itself'
  obtain ⟨-, unmade'⟩ := harmless right heldRight left heldLeft (Ne.symm same) itself' itself
  exact apart.replaceAll_comm some (registry.ne_nil heldRight) unmade' unmade text

/-- The secrets other than the placeholder neither lie in it nor contain it. -/
def Registry.Outside (registry : Registry) : Prop :=
  ∀ token ∈ registry.counts, token ≠ redactedPlaceholder → Foreign redactedPlaceholder token

private theorem Orderless.unordered (orderless : Orderless registry) (outside : registry.Outside) :
    Unordered redactedPlaceholder
      (registry.counts.keys.filter fun token => token ≠ redactedPlaceholder) where
  same s order order' perm perm' := by
    have whole : ∀ {order : List Bytes},
        order.Perm (registry.counts.keys.filter fun token => token ≠ redactedPlaceholder) →
        registry.Snapshot
          (order ++ registry.counts.keys.filter fun token => !(token ≠ redactedPlaceholder)) :=
      fun perm => (perm.append_right _).trans (List.filter_append_perm _ _)
    have idle : ∀ s, redactWith redactedPlaceholder s
        (registry.counts.keys.filter fun token => !(token ≠ redactedPlaceholder)) = s :=
      fun s => redactWith_itself (by decide) (by simp) s
    have equal := orderless s _ _ (whole perm) (whole perm')
    rwa [redactString, redactString, redactWith_append, redactWith_append, idle, idle] at equal
  nodup := registry.counts.keys_nodup.filter _
  foreign token mem := by
    obtain ⟨held, other⟩ := List.mem_filter.mp mem
    exact outside token held (of_decide_eq_true other)
  marked := ⟨openBracket, _, rfl, by decide⟩

/-- The order does not matter if, and mostly only if, none touch or make others. -/
theorem orderless_iff (registry : Registry) :
    (Harmless registry → Orderless registry) ∧
      (registry.Outside → (Orderless registry ↔ Harmless registry)) := by
  refine ⟨orderless_of_harmless, fun outside => ⟨fun orderless => ?_, orderless_of_harmless⟩⟩
  intro left heldLeft right heldRight different itself itself'
  have unordered := orderless.unordered outside
  have among : ∀ token ∈ registry.counts, token ≠ redactedPlaceholder →
      token ∈ registry.counts.keys.filter fun token => token ≠ redactedPlaceholder :=
    fun token held other => List.mem_filter.mpr ⟨held, decide_eq_true other⟩
  have memLeft := among left heldLeft itself
  have memRight := among right heldRight itself'
  obtain ⟨clear, unmade⟩ := unordered.apart_unmade memLeft memRight different
  exact ⟨⟨(unordered.apart_unmade memRight memLeft different.symm).1, clear⟩, unmade⟩

theorem orderless_iff_two : Harmless twoSecrets ∧ Orderless twoSecrets ∧ twoSecrets.Outside := by
  have plain : ∀ token ∈ twoSecrets.counts.keys, Plain token := by decide
  have separate : ∀ token ∈ twoSecrets.counts, Apart token redactedPlaceholder :=
    fun token held => (plain token held).apart (twoSecrets.sized token held)
  have apart : Apart (letters 97 8) (letters 105 8) :=
    ⟨clear_of_head (by decide), clear_of_head (by decide)⟩
  have harmless : Harmless twoSecrets := by
    intro left heldLeft right heldRight different _ _
    refine ⟨?_, (separate right heldRight).unmade left⟩
    have among : ∀ token ∈ twoSecrets.counts.keys,
        token = letters 97 8 ∨ token = letters 105 8 := by decide
    rcases among left heldLeft with rfl | rfl <;> rcases among right heldRight with rfl | rfl
    · exact absurd rfl different
    · exact apart
    · exact apart.symm
    · exact absurd rfl different
  have outside : ∀ token ∈ twoSecrets.counts.keys, ¬token <:+: redactedPlaceholder ∧
      ¬redactedPlaceholder <:+: token := by decide
  exact ⟨harmless, (orderless_iff twoSecrets).1 harmless, fun token held _ => outside token held⟩

/-- `abcdefgh` goes first in `abcdefghijk`, and three letters are left. -/
theorem contained_secret_not_orderless :
    let registry := (Registry.empty.register (letters 97 8)).register (letters 97 11)
    registry.Snapshot [letters 97 11, letters 97 8] ∧
      registry.Snapshot [letters 97 8, letters 97 11] ∧
      redactString (letters 97 11) [letters 97 11, letters 97 8] = redactedPlaceholder ∧
      redactString (letters 97 11) [letters 97 8, letters 97 11] =
        redactedPlaceholder ++ letters 105 3 ∧
      ¬Orderless registry := by
  intro registry
  have outer : registry.Snapshot [letters 97 11, letters 97 8] := by decide
  have inner : registry.Snapshot [letters 97 8, letters 97 11] := by decide
  have whole : redactString (letters 97 11) [letters 97 11, letters 97 8] =
      redactedPlaceholder := by decide
  have cut : redactString (letters 97 11) [letters 97 8, letters 97 11] =
      redactedPlaceholder ++ letters 105 3 := by decide
  refine ⟨outer, inner, whole, cut, fun orderless => ?_⟩
  have same := orderless (letters 97 11) _ _ outer inner
  rw [whole, cut] at same
  exact absurd same (by decide)

end Registered

end Velkir.Logging
