import Velkir.Overlap

/-!
# One replacement after the other

Words are replaced one after the other. Orders differ if two words share letters, or if a
replacement makes one.
-/

namespace Velkir.Logging

open Replace

section Redact

variable {α : Type*} [DecidableEq α]

/-- Replace every secret that occurs. -/
def redactWith (placeholder s : List α) (tokens : List (List α)) : List α :=
  tokens.foldl (fun s token => if token <:+: s then replaceAll token placeholder s else s) s

end Redact

section Passes

variable {α : Type*} [DecidableEq α] {placeholder s front back token : List α}
  {tokens tokens' : List (List α)}

/-- Looking for the secret first makes no difference. -/
theorem redactWith_cons :
    redactWith placeholder s (token :: tokens) =
      redactWith placeholder (replaceAll token placeholder s) tokens := by
  by_cases inside : token <:+: s
  · rw [redactWith, List.foldl_cons, if_pos inside, redactWith]
  · rw [redactWith, List.foldl_cons, if_neg inside, replaceAll_of_absent inside, redactWith]

theorem redactWith_append :
    redactWith placeholder s (tokens ++ tokens') =
      redactWith placeholder (redactWith placeholder s tokens) tokens' :=
  List.foldl_append

theorem redactWith_of_absent (absent : ∀ token ∈ tokens, ¬token <:+: s) :
    redactWith placeholder s tokens = s := by
  induction tokens with
  | nil => rfl
  | cons first tokens ih =>
      rw [List.forall_mem_cons] at absent
      rw [redactWith, List.foldl_cons, if_neg absent.1]
      exact ih absent.2

theorem redactWith_itself (some : placeholder ≠ []) (itself : ∀ token ∈ tokens, token = placeholder)
    (s : List α) : redactWith placeholder s tokens = s := by
  induction tokens with
  | nil => rfl
  | cons first tokens ih =>
      rw [List.forall_mem_cons] at itself
      rw [redactWith_cons, itself.1, replaceAll_self some]
      exact ih itself.2

private theorem infix_of_redactWith
    (unmade : ∀ old ∈ tokens, old ≠ [] ∧ Unmade old placeholder token)
    (inside : token <:+: redactWith placeholder s tokens) : token <:+: s := by
  induction tokens generalizing s with
  | nil => exact inside
  | cons first tokens ih =>
      obtain ⟨⟨some, here⟩, later⟩ := List.forall_mem_cons.mp unmade
      rw [redactWith_cons] at inside
      exact here.infix_of_replaceAll some (ih later inside)

/-- Replacing a secret makes none of them, itself included. -/
def Stable (placeholder : List α) (tokens : List (List α)) : Prop :=
  ∀ old ∈ tokens, old ≠ [] ∧ ∀ part ∈ tokens, Unmade old placeholder part

theorem Stable.not_infix_redactWith (stable : Stable placeholder tokens) (s : List α) :
    ∀ token ∈ tokens, ¬token <:+: redactWith placeholder s tokens := by
  induction tokens generalizing s with
  | nil => exact nofun
  | cons first tokens ih =>
      have others : Stable placeholder tokens := fun old mem =>
        ⟨(stable old (List.mem_cons_of_mem _ mem)).1, fun part also =>
          (stable old (List.mem_cons_of_mem _ mem)).2 part (List.mem_cons_of_mem _ also)⟩
      obtain ⟨some, unmade⟩ := stable first List.mem_cons_self
      rw [redactWith_cons, List.forall_mem_cons]
      refine ⟨fun inside => ?_, ih others _⟩
      refine (unmade first List.mem_cons_self).not_infix_replaceAll some s
        (infix_of_redactWith (fun old mem => ?_) inside)
      exact ⟨(others old mem).1,
        (stable old (List.mem_cons_of_mem _ mem)).2 first List.mem_cons_self⟩

theorem redactWith_perm
    (commute : ∀ left ∈ tokens, ∀ right ∈ tokens, ∀ s,
      replaceAll left placeholder (replaceAll right placeholder s) =
        replaceAll right placeholder (replaceAll left placeholder s))
    (perm : tokens.Perm tokens') (s : List α) :
    redactWith placeholder s tokens = redactWith placeholder s tokens' := by
  induction perm generalizing s with
  | nil => rfl
  | cons first _ ih =>
      rw [redactWith_cons, redactWith_cons]
      refine ih (fun left memLeft right memRight => ?_) _
      exact commute left (List.mem_cons_of_mem _ memLeft) right (List.mem_cons_of_mem _ memRight)
  | swap first second tokens =>
      rw [redactWith_cons, redactWith_cons, redactWith_cons, redactWith_cons,
        commute first (by simp) second (by simp)]
  | trans first _ ihFirst ihSecond =>
      rw [ihFirst commute]
      refine ihSecond (fun left memLeft right memRight => ?_) s
      exact commute left (first.mem_iff.mpr memLeft) right (first.mem_iff.mpr memRight)

end Passes

section Orders

variable {α : Type*} [DecidableEq α] {placeholder s token left right : List α}
  {tokens : List (List α)}

/-- Neither of the two lies inside the other. -/
def Foreign (placeholder token : List α) : Prop :=
  ¬token <:+: placeholder ∧ ¬placeholder <:+: token

omit [DecidableEq α] in
theorem Foreign.ne_nil (foreign : Foreign placeholder token) : token ≠ [] := by
  rintro rfl
  exact foreign.1 List.nil_infix

omit [DecidableEq α] in
private theorem Foreign.not_both_prefix (foreign : Foreign placeholder token)
    (starts : token <+: s) : ¬placeholder <+: s := fun starts' =>
  (List.prefix_or_prefix_of_prefix starts starts').elim (foreign.1 ·.isInfix) (foreign.2 ·.isInfix)

theorem eq_of_replaceAll_eq (nonempty : token ≠ []) (some : placeholder ≠ [])
    (inside : token <:+: s) (result : replaceAll token placeholder s = placeholder) :
    s = token := by
  obtain ⟨front, back, whole, replaced⟩ := exists_replaceAll placeholder nonempty inside
  rw [replaced] at result
  have lengths := congrArg List.length result
  rw [List.length_append, List.length_append] at lengths
  have noFront : front = [] := List.length_eq_zero_iff.mp (by omega)
  have noBack : replaceAll token placeholder back = [] := List.length_eq_zero_iff.mp (by omega)
  rw [replaceAll_eq_nil_iff some] at noBack
  rw [whole, noFront, noBack, List.nil_append, List.append_nil]

/-- With a placeholder in the text, only that itself becomes one. -/
theorem eq_placeholder_of_redactWith (foreign : ∀ token ∈ tokens, Foreign placeholder token)
    (some : placeholder ≠ []) (has : placeholder <:+: s)
    (result : redactWith placeholder s tokens = placeholder) : s = placeholder := by
  induction tokens generalizing s with
  | nil => exact result
  | cons token tokens ih =>
      obtain ⟨here, later⟩ := List.forall_mem_cons.mp foreign
      rw [redactWith_cons] at result
      by_cases inside : token <:+: s
      · obtain ⟨front, back, -, replaced⟩ := exists_replaceAll placeholder here.ne_nil inside
        have put := ih later (replaced ▸ List.infix_append' front placeholder _) result
        rw [eq_of_replaceAll_eq here.ne_nil some inside put] at has
        exact absurd has here.2
      · rw [replaceAll_of_absent inside] at result
        exact ih later has result

/-- The first letter is only there. -/
def Marked (placeholder : List α) : Prop := ∃ mark word, placeholder = mark :: word ∧ mark ∉ word

section Marked

variable {front front' rest rest' : List α}

omit [DecidableEq α] in
/-- A marked placeholder cannot be shifted. -/
theorem Marked.append_ne (marked : Marked placeholder) (some : front ≠ [])
    (clear : ¬placeholder <+: front) :
    placeholder ++ rest ≠ front ++ (placeholder ++ rest') := by
  intro same
  have starts : front <+: placeholder ++ rest := same ▸ List.prefix_append front _
  rcases List.prefix_or_prefix_of_prefix starts (List.prefix_append _ rest) with shorter | longer
  · obtain ⟨tail, split⟩ := shorter
    obtain ⟨mark, word, rfl, once⟩ := marked
    rw [← split, List.append_assoc, List.append_cancel_left_eq] at same
    obtain ⟨head, front, rfl⟩ := List.exists_cons_of_ne_nil some
    cases tail with
    | nil =>
        rw [List.append_nil] at split
        exact clear (split ▸ List.prefix_rfl)
    | cons next tail =>
        rw [List.cons_append, List.cons.injEq] at split
        rw [List.cons_append, List.cons_append, List.cons_append, List.cons.injEq] at same
        refine once ?_
        rw [← split.1, ← split.2, ← same.1]
        simp
  · exact clear longer

omit [DecidableEq α] in
private theorem Marked.eq_of_append (marked : Marked placeholder)
    (outside : ¬placeholder <:+: front) (outside' : ¬placeholder <:+: front')
    (same : front ++ (placeholder ++ rest) = front' ++ (placeholder ++ rest')) :
    front = front' := by
  have starts : front <+: front' ++ (placeholder ++ rest') := same ▸ List.prefix_append front _
  rcases List.prefix_or_prefix_of_prefix starts (List.prefix_append front' _) with
    ⟨more, rfl⟩ | ⟨more, rfl⟩
  · rw [List.append_assoc, List.append_cancel_left_eq] at same
    by_contra different
    refine marked.append_ne (fun none => ?_) (fun starts => ?_) same
    · exact different (by rw [none, List.append_nil])
    · exact outside' (starts.isInfix.trans (List.suffix_append front more).isInfix)
  · rw [List.append_assoc, List.append_cancel_left_eq] at same
    by_contra different
    refine marked.append_ne (fun none => ?_) (fun starts => ?_) same.symm
    · exact different (by rw [none, List.append_nil])
    · exact outside (starts.isInfix.trans (List.suffix_append front' more).isInfix)

end Marked

/-- The shortest text in which the one secret ends inside the other. -/
def Shares (left right s : List α) : Prop :=
  ∃ front middle back, left = front ++ middle ∧ right = middle ++ back ∧ front ≠ [] ∧
    middle ≠ [] ∧ back ≠ [] ∧ s = front ++ (middle ++ back)

/-- The shortest text in which replacing the one secret makes the other. -/
def Makes (placeholder old part s : List α) : Prop :=
  ∃ front back, s = front ++ (old ++ back) ∧ First old front ∧
    part <:+: front ++ (placeholder ++ back) ∧ front <:+: part ∧ front.length < part.length ∧
      back <:+: part ∧ back.length < part.length

/-- All orders give the same, and no secret lies in or around the placeholder. -/
structure Unordered (placeholder : List α) (tokens : List (List α)) : Prop where
  same : ∀ s order order', order.Perm tokens → order'.Perm tokens →
    redactWith placeholder s order = redactWith placeholder s order'
  nodup : tokens.Nodup
  foreign : ∀ token ∈ tokens, Foreign placeholder token
  marked : Marked placeholder

omit [DecidableEq α] in
theorem Marked.ne_nil (marked : Marked placeholder) : placeholder ≠ [] := by
  obtain ⟨mark, word, rfl, -⟩ := marked
  exact List.cons_ne_nil mark word

namespace Unordered

variable (unordered : Unordered placeholder tokens)
include unordered

private theorem ne_nil (mem : token ∈ tokens) : token ≠ [] := (unordered.foreign token mem).ne_nil

private theorem replaceAll_eq_iff (mem : token ∈ tokens) :
    replaceAll token placeholder s = s ↔ ¬token <:+: s := by
  refine replaceAll_eq_self_iff (unordered.ne_nil mem) ?_
  rintro rfl
  exact (unordered.foreign placeholder mem).1 List.infix_rfl

/-- No secret contains another. -/
theorem eq_of_infix (memLeft : left ∈ tokens) (memRight : right ∈ tokens)
    (inside : left <:+: right) : left = right := by
  have permLeft := (List.perm_cons_erase memLeft).symm
  have permRight := (List.perm_cons_erase memRight).symm
  have some := unordered.ne_nil memLeft
  have whole : redactWith placeholder right (right :: tokens.erase right) = placeholder := by
    have alone : replaceAll right placeholder (right ++ []) = placeholder ++ [] :=
      replaceAll_append (unordered.ne_nil memRight)
    rw [List.append_nil, List.append_nil] at alone
    rw [redactWith_cons, alone]
    exact redactWith_of_absent fun token mem =>
      (unordered.foreign token (List.mem_of_mem_erase mem)).1
  rw [unordered.same right _ _ permRight permLeft, redactWith_cons] at whole
  obtain ⟨front, back, -, replaced⟩ := exists_replaceAll placeholder some inside
  have put := eq_placeholder_of_redactWith
    (fun token mem => unordered.foreign token (List.mem_of_mem_erase mem)) unordered.marked.ne_nil
    (replaced ▸ List.infix_append' front placeholder _) whole
  exact (eq_of_replaceAll_eq some unordered.marked.ne_nil inside put).symm

private theorem not_infix (memLeft : left ∈ tokens) (memRight : right ∈ tokens)
    (different : left ≠ right) : ¬left <:+: right :=
  fun inside => different (unordered.eq_of_infix memLeft memRight inside)

/-- Two secrets can be swapped in a text without others. -/
theorem swap (memLeft : left ∈ tokens) (memRight : right ∈ tokens) (different : left ≠ right)
    (alone : ∀ token ∈ tokens, token ≠ left → token ≠ right → ¬token <:+: s) :
    replaceAll right placeholder (replaceAll left placeholder s) =
      replaceAll left placeholder (replaceAll right placeholder s) := by
  have also : right ∈ tokens.erase left := (List.mem_erase_of_ne different.symm).mpr memRight
  have perm : ((tokens.erase left).erase right ++ [left, right]).Perm tokens :=
    List.perm_append_comm.trans
      (((List.perm_cons_erase also).symm.cons left).trans (List.perm_cons_erase memLeft).symm)
  have absent : redactWith placeholder s ((tokens.erase left).erase right) = s := by
    refine redactWith_of_absent fun token mem => ?_
    have other := (unordered.nodup.erase left).mem_erase_iff.mp mem
    have among := unordered.nodup.mem_erase_iff.mp other.2
    exact alone token among.2 among.1 other.1
  have swapped : ((tokens.erase left).erase right ++ [right, left]).Perm tokens :=
    ((List.Perm.swap left right []).append_left _).trans perm
  have same := unordered.same s _ _ perm swapped
  rw [redactWith_append, redactWith_append, absent, redactWith_cons, redactWith_cons,
    redactWith_cons, redactWith_cons] at same
  exact same

/-- A shortest text of two secrets holds no other. -/
theorem alone_of_shares (memLeft : left ∈ tokens) (memRight : right ∈ tokens)
    (shares : Shares left right s)
    (shorter : ∀ s', s'.length < s.length → ∀ token ∈ tokens, left ≠ token →
      ¬Shares left token s') :
    ∀ token ∈ tokens, token ≠ left → token ≠ right → ¬token <:+: s := by
  obtain ⟨front, middle, back, rfl, rfl, -, -, -, rfl⟩ := shares
  intro token mem notLeft notRight inside
  rw [← List.append_assoc, List.infix_append_iff_ne_nil] at inside
  rcases inside with within | within | ⟨init, rest, someInit, someRest, rfl, ⟨lead, split⟩, starts⟩
  · exact unordered.not_infix mem memLeft notLeft within
  · exact unordered.not_infix mem memRight notRight
      (within.trans (List.suffix_append middle back).isInfix)
  · have someLead : lead ≠ [] := by
      rintro rfl
      rw [List.nil_append] at split
      refine unordered.not_infix memLeft mem notLeft.symm ?_
      rw [← split]
      exact (List.prefix_append init rest).isInfix
    have short : rest.length < back.length := by
      by_contra long
      obtain rfl := starts.eq_of_length_le (not_lt.mp long)
      have ends : init ++ rest <:+ front ++ (middle ++ rest) :=
        ⟨lead, by rw [← List.append_assoc, split, List.append_assoc]⟩
      rcases List.suffix_or_suffix_of_suffix ends (List.suffix_append front _) with less | more
      · exact unordered.not_infix mem memRight notRight less.isInfix
      · exact unordered.not_infix memRight mem notRight.symm more.isInfix
    refine shorter (lead ++ (init ++ rest)) ?_ _ mem notLeft.symm
      ⟨lead, init, rest, split.symm, rfl, someLead, someInit, someRest, rfl⟩
    have lengths := congrArg List.length split
    simp only [List.length_append] at lengths ⊢
    omega

/-- So does a shortest text in which a secret is made. -/
theorem alone_of_makes (memLeft : left ∈ tokens) (memRight : right ∈ tokens)
    (makes : Makes placeholder left right s)
    (shares : ∀ s', s'.length ≤ s.length → ∀ left ∈ tokens, ∀ right ∈ tokens, left ≠ right →
      ¬Shares left right s') :
    ∀ token ∈ tokens, token ≠ left → ¬token <:+: s := by
  obtain ⟨front, back, rfl, -, -, frontInside, frontShort, backInside, backShort⟩ := makes
  have outside : ∀ token ∈ tokens, ∀ part : List α, part <:+: right →
      part.length < right.length → ¬token <:+: part := by
    intro token mem part within short inside
    obtain rfl := unordered.eq_of_infix mem memRight (inside.trans within)
    exact absurd inside.length_le (not_le.mpr short)
  intro token mem other inside
  rcases List.infix_append_iff_ne_nil.mp inside with
    early | late | ⟨init, rest, someInit, someRest, rfl, ⟨lead, split⟩, starts⟩
  · exact outside token mem front frontInside frontShort early
  · rcases List.infix_append_iff_ne_nil.mp late with
      here | later | ⟨init, rest, someInit, someRest, rfl, ⟨lead, split⟩, starts⟩
    · exact unordered.not_infix mem memLeft other here
    · exact outside token mem back backInside backShort later
    · refine shares (lead ++ (init ++ rest)) ?_ left memLeft _ mem other.symm
        ⟨lead, init, rest, split.symm, rfl, ?_, someInit, someRest, rfl⟩
      · have lengths := congrArg List.length split
        have less := starts.length_le
        simp only [List.length_append] at lengths ⊢
        omega
      · rintro rfl
        rw [List.nil_append] at split
        refine unordered.not_infix memLeft mem other.symm ?_
        rw [← split]
        exact (List.prefix_append init rest).isInfix
  · rcases List.prefix_or_prefix_of_prefix starts (List.prefix_append left back) with
      ⟨more, rfl⟩ | within
    · refine shares (init ++ (rest ++ more)) ?_ _ mem _ memLeft other
        ⟨init, rest, more, rfl, rfl, someInit, someRest, ?_, rfl⟩
      · have lengths := congrArg List.length split
        simp only [List.length_append] at lengths ⊢
        omega
      · rintro rfl
        rw [List.append_nil] at other memLeft
        exact unordered.not_infix memLeft mem other.symm (List.suffix_append init rest).isInfix
    · exact unordered.not_infix memLeft mem other.symm
        (within.isInfix.trans (List.suffix_append init rest).isInfix)

private theorem not_makes (memLeft : left ∈ tokens) (memRight : right ∈ tokens)
    (different : left ≠ right)
    (shares : ∀ s', s'.length ≤ s.length → ∀ left ∈ tokens, ∀ right ∈ tokens, left ≠ right →
      ¬Shares left right s') : ¬Makes placeholder left right s := by
  intro makes
  have alone := unordered.alone_of_makes memLeft memRight makes shares
  have swapped := unordered.swap memLeft memRight different
    fun token mem other _ => alone token mem other
  obtain ⟨front, back, rfl, first, made, -, -, backInside, -⟩ := makes
  have absent : ¬left <:+: back := fun inside =>
    unordered.not_infix memLeft memRight different (inside.trans backInside)
  rw [replaceAll_of_absent (alone right memRight different.symm),
    first.replaceAll_append (unordered.ne_nil memLeft), replaceAll_of_absent absent,
    unordered.replaceAll_eq_iff memRight] at swapped
  exact swapped made

variable {back front rest : List α}

/-- If the second secret is not made behind it, the text tells orders apart. -/
theorem not_shares_of_absent (memLeft : left ∈ tokens) (memRight : right ∈ tokens)
    (within : back <:+: right) (someFront : front ≠ []) (early : front <+: left)
    (inside : right <:+: left ++ back)
    (replaced : replaceAll right placeholder (left ++ back) = front ++ (placeholder ++ rest))
    (swapped : placeholder ++ back = replaceAll left placeholder (front ++ (placeholder ++ rest))) :
    False := by
  have outside : ¬placeholder <+: front := fun starts =>
    (unordered.foreign left memLeft).2 (starts.isInfix.trans early.isInfix)
  have later : ∀ {text}, placeholder ++ text ≠ front ++ (placeholder ++ rest) :=
    unordered.marked.append_ne someFront outside
  by_cases again : left <:+: front ++ (placeholder ++ rest)
  · obtain ⟨first, last, whole, put⟩ :=
      exists_replaceAll placeholder (unordered.ne_nil memLeft) again
    rw [put] at swapped
    have none : first = [] := by
      by_contra some
      refine unordered.marked.append_ne some (fun starts => ?_) swapped
      obtain ⟨more, rfl⟩ := starts
      exact later (by rw [whole, List.append_assoc])
    rw [none, List.nil_append, List.append_cancel_left_eq] at swapped
    have clean : ¬left <:+: last := by
      intro found
      obtain ⟨before, after, -, put⟩ :=
        exists_replaceAll placeholder (unordered.ne_nil memLeft) found
      refine (unordered.foreign right memRight).2 (List.IsInfix.trans ?_ within)
      rw [swapped, put]
      exact List.infix_append' before placeholder _
    rw [replaceAll_of_absent clean] at swapped
    rw [whole, none, List.nil_append, ← swapped, unordered.replaceAll_eq_iff memRight] at replaced
    exact replaced inside
  · rw [replaceAll_of_absent again] at swapped
    exact later swapped

/-- The second secret is made behind the placeholder only with all of its rest. -/
theorem replaceAll_behind (memRight : right ∈ tokens) (short : back.length < right.length)
    (inside : right <:+: placeholder ++ back)
    (shorter : ∀ s', s'.length < (left ++ back).length → ¬Makes placeholder left right s') :
    ∃ lead piece, placeholder = lead ++ piece ∧ right = piece ++ back ∧
      replaceAll right placeholder (placeholder ++ back) = lead ++ (placeholder ++ []) := by
  have foreign := unordered.foreign right memRight
  obtain ⟨lead, last, whole, put⟩ := exists_replaceAll placeholder foreign.ne_nil inside
  have lengths := congrArg List.length whole
  simp only [List.length_append] at lengths
  have starts : lead <+: placeholder ++ back := whole ▸ List.prefix_append lead _
  obtain ⟨piece, split⟩ := List.prefix_of_prefix_length_le starts
    (List.prefix_append placeholder back) (by omega)
  rw [← split, List.append_assoc, List.append_cancel_left_eq] at whole
  rcases List.prefix_or_prefix_of_prefix ⟨back, whole⟩ (List.prefix_append right last) with
    ⟨tail, made⟩ | within
  · rw [← made, List.append_assoc, List.append_cancel_left_eq] at whole
    have done : last = [] := by
      by_contra some
      have positive := List.length_pos_iff.mpr some
      have long := List.length_pos_iff.mpr (unordered.ne_nil memRight)
      have less : tail.length < right.length := by
        rw [whole, List.length_append] at short
        omega
      refine shorter (left ++ tail) (by rw [whole]; simp; omega) ⟨[], tail, rfl, .nil, ?_,
        List.nil_infix, long, made ▸ (List.suffix_append piece tail).isInfix, less⟩
      exact ⟨lead, [], by rw [← split, ← made]; simp⟩
    rw [done, List.append_nil] at whole
    rw [done, replaceAll_nil] at put
    exact ⟨lead, piece, split.symm, by rw [whole, made], put⟩
  · exact absurd (within.isInfix.trans (split ▸ (List.suffix_append lead piece).isInfix)) foreign.1

/-- If it is made there, the text tells the orders apart as well. -/
theorem not_shares_of_made (memLeft : left ∈ tokens) {last lead piece : List α} (some : piece ≠ [])
    (someFront : front ≠ []) (early : front <+: left) (split : placeholder = lead ++ piece)
    (whole : left ++ back = front ++ ((piece ++ back) ++ last))
    (swapped : lead ++ (placeholder ++ []) =
      replaceAll left placeholder (front ++ (placeholder ++ rest))) : False := by
  have foreign := unordered.foreign left memLeft
  have short : lead.length < placeholder.length := by
    rw [split, List.length_append]
    have positive := List.length_pos_iff.mpr some
    omega
  have outside : ¬placeholder <:+: lead := fun inside =>
    absurd inside.length_le (not_le.mpr short)
  have different : lead ≠ front := by
    rintro rfl
    refine foreign.not_both_prefix (List.prefix_append left back) ?_
    rw [whole, split, List.append_assoc, ← List.append_assoc]
    exact List.prefix_append _ _
  by_cases again : left <:+: front ++ (placeholder ++ rest)
  · obtain ⟨first, tail, found, put⟩ := exists_replaceAll placeholder foreign.ne_nil again
    rw [put] at swapped
    have lengths := congrArg List.length swapped
    simp only [List.length_append, List.length_nil] at lengths
    obtain rfl := unordered.marked.eq_of_append outside
      (fun inside => absurd inside.length_le (by omega)) swapped
    rw [List.append_cancel_left_eq, List.append_cancel_left_eq] at swapped
    rw [(replaceAll_eq_nil_iff unordered.marked.ne_nil).mp swapped.symm, List.append_nil] at found
    have starts : lead <+: front ++ (placeholder ++ rest) := found ▸ List.prefix_append lead left
    rcases List.prefix_or_prefix_of_prefix starts (List.prefix_append front _) with
      ⟨more, rfl⟩ | ⟨more, rfl⟩
    · rw [List.append_assoc, List.append_cancel_left_eq] at found
      exact foreign.2 (found ▸ List.infix_append' more placeholder rest)
    · rw [List.append_assoc, List.append_cancel_left_eq] at found
      obtain ⟨mark, word, rfl, once⟩ := unordered.marked
      obtain ⟨head, front, rfl⟩ := List.exists_cons_of_ne_nil someFront
      cases more with
      | nil => exact different (List.append_nil _)
      | cons next more =>
          rw [List.cons_append, List.cons_append, List.cons.injEq] at found
          rw [List.cons_append, List.cons_append, List.cons.injEq] at split
          refine once ?_
          rw [split.2, found.1]
          simp
  · rw [replaceAll_of_absent again] at swapped
    refine different (unordered.marked.eq_of_append outside (fun inside => ?_) swapped)
    exact foreign.2 (inside.trans early.isInfix)

private theorem not_shares (memLeft : left ∈ tokens) (memRight : right ∈ tokens)
    (different : left ≠ right)
    (shares : ∀ s', s'.length < s.length → ∀ token ∈ tokens, left ≠ token →
      ¬Shares left token s')
    (makes : ∀ s', s'.length < s.length → ¬Makes placeholder left right s') :
    ¬Shares left right s := by
  intro share
  have swapped := unordered.swap memLeft memRight different
    (unordered.alone_of_shares memLeft memRight share shares)
  obtain ⟨init, middle, back, whole, rfl, -, someMiddle, -, rfl⟩ := share
  rw [← List.append_assoc, ← whole] at swapped makes
  have within : back <:+: middle ++ back := (List.suffix_append middle back).isInfix
  have inside : middle ++ back <:+: left ++ back :=
    ⟨init, [], by rw [whole, List.append_nil, List.append_assoc]⟩
  have foreign := unordered.foreign _ memRight
  have absent : ¬left <:+: back := fun found =>
    unordered.not_infix memLeft memRight different (found.trans within)
  obtain ⟨front, last, found, replaced⟩ := exists_replaceAll placeholder foreign.ne_nil inside
  have someFront : front ≠ [] := by
    rintro rfl
    have starts : middle ++ back <+: left ++ back := found ▸ List.prefix_append _ last
    rcases List.prefix_or_prefix_of_prefix starts (List.prefix_append left back) with less | more
    · exact unordered.not_infix memRight memLeft different.symm less.isInfix
    · exact unordered.not_infix memLeft memRight different more.isInfix
  have early : front <+: left := by
    have starts : front <+: left ++ back := found ▸ List.prefix_append front _
    refine List.prefix_of_prefix_length_le starts (List.prefix_append left back) ?_
    have lengths := congrArg List.length found
    simp only [List.length_append] at lengths
    omega
  have positive := List.length_pos_iff.mpr someMiddle
  rw [replaceAll_append (unordered.ne_nil memLeft), replaceAll_of_absent absent, replaced]
    at swapped
  by_cases made : middle ++ back <:+: placeholder ++ back
  · obtain ⟨lead, piece, split, same, put⟩ := unordered.replaceAll_behind memRight
      (by rw [List.length_append]; omega) made makes
    rw [List.append_cancel_right_eq] at same
    subst same
    rw [put] at swapped
    exact unordered.not_shares_of_made memLeft someMiddle someFront early split found swapped
  · rw [replaceAll_of_absent made] at swapped
    exact unordered.not_shares_of_absent memLeft memRight within someFront early inside replaced
      swapped

/-- There is no text in which secrets share letters, or in which one is made. -/
theorem no_critical (s : List α) : ∀ left ∈ tokens, ∀ right ∈ tokens, left ≠ right →
    ¬Shares left right s ∧ ¬Makes placeholder left right s := by
  induction length : s.length using Nat.strongRecOn generalizing s with
  | ind n ih =>
      have shares : ∀ s', s'.length ≤ n → ∀ left ∈ tokens, ∀ right ∈ tokens, left ≠ right →
          ¬Shares left right s' := by
        intro s' less left memLeft right memRight different
        have below : ∀ s'', s''.length < s'.length → ∀ token ∈ tokens, left ≠ token →
            ¬Shares left token s'' ∧ ¬Makes placeholder left token s'' :=
          fun s'' shorter => ih s''.length (by omega) s'' rfl left memLeft
        exact unordered.not_shares memLeft memRight different
          (fun s'' shorter token mem other => (below s'' shorter token mem other).1)
          fun s'' shorter => (below s'' shorter right memRight different).2
      intro left memLeft right memRight different
      exact ⟨shares s length.le left memLeft right memRight different,
        unordered.not_makes memLeft memRight different fun s' less => shares s' (by omega)⟩

/-- Secrets of no order do not touch, and none makes another. -/
theorem apart_unmade (memLeft : left ∈ tokens) (memRight : right ∈ tokens)
    (different : left ≠ right) : Clear right left ∧ Unmade left placeholder right := by
  constructor
  · rintro tail ⟨front, rfl⟩ some
    refine ⟨?_, fun starts => ?_⟩
    · rintro ⟨back, rfl⟩
      refine (unordered.no_critical _ _ memLeft _ memRight different).1
        ⟨front, tail, back, rfl, rfl, ?_, some, ?_, rfl⟩
      · rintro rfl
        exact unordered.not_infix memLeft memRight different (List.prefix_append tail back).isInfix
      · rintro rfl
        refine unordered.not_infix memRight memLeft different.symm ?_
        rw [List.append_nil]
        exact (List.suffix_append front tail).isInfix
    · exact unordered.not_infix memRight memLeft different.symm
        (starts.isInfix.trans (List.suffix_append front tail).isInfix)
  · by_contra made
    obtain ⟨front, back, first, inside, rest⟩ := exists_of_not_unmade made unordered.marked.ne_nil
      (unordered.ne_nil memRight)
    exact (unordered.no_critical _ _ memLeft _ memRight different).2
      ⟨front, back, rfl, first, inside, rest⟩

end Unordered

end Orders

end Velkir.Logging
