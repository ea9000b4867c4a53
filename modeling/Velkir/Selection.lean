import Mathlib.Data.List.Induction

/-!
# The first best item of a list

A scan holds on to an admitted item until a later one beats it. Taking another item away does not
change the choice.
-/

namespace Selection

variable {α : Type*} (allowed : α → Bool) (beats : α → α → Bool)

/-- The item that is held after looking at one more. -/
def keep (best : Option α) (next : α) : Option α :=
  if !allowed next then best
  else
    match best with
    | none => some next
    | some held => if beats next held then some next else best

def scan (items : List α) : Option α := items.foldl (keep allowed beats) none

/-- It beats every admitted item before it, and none after beats it. -/
structure First (before : List α) (held : α) (after : List α) : Prop where
  admitted : allowed held = true
  ahead : ∀ item ∈ before, allowed item = true → beats held item = true
  behind : ∀ item ∈ after, allowed item = true → beats item held = false

theorem keep_cases (best : Option α) (next : α) :
    (keep allowed beats best next = best ∧
        (allowed next = true → ∃ held, best = some held ∧ beats next held = false)) ∨
      (keep allowed beats best next = some next ∧ allowed next = true ∧
        ∀ held, best = some held → beats next held = true) := by
  cases admitted : allowed next with
  | false => simp [keep, admitted]
  | true =>
      cases best with
      | none => simp [keep, admitted]
      | some held => cases wins : beats next held <;> simp [keep, admitted, wins]

variable {allowed beats} {items before after before' after' : List α} {held next : α}

private theorem keep_wins (admitted : allowed next = true) {best : Option α}
    (wins : ∀ held, best = some held → beats next held = true) :
    keep allowed beats best next = some next := by
  rcases keep_cases allowed beats best next with ⟨-, stays⟩ | ⟨takes, -⟩
  · obtain ⟨held, rfl, loses⟩ := stays admitted
    exact absurd (wins held rfl) (by simp [loses])
  · exact takes

private theorem keep_loses (loses : allowed next = true → beats next held = false) :
    keep allowed beats (some held) next = some held := by
  rcases keep_cases allowed beats (some held) next with ⟨stays, -⟩ | ⟨-, admitted, wins⟩
  · exact stays
  · exact absurd (wins held rfl) (by simp [loses admitted])

@[simp]
theorem scan_concat : scan allowed beats (items ++ [next]) =
    keep allowed beats (scan allowed beats items) next := by
  simp [scan]

theorem scan_mem (found : scan allowed beats items = some held) :
    held ∈ items ∧ allowed held = true := by
  induction items using List.reverseRecOn with
  | nil => cases found
  | append_singleton items next ih =>
      rw [scan_concat] at found
      rcases keep_cases allowed beats (scan allowed beats items) next with
        ⟨stays, -⟩ | ⟨takes, admitted, -⟩
      · exact (ih (stays.symm.trans found)).imp_left (List.mem_append_left _)
      · cases takes.symm.trans found
        exact ⟨by simp, admitted⟩

private theorem refused_of_scan_none (nothing : scan allowed beats items = none) :
    ∀ item ∈ items, allowed item = false := by
  induction items using List.reverseRecOn with
  | nil => simp
  | append_singleton items next ih =>
      rw [scan_concat] at nothing
      rw [List.forall_mem_append, List.forall_mem_singleton]
      rcases keep_cases allowed beats (scan allowed beats items) next with
        ⟨stays, loses⟩ | ⟨takes, -⟩
      · have earlier : scan allowed beats items = none := stays.symm.trans nothing
        refine ⟨ih earlier, Bool.eq_false_iff.mpr fun admitted => ?_⟩
        obtain ⟨held, scanned, -⟩ := loses admitted
        cases earlier.symm.trans scanned
      · cases takes.symm.trans nothing

theorem First.scan (first : First allowed beats before held after) :
    scan allowed beats (before ++ held :: after) = some held := by
  induction after using List.reverseRecOn with
  | nil =>
      rw [scan_concat]
      refine keep_wins first.admitted fun best scanned => ?_
      obtain ⟨mem, admitted⟩ := scan_mem scanned
      exact first.ahead best mem admitted
  | append_singleton after next ih =>
      have shorter : First allowed beats before held after :=
        ⟨first.admitted, first.ahead, fun item mem => first.behind item (by simp [mem])⟩
      rw [← List.cons_append, ← List.append_assoc, scan_concat, ih shorter]
      exact keep_loses (first.behind next (by simp))

theorem First.mono (first : First allowed beats before held after) (sub : before' ⊆ before)
    (sub' : after' ⊆ after) : First allowed beats before' held after' :=
  ⟨first.admitted, fun item mem => first.ahead item (sub mem),
    fun item mem => first.behind item (sub' mem)⟩

/-- Being first depends on the compared parts of the items only. -/
theorem first_map {β : Type*} {part : β → α} {before after : List β} {held : β} :
    First allowed beats (before.map part) (part held) (after.map part) ↔
      First (fun item => allowed (part item)) (fun a b => beats (part a) (part b)) before held
        after := by
  constructor
  · rintro ⟨admitted, ahead, behind⟩
    exact ⟨admitted, List.forall_mem_map.mp ahead, List.forall_mem_map.mp behind⟩
  · rintro ⟨admitted, ahead, behind⟩
    exact ⟨admitted, List.forall_mem_map.mpr ahead, List.forall_mem_map.mpr behind⟩

/-- A scan ends with the first best item of a strict weak order. -/
theorem first_of_scan
    (trans : ∀ a b c, beats a b = true → beats b c = true → beats a c = true)
    (cotrans : ∀ a b c, beats a b = true → beats a c = true ∨ beats c b = true)
    (found : scan allowed beats items = some held) :
    ∃ before after, items = before ++ held :: after ∧ First allowed beats before held after := by
  induction items using List.reverseRecOn generalizing held with
  | nil => cases found
  | append_singleton items next ih =>
      rw [scan_concat] at found
      rcases keep_cases allowed beats (scan allowed beats items) next with
        ⟨stays, loses⟩ | ⟨takes, admitted, wins⟩
      · have scanned : scan allowed beats items = some held := stays.symm.trans found
        obtain ⟨before, after, rfl, first⟩ := ih scanned
        refine ⟨before, after ++ [next], by simp, first.admitted, first.ahead, ?_⟩
        rw [List.forall_mem_append, List.forall_mem_singleton]
        refine ⟨first.behind, fun admitted => ?_⟩
        obtain ⟨best, same, behind⟩ := loses admitted
        cases scanned.symm.trans same
        exact behind
      · cases takes.symm.trans found
        refine ⟨items, [], rfl, admitted, fun item mem able => ?_, by simp⟩
        cases scanned : scan allowed beats items with
        | none => simp [refused_of_scan_none scanned item mem] at able
        | some best =>
            obtain ⟨before, after, rfl, first⟩ := ih scanned
            have beaten : beats next best = true := wins best scanned
            rcases List.mem_append.mp mem with earlier | later
            · exact trans _ _ _ beaten (first.ahead item earlier able)
            · rcases List.mem_cons.mp later with rfl | later
              · exact beaten
              · refine (cotrans _ _ item beaten).resolve_right ?_
                simp [first.behind item later able]

end Selection
