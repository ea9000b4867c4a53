import Mathlib.Data.List.DropRight

/-!
# Words and lines as the Go standard library cuts them

`firstWord` is the first field of a text. It can be read off a concatenation piece by piece.
-/

namespace GoText

/-- `unicode.IsSpace`. -/
def isSpace (c : Char) : Bool :=
  ['\t', '\n', '\x0b', '\x0c', '\r', ' ', '\u0085', '\u00a0', '\u1680', '\u2028', '\u2029',
    '\u202f', '\u205f', '\u3000'].contains c || (0x2000 ≤ c.toNat && c.toNat ≤ 0x200a)

/-- `strings.TrimSpace`. -/
def trimSpace (s : List Char) : List Char := (s.dropWhile isSpace).rdropWhile isSpace

/-- `strings.Fields`. -/
def fields (s : List Char) : List (List Char) := (s.splitOnP isSpace).filter (· ≠ [])

/-- `strings.TrimRight` with a cutset of one character. -/
def trimRight (cut : Char) (s : List Char) : List Char := s.rdropWhile (· == cut)

/-- A table of lower-case characters: only its ASCII part is fixed. -/
structure CaseTable where
  lower : Char → Char
  ascii : ∀ c : Char, c.toNat < 128 → lower c = c.toLower

/-- `strings.ToLower`. -/
def CaseTable.toLower (table : CaseTable) (s : List Char) : List Char := s.map table.lower

/-- The table that knows no characters beyond ASCII. -/
def CaseTable.asciiOnly : CaseTable where
  lower := Char.toLower
  ascii := fun _ _ => rfl

theorem CaseTable.toLower_eq {table : CaseTable} {s : List Char}
    (ascii : ∀ c ∈ s, c.toNat < 128) : table.toLower s = s.map Char.toLower :=
  List.map_congr_left fun c inside => table.ascii c (ascii c inside)

/-- The longest piece without spaces after the leading spaces. -/
def firstWord (s : List Char) : List Char := (s.dropWhile isSpace).takeWhile (!isSpace ·)

variable {s : List Char} {c : Char}

@[simp]
theorem firstWord_nil : firstWord [] = [] := rfl

theorem firstWord_cons_space (space : isSpace c = true) : firstWord (c :: s) = firstWord s := by
  simp [firstWord, space]

theorem firstWord_cons_letter (letter : isSpace c = false) :
    firstWord (c :: s) = c :: s.takeWhile (!isSpace ·) := by
  simp [firstWord, letter]

theorem not_isSpace_of_mem_firstWord (inside : c ∈ firstWord s) : isSpace c = false := by
  have letter := List.mem_takeWhile_imp inside
  simpa using letter

theorem eq_append_firstWord (s : List Char) :
    ∃ lead rest, s = lead ++ firstWord s ++ rest ∧ (∀ c ∈ lead, isSpace c = true) ∧
      ∀ c tail, rest = c :: tail → isSpace c = true := by
  refine ⟨s.takeWhile isSpace, (s.dropWhile isSpace).dropWhile (!isSpace ·), ?_, ?_, ?_⟩
  · rw [firstWord, List.append_assoc, List.takeWhile_append_dropWhile,
      List.takeWhile_append_dropWhile]
  · intro c inside
    exact List.mem_takeWhile_imp inside
  · intro c tail starts
    have stops := List.head?_dropWhile_not (!isSpace ·) (s.dropWhile isSpace)
    rw [starts] at stops
    simpa using stops

variable {k v : List Char}

private theorem takeWhile_append_space (space : isSpace c = true) :
    (k ++ c :: v).takeWhile (!isSpace ·) = k.takeWhile (!isSpace ·) := by
  induction k with
  | nil => simp [space]
  | cons head tail ih =>
      simp only [List.cons_append, List.takeWhile_cons, ih]

/-- The first word of two texts with a space between is the first of any. -/
theorem firstWord_append_space (space : isSpace c = true) :
    firstWord (k ++ c :: v) = if firstWord k = [] then firstWord v else firstWord k := by
  induction k with
  | nil => simp [firstWord_cons_space space]
  | cons head tail ih =>
      cases letter : isSpace head with
      | true => simp only [List.cons_append, firstWord_cons_space letter, ih]
      | false =>
          simp only [List.cons_append, firstWord_cons_letter letter, takeWhile_append_space space,
            reduceCtorEq, if_false]

theorem fields_cons_space (space : isSpace c = true) : fields (c :: s) = fields s := by
  simp [fields, List.splitOnP_cons_eq_if_modifyHead, space]

theorem fields_append_space (space : isSpace c = true) :
    fields (k ++ c :: v) = fields k ++ fields v := by
  simp [fields, List.splitOnP_append_cons k v space]

private theorem fields_dropWhile (s : List Char) : fields (s.dropWhile isSpace) = fields s := by
  induction s with
  | nil => rfl
  | cons head tail ih =>
      cases space : isSpace head with
      | true => simp [space, ih, fields_cons_space space]
      | false => simp [space]

private theorem fields_rdropWhile (s : List Char) : fields (s.rdropWhile isSpace) = fields s := by
  induction s using List.reverseRecOn with
  | nil => rfl
  | append_singleton front last ih =>
      by_cases space : isSpace last = true
      · rw [List.rdropWhile_concat_pos _ _ _ space, ih, fields_append_space space]
        simp [fields]
      · rw [List.rdropWhile_concat_neg _ _ _ space]

theorem fields_trimSpace (s : List Char) : fields (trimSpace s) = fields s := by
  rw [trimSpace, fields_rdropWhile, fields_dropWhile]

theorem fields_word {word : List Char} (nonempty : word ≠ [])
    (letters : ∀ c ∈ word, isSpace c = false) : fields word = [word] := by
  simp [fields, List.splitOnP_eq_singleton letters, nonempty]

theorem fields_head? (s : List Char) :
    (fields s).head? = if firstWord s = [] then none else some (firstWord s) := by
  induction s with
  | nil => rfl
  | cons head tail ih =>
      cases letter : isSpace head with
      | true => rw [fields_cons_space letter, firstWord_cons_space letter, ih]
      | false =>
          have nonempty : firstWord (head :: tail) ≠ [] := by
            rw [firstWord_cons_letter letter]
            exact List.cons_ne_nil _ _
          have word := fields_word nonempty fun c inside => not_isSpace_of_mem_firstWord inside
          have shape : head :: tail =
              firstWord (head :: tail) ++ tail.dropWhile (!isSpace ·) := by
            rw [firstWord_cons_letter letter, List.cons_append, List.takeWhile_append_dropWhile]
          rw [if_neg nonempty]
          conv_lhs => rw [shape]
          cases rest : tail.dropWhile (!isSpace ·) with
          | nil => simp [word]
          | cons c after =>
              have stops := List.head?_dropWhile_not (!isSpace ·) tail
              rw [rest] at stops
              have space : isSpace c = true := by simpa using stops
              simp [fields_append_space space, word]

theorem trimSpace_head? (s : List Char) : (trimSpace s).head? = (firstWord s).head? := by
  induction s with
  | nil => rfl
  | cons head tail ih =>
      cases letter : isSpace head with
      | true =>
          rw [firstWord_cons_space letter, ← ih, trimSpace, trimSpace,
            List.dropWhile_cons_of_pos letter]
      | false =>
          rw [firstWord_cons_letter letter, trimSpace,
            List.dropWhile_cons_of_neg (by simp [letter])]
          cases trimmed : (head :: tail).rdropWhile isSpace with
          | nil =>
              have space := List.rdropWhile_eq_nil_iff.mp trimmed head (by simp)
              rw [letter] at space
              cases space
          | cons first rest =>
              obtain ⟨cut, whole⟩ := List.rdropWhile_prefix isSpace (l := head :: tail)
              rw [trimmed] at whole
              cases whole
              rfl

variable {sep : Char} {piece : List Char}

theorem not_mem_of_mem_splitOn (inside : piece ∈ s.splitOn sep) : sep ∉ piece := by
  induction s generalizing piece with
  | nil =>
      rw [List.splitOn_nil, List.mem_singleton] at inside
      simp [inside]
  | cons head tail ih =>
      rw [List.splitOn_cons_eq_if_modifyHead] at inside
      split at inside
      next =>
        rcases List.mem_cons.mp inside with empty | later
        · simp [empty]
        · exact ih later
      next different =>
        obtain ⟨first, others, pieces⟩ :=
          List.exists_cons_of_ne_nil (List.splitOn_ne_nil sep tail)
        rw [pieces, List.modifyHead_cons, List.mem_cons] at inside
        rcases inside with here | later
        · have clean := @ih first (by simp [pieces])
          rw [here, List.mem_cons, not_or]
          exact ⟨fun same => different (by simp [same]), clean⟩
        · exact ih (by rw [pieces]; exact List.mem_cons_of_mem _ later)

/-- Lines written one after the other are read back. -/
theorem splitOn_flatMap {lines : List (List Char)} (clean : ∀ line ∈ lines, sep ∉ line) :
    (lines.flatMap (· ++ [sep])).splitOn sep = lines ++ [[]] := by
  induction lines with
  | nil => rfl
  | cons head tail ih =>
      rw [List.flatMap_cons, List.append_assoc, List.singleton_append,
        List.splitOn_append_cons_self_of_not_mem (clean head (by simp)),
        ih fun line inside => clean line (List.mem_cons_of_mem _ inside), List.cons_append]

theorem mem_splitOn_concat (nonempty : piece ≠ []) :
    piece ∈ (s ++ [sep]).splitOn sep ↔ piece ∈ s.splitOn sep := by
  rw [List.splitOn_append_cons_self, List.splitOn_nil, List.mem_append, List.mem_singleton]
  exact or_iff_left nonempty

theorem mem_splitOn_trimRight (nonempty : piece ≠ []) :
    piece ∈ (trimRight sep s).splitOn sep ↔ piece ∈ s.splitOn sep := by
  induction s using List.reverseRecOn with
  | nil => rfl
  | append_singleton front last ih =>
      rw [trimRight, List.rdropWhile_concat]
      split
      next same =>
        rw [beq_iff_eq.mp same, mem_splitOn_concat nonempty]
        exact ih
      next => rfl

end GoText
