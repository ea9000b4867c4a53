import Mathlib.Data.List.DropRight

/-!
# A configuration file as the server reads it

The server trims lines, skips blanks and comments, and splits the others into arguments that may be
quoted.
-/

namespace ServerConfig

def isspace (c : Char) : Bool := [' ', '\t', '\n', '\x0b', '\x0c', '\r'].contains c

/-- The characters trimmed from a line, which end a plain argument. -/
def blank (c : Char) : Bool := [' ', '\t', '\n', '\r'].contains c

/-- The value of a hexadecimal digit. -/
def hex (c : Char) : Option Nat :=
  let n := c.toNat
  if 48 ≤ n ∧ n ≤ 57 then some (n - 48)
  else if 97 ≤ n ∧ n ≤ 102 then some (n - 87)
  else if 65 ≤ n ∧ n ≤ 70 then some (n - 55)
  else none

/-- The character written as `\xhh`. -/
def hexPair (high low : Char) : Option Char := do
  return Char.ofNat (16 * (← hex high) + (← hex low))

/-- The character an escape in double quotes stands for. -/
def escape (c : Char) : Char :=
  if c = 'n' then '\n' else if c = 'r' then '\r' else if c = 't' then '\t'
  else if c = 'b' then '\x08' else if c = 'a' then '\x07' else c

/-- The reader stands between arguments, in one, or behind a quote. -/
inductive Mode
  | between
  | plain
  | double
  | single
  | closed

/-- The arguments of a line; `read` is the current one, last character first. -/
def scan : Mode → List Char → List Char → Option (List (List Char))
  | .between, _, [] => some []
  | .between, _, c :: text =>
      if isspace c then scan .between [] text
      else if c = '\x00' then some []
      else if c = '"' then scan .double [] text
      else if c = '\'' then scan .single [] text
      else scan .plain [c] text
  | .plain, read, [] => some [read.reverse]
  | .plain, read, c :: text =>
      if blank c then (scan .between [] text).map (read.reverse :: ·)
      else if c = '\x00' then some [read.reverse]
      else if c = '"' then scan .double read text
      else if c = '\'' then scan .single read text
      else scan .plain (c :: read) text
  | .double, read, '\\' :: 'x' :: high :: low :: text =>
      match hexPair high low with
      | some c => scan .double (c :: read) text
      | none => scan .double ('x' :: read) (high :: low :: text)
  | .double, read, '\\' :: c :: text =>
      if c = '\x00' then none else scan .double (escape c :: read) text
  | .double, read, c :: text =>
      if c = '"' then scan .closed read text
      else if c = '\x00' then none
      else scan .double (c :: read) text
  | .double, _, [] => none
  | .single, read, '\\' :: '\'' :: text => scan .single ('\'' :: read) text
  | .single, read, c :: text =>
      if c = '\'' then scan .closed read text
      else if c = '\x00' then none
      else scan .single (c :: read) text
  | .single, _, [] => none
  | .closed, read, [] => some [read.reverse]
  | .closed, read, c :: text =>
      if isspace c then (scan .between [] text).map (read.reverse :: ·)
      else if c = '\x00' then some [read.reverse]
      else none

def trim (line : List Char) : List Char := (line.dropWhile blank).rdropWhile blank

/-- The lower-cased directive of a line that has one. -/
def loadLine (line : List Char) : Option (List Char) :=
  match trim line with
  | [] => none
  | '#' :: _ => none
  | text =>
      match scan .between [] text with
      | some (name :: _) => some (name.map Char.toLower)
      | _ => none

example : loadLine "  \"require\\x70ass\" secret ".toList = some "requirepass".toList := by
  decide

/-- A character that stands for itself in a plain argument. -/
def ordinary (c : Char) : Bool := !(c == '\x00' || c == '"' || c == '\'')

section Scanning

variable {mode : Mode} {read text name : List Char} {args : List (List Char)}

theorem scan_extends (inside : mode ≠ .between)
    (arguments : scan mode read text = some (name :: args)) : read.reverse <+: name := by
  fun_induction scan mode read text <;> simp_all
  -- the cases left are those that read one more character of the argument
  all_goals exact (List.prefix_append _ _).trans (by assumption)

variable {c : Char}

theorem scan_between_isspace (space : isspace c = true) :
    scan .between read (c :: text) = scan .between [] text := by
  simp [scan, space]

theorem scan_between_letter (letter : isspace c = false) (standsForItself : ordinary c = true) :
    scan .between read (c :: text) = scan .plain [c] text := by
  simp only [ordinary, Bool.not_eq_true', Bool.or_eq_false_iff, beq_eq_false_iff_ne, ne_eq]
    at standsForItself
  simp [scan, letter, standsForItself]

theorem scan_plain_letter (letter : blank c = false) (standsForItself : ordinary c = true) :
    scan .plain read (c :: text) = scan .plain (c :: read) text := by
  simp only [ordinary, Bool.not_eq_true', Bool.or_eq_false_iff, beq_eq_false_iff_ne, ne_eq]
    at standsForItself
  simp [scan, letter, standsForItself]

theorem isspace_of_blank (is_blank : blank c = true) : isspace c = true := by
  simp only [blank, List.contains_eq_mem, List.mem_cons, List.not_mem_nil, or_false,
    decide_eq_true_eq] at is_blank
  rcases is_blank with rfl | rfl | rfl | rfl <;> decide

theorem scan_plain_word {word : List Char}
    (letters : ∀ c ∈ word, blank c = false ∧ ordinary c = true) :
    scan .plain read (word ++ text) = scan .plain (word.reverse ++ read) text := by
  induction word generalizing read with
  | nil => rfl
  | cons c word ih =>
      obtain ⟨letter, standsForItself⟩ := letters c (by simp)
      rw [List.cons_append, scan_plain_letter letter standsForItself,
        ih fun d inside => letters d (List.mem_cons_of_mem _ inside)]
      simp

/-- A plain argument ends here, unless the next character is of it. -/
theorem scan_plain_end {arg : List Char}
    (ends : ∀ c tail, text = c :: tail → ordinary c = true ∧ c ∉ arg)
    (arguments : scan .plain read text = some (arg :: args)) : arg = read.reverse := by
  cases text with
  | nil =>
      simp only [scan, Option.some.injEq, List.cons.injEq] at arguments
      exact arguments.1.symm
  | cons c tail =>
      obtain ⟨standsForItself, outside⟩ := ends c tail rfl
      cases is_blank : blank c with
      | true =>
          simp only [scan, is_blank, if_true, Option.map_eq_some_iff, List.cons.injEq] at arguments
          obtain ⟨others, -, same, -⟩ := arguments
          exact same.symm
      | false =>
          rw [scan_plain_letter is_blank standsForItself] at arguments
          have front := scan_extends (by simp) arguments
          exact absurd (front.subset (by simp)) outside

private theorem dropWhile_blank_word {lead word rest : List Char} (nonempty : word ≠ [])
    (letters : ∀ c ∈ word, blank c = false) :
    (lead ++ word ++ rest).dropWhile blank = lead.dropWhile blank ++ word ++ rest := by
  induction lead with
  | nil =>
      obtain ⟨c, tail, rfl⟩ := List.exists_cons_of_ne_nil nonempty
      simp [letters c]
  | cons c lead ih =>
      by_cases is_blank : blank c = true
      · simpa [is_blank] using ih
      · simp [is_blank]

private theorem rdropWhile_blank_word {lead word rest : List Char} (nonempty : word ≠ [])
    (letters : ∀ c ∈ word, blank c = false) :
    (lead ++ word ++ rest).rdropWhile blank = lead ++ word ++ rest.rdropWhile blank := by
  induction rest using List.reverseRecOn with
  | nil =>
      rw [List.append_nil, List.rdropWhile_nil, List.append_nil, List.rdropWhile_eq_self_iff]
      intro whole
      rw [List.getLast_append_of_ne_nil whole nonempty]
      simp [letters _ (List.getLast_mem nonempty)]
  | append_singleton rest c ih =>
      rw [← List.append_assoc, List.rdropWhile_concat, List.rdropWhile_concat]
      split
      · exact ih
      · rw [List.append_assoc]

/-- Trimming stops at a word on either side. -/
theorem trim_around {lead word rest : List Char} (nonempty : word ≠ [])
    (letters : ∀ c ∈ word, blank c = false) :
    trim (lead ++ word ++ rest) = lead.dropWhile blank ++ word ++ rest.rdropWhile blank := by
  rw [trim, dropWhile_blank_word nonempty letters, rdropWhile_blank_word nonempty letters]

theorem loadLine_scan {line name : List Char} (loads : loadLine line = some name) :
    ∃ arg args, scan .between [] (trim line) = some (arg :: args) ∧
      arg.map Char.toLower = name := by
  unfold loadLine at loads
  split at loads
  · cases loads
  · cases loads
  · split at loads
    next arg args arguments =>
      cases loads
      exact ⟨arg, args, arguments, rfl⟩
    · cases loads

end Scanning

end ServerConfig
