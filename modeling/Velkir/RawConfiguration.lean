import Velkir.ServerConfig
import Velkir.ValkeyConf

/-!
# Raw configuration lines as the server reads them

The renderer compares the first token of a raw line as it is written. The server unquotes it first.
-/

namespace Velkir.ValkeyConf

open GoText ServerConfig

/-- A character of a directive's name. -/
def nameChar (c : Char) : Bool := (97 ≤ c.toNat && c.toNat ≤ 122) || c == '-'

/-- The first token has a quote or a character that ends the line. -/
def Quoted (line : List Char) : Prop := ∃ c ∈ firstWord line, ordinary c = false

instance (line : List Char) : Decidable (Quoted line) := List.decidableBEx _ _

/-- The server finds no directive of the operator in the user's snippet. -/
def Sealed (table : CaseTable) (inputs : Inputs) : Prop :=
  ∀ line ∈ (userText table inputs).splitOn '\n', ∀ name, loadLine line = some name →
    ¬ Owned table inputs name

/-- The names, as the skip set has them, of the surviving overrides. -/
def overrideKeys (table : CaseTable) (inputs : Inputs) : List (List Char) :=
  (surviving table inputs).map fun override => table.toLower (trimSpace override.1)

section Characters

variable {c : Char}

theorem ascii_of_nameChar (valid : nameChar c.toLower = true) : c.toNat < 128 := by
  unfold Char.toLower at valid
  split at valid
  next upper =>
    have small : c.toNat ≤ 90 := upper.2
    omega
  next =>
    simp only [nameChar, Bool.or_eq_true, Bool.and_eq_true, decide_eq_true_eq, beq_iff_eq] at valid
    rcases valid with ⟨-, small⟩ | rfl
    · omega
    · decide

theorem not_isSpace_of_nameChar (valid : nameChar c.toLower = true) : isSpace c = false := by
  have ascii := ascii_of_nameChar valid
  cases space : isSpace c with
  | false => rfl
  | true =>
      simp only [isSpace, List.contains_eq_mem, List.mem_cons, List.not_mem_nil, or_false,
        Bool.or_eq_true, Bool.and_eq_true, decide_eq_true_eq] at space
      rcases space with listed | ⟨large, -⟩
      · rcases listed with rfl | rfl | rfl | rfl | rfl | rfl | rfl | rfl | rfl | rfl | rfl | rfl |
          rfl | rfl <;> revert valid <;> decide
      · omega

private theorem toLower_nameChar (valid : nameChar c = true) : c.toLower = c := by
  unfold Char.toLower
  split
  next upper =>
    have small : c.toNat ≤ 90 := upper.2
    have large : 65 ≤ c.toNat := upper.1
    simp only [nameChar, Bool.or_eq_true, Bool.and_eq_true, decide_eq_true_eq, beq_iff_eq] at valid
    rcases valid with ⟨lower, -⟩ | rfl
    · omega
    · exact absurd large (by decide)
  next => rfl

theorem ordinary_of_isSpace (space : isSpace c = true) : ordinary c = true := by
  cases special : ordinary c with
  | true => rfl
  | false =>
      simp only [ordinary, Bool.not_eq_false', Bool.or_eq_true, beq_iff_eq] at special
      rcases special with (rfl | rfl) | rfl <;> revert space <;> decide

theorem isSpace_of_isspace (space : isspace c = true) : isSpace c = true := by
  simp only [isspace, List.contains_eq_mem, List.mem_cons, List.not_mem_nil, or_false,
    decide_eq_true_eq] at space
  rcases space with rfl | rfl | rfl | rfl | rfl | rfl <;> decide

private theorem isspace_of_letter (letter : isSpace c = false) : isspace c = false := by
  cases space : isspace c with
  | false => rfl
  | true => exact absurd (isSpace_of_isspace space) (by simp [letter])

theorem blank_of_letter (letter : isSpace c = false) : blank c = false := by
  cases is_blank : blank c with
  | false => rfl
  | true => exact absurd (isSpace_of_isspace (isspace_of_blank is_blank)) (by simp [letter])

end Characters

section Names

variable {table : CaseTable} {inputs : Inputs} {line name : List Char}

theorem toLower_name (valid : ∀ c ∈ name, nameChar c = true) : table.toLower name = name := by
  rw [CaseTable.toLower_eq fun c inside => ascii_of_nameChar
    (by rw [toLower_nameChar (valid c inside)]; exact valid c inside)]
  conv_rhs => rw [← List.map_id name]
  exact List.map_congr_left fun c inside => toLower_nameChar (valid c inside)

theorem directive_name (valid : ∀ c ∈ firstWord line, nameChar c = true) :
    directive table line = firstWord line := by
  rw [directive_eq, toLower_name valid, if_neg]
  intro comment
  have inside := List.mem_of_mem_head? comment
  exact absurd (valid '#' inside) (by decide)

/-- The directives that the operator's own lines set. -/
def mandatoryNames : List String :=
  ["dir", "port", "protected-mode", "replica-announce-ip", "replica-announce-port",
    "min-replicas-to-write", "min-replicas-max-lag"]

theorem mandatoryDirectives_setting (listed : line ∈ mandatoryDirectives inputs) :
    ∃ word ∈ mandatoryNames, ∃ value, line = setting word value := by
  simp only [mandatoryDirectives, List.mem_append, List.mem_cons, List.not_mem_nil, or_false,
    Option.mem_toList, Option.map_eq_some_iff] at listed
  rcases listed with (fixed | ⟨n, -, rfl⟩) | ⟨n, -, rfl⟩
  · rcases fixed with rfl | rfl | rfl | rfl | rfl
    · exact ⟨"dir", by decide, _, rfl⟩
    · exact ⟨"port", by decide, _, rfl⟩
    · exact ⟨"protected-mode", by decide, _, rfl⟩
    · exact ⟨"replica-announce-ip", by decide, _, rfl⟩
    · exact ⟨"replica-announce-port", by decide, _, rfl⟩
  · exact ⟨"min-replicas-to-write", by decide, _, rfl⟩
  · exact ⟨"min-replicas-max-lag", by decide, _, rfl⟩

private theorem nameChar_of_mandatory (listed : line ∈ mandatoryDirectives inputs) :
    ∀ c ∈ firstWord line, nameChar c = true := by
  obtain ⟨word, known, value, rfl⟩ := mandatoryDirectives_setting listed
  have all : ∀ word ∈ mandatoryNames, firstWord word.toList ≠ [] ∧
      (firstWord word.toList).all nameChar = true := by
    simp only [mandatoryNames, List.forall_mem_cons]
    repeat rw [String.toList_ofList]
    decide
  have space : isSpace ' ' = true := by decide
  rw [setting, firstWord_append_space space, if_neg (all word known).1]
  exact List.all_eq_true.mp (all word known).2

theorem nameChar_of_owned (owned : Owned table inputs name) : ∀ c ∈ name, nameChar c = true := by
  have named : ∃ line, (∀ c ∈ firstWord line, nameChar c = true) ∧ directive table line = name := by
    rcases owned with mandatory | banned
    · obtain ⟨line, listed, same⟩ := List.mem_map.mp (List.mem_of_mem_filter mandatory)
      exact ⟨line, nameChar_of_mandatory listed, same⟩
    · obtain ⟨line, listed, same⟩ := List.mem_map.mp (List.mem_of_mem_filter banned)
      have all :
          operatorOwnedDirectives.all (fun line => (firstWord line).all nameChar) = true := by
        simp only [operatorOwnedDirectives, List.map_cons, List.map_nil]
        repeat rw [String.toList_ofList]
        decide
      exact ⟨line, List.all_eq_true.mp (List.all_eq_true.mp all line listed), same⟩
  obtain ⟨line, valid, rfl⟩ := named
  rw [directive_name valid]
  exact valid

end Names

section FirstArgument

variable {table : CaseTable} {line name : List Char}

private theorem firstWord_eq_nil {s : List Char} (empty : firstWord s = []) :
    ∀ c ∈ s, isSpace c = true := by
  induction s with
  | nil => intro c inside; cases inside
  | cons head tail ih =>
      cases space : isSpace head with
      | false => rw [firstWord_cons_letter space] at empty; cases empty
      | true =>
          rw [firstWord_cons_space space] at empty
          intro c inside
          rcases List.mem_cons.mp inside with rfl | later
          · exact space
          · exact ih empty c later

/-- A space the server does not skip becomes part of the argument. -/
theorem scan_after_spaces {lead text arg : List Char} {args : List (List Char)}
    (spaces : ∀ c ∈ lead, isSpace c = true) (letters : ∀ c ∈ arg, isSpace c = false)
    (arguments : scan .between [] (lead ++ text) = some (arg :: args)) :
    scan .between [] text = some (arg :: args) := by
  induction lead with
  | nil => exact arguments
  | cons c lead ih =>
      rw [List.cons_append] at arguments
      cases skipped : isspace c with
      | true =>
          rw [scan_between_isspace skipped] at arguments
          exact ih (fun d inside => spaces d (List.mem_cons_of_mem _ inside)) arguments
      | false =>
          have space := spaces c (by simp)
          rw [scan_between_letter skipped (ordinary_of_isSpace space)] at arguments
          have front := scan_extends (by simp) arguments
          have inside : c ∈ arg := front.subset (by simp)
          rw [letters c inside] at space
          cases space

/-- The server reads a directive's name from the line's first word. -/
theorem loadLine_firstWord (loads : loadLine line = some name)
    (valid : ∀ c ∈ name, nameChar c = true) :
    ∃ arg args rest, arg.map Char.toLower = name ∧ firstWord line ≠ [] ∧
      scan .between [] (firstWord line ++ rest) = some (arg :: args) ∧
      ∀ c tail, rest = c :: tail → isSpace c = true := by
  obtain ⟨arg, args, arguments, lowered⟩ := loadLine_scan loads
  have letters : ∀ c ∈ arg, isSpace c = false := fun c inside =>
    not_isSpace_of_nameChar (valid _ (lowered ▸ List.mem_map_of_mem inside))
  obtain ⟨lead, rest, shape, spaces, starts⟩ := eq_append_firstWord line
  by_cases empty : firstWord line = []
  · -- a line of spaces: the server would take one of them for a name
    have all : ∀ c ∈ trim line, isSpace c = true := by
      intro c inside
      refine firstWord_eq_nil empty c ?_
      exact (List.dropWhile_sublist _).subset ((List.rdropWhile_prefix blank _).subset inside)
    have nothing := scan_after_spaces all letters (by rwa [List.append_nil])
    cases nothing
  · have trimmed := @trim_around lead _ rest empty fun c inside =>
      blank_of_letter (not_isSpace_of_mem_firstWord inside)
    rw [← shape] at trimmed
    rw [trimmed, List.append_assoc] at arguments
    refine ⟨arg, args, rest.rdropWhile blank, lowered, empty, ?_, ?_⟩
    · refine scan_after_spaces ?_ letters arguments
      intro c inside
      exact spaces c ((List.dropWhile_sublist _).subset inside)
    · intro c tail front
      obtain ⟨cut, whole⟩ := List.rdropWhile_prefix blank rest
      rw [front] at whole
      exact starts c (tail ++ cut) whole.symm

theorem firstWord_ne_comment (loads : loadLine line = some name)
    (valid : ∀ c ∈ name, nameChar c = true) : (firstWord line).head? ≠ some '#' := by
  intro comment
  obtain ⟨arg, args, rest, lowered, -, arguments, -⟩ := loadLine_firstWord loads valid
  obtain ⟨tail, word⟩ := List.head?_eq_some_iff.mp comment
  rw [word, List.cons_append, scan_between_letter (by decide) (by decide)] at arguments
  have front := scan_extends (by simp) arguments
  have inside : '#' ∈ arg := front.subset (by simp)
  exact absurd (valid _ (lowered ▸ List.mem_map_of_mem inside)) (by decide)

private theorem directive_ne_nil (loads : loadLine line = some name)
    (valid : ∀ c ∈ name, nameChar c = true) : directive table line ≠ [] := by
  obtain ⟨_, _, _, _, nonempty, -⟩ := loadLine_firstWord loads valid
  rw [directive_eq, if_neg (firstWord_ne_comment loads valid), CaseTable.toLower]
  exact fun empty => nonempty (List.map_eq_nil_iff.mp empty)

/-- Unquoted, the first word is the same directive to renderer and server. -/
theorem directive_of_loadLine (loads : loadLine line = some name)
    (valid : ∀ c ∈ name, nameChar c = true) (plain : ¬ Quoted line) :
    directive table line = name := by
  obtain ⟨arg, args, rest, lowered, nonempty, arguments, starts⟩ :=
    loadLine_firstWord loads valid
  have nameChars : ∀ c ∈ arg, nameChar c.toLower = true := fun c inside =>
    valid _ (lowered ▸ List.mem_map_of_mem inside)
  have ordinaries : ∀ c ∈ firstWord line, ordinary c = true := by
    intro c inside
    by_contra special
    exact plain ⟨c, inside, by simpa using special⟩
  have whole : arg = firstWord line := by
    obtain ⟨c, tail, word⟩ := List.exists_cons_of_ne_nil nonempty
    have letters : ∀ d ∈ c :: tail, isSpace d = false := fun d inside =>
      not_isSpace_of_mem_firstWord (word ▸ inside)
    rw [word] at ordinaries arguments ⊢
    rw [List.cons_append,
      scan_between_letter (isspace_of_letter (letters c (by simp))) (ordinaries c (by simp)),
      scan_plain_word fun d inside => ⟨blank_of_letter (letters d (List.mem_cons_of_mem _ inside)),
        ordinaries d (List.mem_cons_of_mem _ inside)⟩] at arguments
    have ended := scan_plain_end (fun d after front => ?_) arguments
    · simpa using ended
    · have space := starts d after front
      refine ⟨ordinary_of_isSpace space, fun inside => ?_⟩
      rw [not_isSpace_of_nameChar (nameChars d inside)] at space
      cases space
  rw [directive_eq, if_neg (firstWord_ne_comment loads valid), ← whole, ← lowered]
  exact CaseTable.toLower_eq fun c inside => ascii_of_nameChar (nameChars c inside)

end FirstArgument

section Snippet

variable {table : CaseTable} {inputs : Inputs} {line name : List Char}

theorem mem_skip {word : List Char} :
    word ∈ skip table inputs ↔ Owned table inputs word ∨ word ∈ overrideKeys table inputs := by
  simp only [skip, mergeKeysets, List.mem_append, Owned, overrideKeys]
  exact or_right_comm

theorem mem_userText (nonempty : line ≠ []) :
    line ∈ (userText table inputs).splitOn '\n' ↔
      line ∈ inputs.configuration.splitOn '\n' ∧
        ¬ (directive table line ≠ [] ∧ directive table line ∈ skip table inputs) := by
  unfold userText stripUserDirectives
  split
  next raw => simp [raw, List.splitOn_nil, nonempty]
  next =>
    simp only
    have whole (text : List Char) : line ∈ (if text = [] then [] else text ++ ['\n']).splitOn '\n' ↔
        line ∈ text.splitOn '\n' := by
      split
      next empty => rw [empty]
      next => exact mem_splitOn_concat nonempty
    rw [whole, mem_splitOn_trimRight nonempty, splitOn_flatMap ?_]
    · simp [nonempty, or_iff_not_imp_left]
    · intro kept inside
      exact not_mem_of_mem_splitOn (List.mem_of_mem_filter inside)

private theorem not_owned_of_quoted (quoted : Quoted line)
    (some_directive : directive table line ≠ []) : ¬ Owned table inputs (directive table line) := by
  intro owned
  obtain ⟨c, inside, special⟩ := quoted
  have valid := nameChar_of_owned owned
  rw [directive_eq] at some_directive valid
  split at some_directive
  · exact some_directive rfl
  next proper =>
    rw [if_neg proper] at valid
    have listed := valid (table.lower c) (List.mem_map_of_mem inside)
    simp only [ordinary, Bool.not_eq_false', Bool.or_eq_true, beq_iff_eq] at special
    rcases special with (rfl | rfl) | rfl <;> rw [table.ascii _ (by decide)] at listed <;>
      revert listed <;> decide

/-- No directive of the operator is found exactly when no line that quotes one gets through. -/
theorem userText_sealed_iff (table : CaseTable) (inputs : Inputs) :
    Sealed table inputs ↔
      ∀ line ∈ inputs.configuration.splitOn '\n', Quoted line →
        (∃ name, loadLine line = some name ∧ Owned table inputs name) →
          directive table line ∈ overrideKeys table inputs := by
  constructor
  · rintro isSealed line listed quoted ⟨name, loads, owned⟩
    by_contra absent
    have nonempty : line ≠ [] := by
      rintro rfl
      cases loads
    refine isSealed line ((mem_userText nonempty).mpr ⟨listed, ?_⟩) name loads owned
    rintro ⟨some_directive, skipped⟩
    rcases mem_skip.mp skipped with named | overridden
    · exact not_owned_of_quoted quoted some_directive named
    · exact absent overridden
  · intro condition line inside name loads owned
    have nonempty : line ≠ [] := by
      rintro rfl
      cases loads
    obtain ⟨listed, kept⟩ := (mem_userText nonempty).mp inside
    have valid := nameChar_of_owned owned
    refine kept ⟨?_, mem_skip.mpr ?_⟩
    · exact directive_ne_nil loads valid
    · by_cases quoted : Quoted line
      · exact .inr (condition line listed quoted ⟨name, loads, owned⟩)
      · rw [directive_of_loadLine loads valid quoted]
        exact .inl owned

/-- A raw line that quotes the name of the password directive. -/
def quotedConfiguration : Inputs where
  persistent := true
  configuration := "maxmemory 1gb\n\"requirepass\" x\n".toList
  overrides := []
  minReplicasToWrite := none
  minReplicasMaxLag := none

/-- The renderer keeps the quoted line and the server sets the password from it. -/
theorem userText_sets_requirepass :
    ¬ Sealed CaseTable.asciiOnly quotedConfiguration ∧
      userText CaseTable.asciiOnly quotedConfiguration = quotedConfiguration.configuration ∧
      loadLine "\"requirepass\" x".toList = some "requirepass".toList := by
  have kept : userText CaseTable.asciiOnly quotedConfiguration =
      quotedConfiguration.configuration := by
    unfold userText skip bannedDirectiveKeys surviving mandatoryDirectives setting podIPPlaceholder
    simp only [operatorOwnedDirectives, List.map_cons, List.map_nil]
    repeat rw [String.toList_ofList]
    decide
  have loads : loadLine "\"requirepass\" x".toList = some "requirepass".toList := by
    rw [String.toList_ofList, String.toList_ofList]
    decide
  refine ⟨fun isSealed => ?_, kept, loads⟩
  refine isSealed "\"requirepass\" x".toList ?_ "requirepass".toList loads owned_requirepass
  rw [kept, quotedConfiguration, String.toList_ofList, String.toList_ofList]
  decide

end Snippet

end Velkir.ValkeyConf
