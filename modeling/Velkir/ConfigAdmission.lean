import Mathlib.Data.List.Infix
import Velkir.RawConfiguration

/-!
# User configuration at admission

The webhook reads the raw snippet by a regular expression and the override keys by the renderer's
own key set.
-/

namespace Velkir.ValkeyConf

open GoText

/-- The type of a field error. -/
inductive ErrorType
  | invalid
  | forbidden
  deriving DecidableEq

/-- A `field.Error`; the key is set where the path ends in an entry of a map. -/
structure FieldError where
  type : ErrorType
  path : String
  key : Option (List Char)
  badValue : List Char
  detail : List Char
  deriving DecidableEq

def configurationPath : String := "spec.valkey.configuration"

def overridesPath : String := "spec.valkey.configurationOverrides"

/-- The class `\s` of a regular expression. -/
def regexSpace (c : Char) : Bool := ['\t', '\n', '\x0c', '\r', ' '].contains c

/-- The class `[A-Za-z0-9-]`. -/
def regexNameChar (c : Char) : Bool := c.isAlphanum || c == '-'

/-- A longest match of `[A-Za-z][A-Za-z0-9-]*`, and the rest. -/
def regexName : List Char → Option (List Char × List Char)
  | [] => none
  | head :: rest =>
      if head.isAlpha then
        some (head :: rest.takeWhile regexNameChar, rest.dropWhile regexNameChar)
      else none

/-- The group of `^\s*([A-Za-z][A-Za-z0-9-]*(?:\s+[A-Za-z][A-Za-z0-9-]*)?)`. -/
def configLineRegexp (line : List Char) : Option (List Char) :=
  match regexName (line.dropWhile regexSpace) with
  | none => none
  | some (name, rest) =>
      match rest.takeWhile regexSpace, regexName (rest.dropWhile regexSpace) with
      | space :: spaces, some (second, _) => some (name ++ (space :: spaces ++ second))
      | _, _ => some name

/-- The directive of a line, by the regexp. -/
def extractDirective (line : List Char) : List Char :=
  match configLineRegexp line with
  | none => []
  | some group =>
      match fields group with
      | [] => []
      | [first] => first
      | first :: second :: _ =>
          if first = "sentinel".toList then first ++ ' ' :: second else first

section Webhook

-- `quote` is the verb `%q`, `table` the case table
variable (table : CaseTable) (quote : List Char → List Char)

/-- The forbidden directive of a line, if any. -/
def bannedDirective (line : List Char) : Option (List Char) :=
  let trimmed := trimSpace line
  if trimmed = [] ∨ trimmed.head? = some '#' then none
  else if extractDirective trimmed = [] then none
  else
    let directiveKey := table.toLower (extractDirective trimmed)
    if operatorOwnedDirectives.contains directiveKey then some directiveKey else none

/-- The error for a forbidden line. -/
def bannedLineError (number : Nat) (directiveKey : List Char) : FieldError where
  type := .invalid
  path := configurationPath
  key := none
  badValue := "line ".toList ++ (toString (number + 1)).toList
  detail := "directive ".toList ++ quote directiveKey ++
    " is operator-owned and may not be set in spec.valkey.configuration".toList

/-- The error for a forbidden override. -/
def bannedOverride (override : List Char × List Char) : Option FieldError :=
  if (bannedDirectiveKeys table).contains (directive table override.1) then
    some
      { type := .forbidden
        path := overridesPath
        key := some override.1
        badValue := []
        detail := "directive ".toList ++ quote (directive table override.1) ++
          " is operator-owned and may not be set as a configuration override (key ".toList ++
          quote override.1 ++ " normalises to it)".toList }
  else none

/-- Reject forbidden directives. -/
def validateConfigBanlist (raw : List Char) (overrides : List (List Char × List Char)) :
    List FieldError :=
  (if raw = [] then []
    else (raw.splitOn '\n').zipIdx.filterMap fun entry =>
      (bannedDirective table entry.1).map (bannedLineError quote entry.2)) ++
  (overrides.insertionSort keyOrder).filterMap (bannedOverride table quote)

/-- A complaint about a character that cannot stand in the rendered text. -/
def controlCharError (path : String) (key : Option (List Char)) (detail : String) : FieldError where
  type := .invalid
  path := path
  key := key
  badValue := "<control-char>".toList
  detail := detail.toList

/-- Reject NUL bytes. -/
def validateConfigControlChars (raw : List Char) (overrides : List (List Char × List Char)) :
    List FieldError :=
  (if containsNUL raw then
      [controlCharError configurationPath none "must not contain a NUL byte"]
    else []) ++
  (overrides.insertionSort keyOrder).flatMap fun override =>
    (if containsInjectionChars override.1 then
        [controlCharError overridesPath (some override.1)
          ("key must not contain a newline, carriage return, or NUL byte (the renderer emits " ++
            "`<key> <value>`; a control char in the key would inject or truncate a directive " ++
            "in the rendered config)")]
      else []) ++
    (if containsInjectionChars override.2 then
        [controlCharError overridesPath (some override.1)
          ("value must not contain a newline, carriage return, or NUL byte (config values are " ++
            "single-line; a newline here would inject a second directive)")]
      else [])

def sentinelAnnounceIPPlaceholder : List Char := "_POD_IP_".toList

def dedupStrings (texts : List (List Char)) : List (List Char) := texts.eraseDups

/-- The tokens that rendering replaces. -/
def reservedRenderTokens : List (List Char) :=
  dedupStrings [podIPPlaceholder, sentinelAnnounceIPPlaceholder]

/-- A complaint about a token that the init container replaces. -/
def reservedTokenError (path : String) (key : Option (List Char)) (start : String)
    (token : List Char) : FieldError where
  type := .invalid
  path := path
  key := key
  badValue := "<reserved-token>".toList
  detail := start.toList ++ "contains reserved init-container placeholder ".toList ++
    quote token ++
    " (substituted with the pod IP at runtime); choose a different token".toList

/-- Reject the reserved tokens. -/
def validateReservedRenderTokens (raw : List Char) (overrides : List (List Char × List Char)) :
    List FieldError :=
  reservedRenderTokens.flatMap fun token =>
    (if raw ≠ [] ∧ token <:+: raw then
        [reservedTokenError quote configurationPath none "" token]
      else []) ++
    (overrides.filter fun override => token <:+: override.2).map fun override =>
      reservedTokenError quote overridesPath (some override.1) "value " token

/-- The errors of `validate` that are about the server configuration. -/
def configErrors (raw : List Char) (overrides : List (List Char × List Char)) :
    List FieldError :=
  validateConfigBanlist table quote raw overrides ++ validateConfigControlChars raw overrides ++
    validateReservedRenderTokens quote raw overrides

end Webhook

/-- A table that keeps spaces and the comment sign apart, like Unicode's. -/
structure LetterTable extends CaseTable where
  space : ∀ c, isSpace (lower c) = isSpace c
  comment : ∀ c, lower c = '#' → c = '#'

/-- No override is dropped, and a raw line only under a surviving override. -/
def Agrees (table : CaseTable) (inputs : Inputs) : Prop :=
  (∀ override ∈ inputs.overrides, override ∈ surviving table inputs) ∧
    ∀ line ∈ inputs.configuration.splitOn '\n', line ≠ [] →
      line ∉ (userText table inputs).splitOn '\n' →
        ∃ override ∈ surviving table inputs, directive table override.1 = directive table line

section FirstWords

variable {s : List Char}

theorem firstWord_trimSpace (s : List Char) : firstWord (trimSpace s) = firstWord s := by
  have same : (fields (trimSpace s)).head? = (fields s).head? :=
    congrArg List.head? (fields_trimSpace s)
  rw [fields_head?, fields_head?] at same
  split at same <;> split at same <;> simp_all

private theorem firstWord_eq_self (letters : ∀ c ∈ s, isSpace c = false) : firstWord s = s := by
  cases s with
  | nil => rfl
  | cons head rest =>
      rw [firstWord_cons_letter (letters head (by simp)), List.takeWhile_eq_self_iff.mpr]
      intro c inside
      simp [letters c (List.mem_cons_of_mem _ inside)]

/-- A trimmed text starts with its first word. -/
theorem trimSpace_eq_append (s : List Char) :
    ∃ rest, trimSpace s = firstWord s ++ rest ∧ ∀ c tail, rest = c :: tail → isSpace c = true := by
  obtain ⟨lead, rest, shape, spaces, starts⟩ := eq_append_firstWord (trimSpace s)
  rw [firstWord_trimSpace] at shape
  refine ⟨rest, ?_, starts⟩
  cases lead with
  | nil => exact shape
  | cons c lead =>
      have front := trimSpace_head? s
      rw [shape, List.cons_append, List.cons_append, List.head?_cons] at front
      have letter := not_isSpace_of_mem_firstWord (List.mem_of_mem_head? front.symm)
      rw [spaces c (by simp)] at letter
      cases letter

end FirstWords

variable {c : Char}

section Dropping

variable {table : LetterTable} {inputs : Inputs} {line : List Char}

private theorem not_isSpace_of_mem_directive (inside : c ∈ directive table.toCaseTable line) :
    isSpace c = false := by
  rw [directive_eq] at inside
  split at inside
  · cases inside
  · obtain ⟨d, letter, rfl⟩ := List.mem_map.mp inside
    rw [table.space]
    exact not_isSpace_of_mem_firstWord letter

private theorem directive_head?_ne_comment (table : LetterTable) (line : List Char) :
    (directive table.toCaseTable line).head? ≠ some '#' := by
  rw [directive_eq]
  split
  · simp
  next proper =>
    intro comment
    rw [CaseTable.toLower, List.head?_map, Option.map_eq_some_iff] at comment
    obtain ⟨c, front, lowered⟩ := comment
    rw [table.comment c lowered] at front
    exact proper front

/-- A key that is a directive as a whole sets that directive. -/
theorem directive_of_key {key : List Char}
    (whole : table.toLower (trimSpace key) = directive table.toCaseTable line) :
    directive table.toCaseTable key = directive table.toCaseTable line := by
  have letters : ∀ c ∈ trimSpace key, isSpace c = false := by
    intro c inside
    have lowered : table.lower c ∈ directive table.toCaseTable line := by
      rw [← whole]
      exact List.mem_map_of_mem inside
    rw [← table.space]
    exact not_isSpace_of_mem_directive lowered
  have word : firstWord key = trimSpace key := by
    rw [← firstWord_trimSpace, firstWord_eq_self letters]
  rw [directive_eq, word, if_neg, whole]
  intro comment
  refine directive_head?_ne_comment table line ?_
  rw [← whole, CaseTable.toLower, List.head?_map, comment, Option.map_some,
    table.ascii '#' (by decide)]
  decide

/-- With one-line overrides, the sides agree exactly if no directive of the operator is named. -/
theorem agrees_iff
    (clean : ∀ override ∈ inputs.overrides, containsInjectionChars override.1 = false ∧
      containsInjectionChars override.2 = false) :
    Agrees table.toCaseTable inputs ↔
      (∀ override ∈ inputs.overrides,
          ¬ Owned table.toCaseTable inputs (directive table.toCaseTable override.1)) ∧
        ∀ line ∈ inputs.configuration.splitOn '\n',
          ¬ Owned table.toCaseTable inputs (directive table.toCaseTable line) := by
  constructor
  · rintro ⟨keeps, explains⟩
    refine ⟨fun override listed => not_owned_of_surviving (keeps override listed), ?_⟩
    intro line listed owned
    have named : directive table.toCaseTable line ≠ [] := by
      intro empty
      rw [empty] at owned
      exact not_owned_nil owned
    have nonempty : line ≠ [] := by
      rintro rfl
      exact named rfl
    have dropped : line ∉ (userText table.toCaseTable inputs).splitOn '\n' := fun kept =>
      ((mem_userText nonempty).mp kept).2 ⟨named, mem_skip.mpr (.inl owned)⟩
    obtain ⟨override, survives, same⟩ := explains line listed nonempty dropped
    exact not_owned_of_surviving survives (same ▸ owned)
  · rintro ⟨keys, lines⟩
    refine ⟨fun override listed =>
      mem_surviving.mpr ⟨listed, clean override listed, keys override listed⟩, ?_⟩
    intro line listed nonempty dropped
    rw [mem_userText nonempty] at dropped
    have skipped : directive table.toCaseTable line ∈ skip table.toCaseTable inputs := by
      by_contra outside
      exact dropped ⟨listed, fun both => outside both.2⟩
    rcases mem_skip.mp skipped with owned | overridden
    · exact absurd owned (lines line listed)
    · obtain ⟨override, survives, whole⟩ := List.mem_map.mp overridden
      exact ⟨override, survives, directive_of_key whole⟩

end Dropping

section Ownership

variable {table : CaseTable} {inputs : Inputs} {name : List Char}

private theorem directive_setting {word : String} {value : List Char}
    (known : word ∈ mandatoryNames) : directive table (setting word value) = word.toList := by
  have all : ∀ word ∈ mandatoryNames,
      (word.toList ≠ [] ∧ firstWord word.toList = word.toList) ∧
        word.toList.all nameChar = true := by
    simp only [mandatoryNames, List.forall_mem_cons]
    repeat rw [String.toList_ofList]
    decide
  obtain ⟨⟨nonempty, whole⟩, valid⟩ := all word known
  have space : isSpace ' ' = true := by decide
  have first : firstWord (setting word value) = word.toList := by
    rw [setting, firstWord_append_space space, whole, if_neg nonempty]
  rw [directive_name (by rw [first]; exact List.all_eq_true.mp valid), first]

/-- Forbidden directives are names; so are first words, but for sentinel ones. -/
theorem operatorOwnedDirectives_names {line : List Char} (listed : line ∈ operatorOwnedDirectives) :
    (∀ c ∈ firstWord line, nameChar c = true) ∧
      (∃ head rest, firstWord line = head :: rest ∧ head ≠ '-') ∧
      (firstWord line = "sentinel".toList ∨ firstWord line ∈ operatorOwnedDirectives) := by
  have all : (operatorOwnedDirectives.all fun line =>
      (firstWord line).all nameChar && (firstWord line).head?.any (· != '-') &&
        (firstWord line == "sentinel".toList ||
          operatorOwnedDirectives.contains (firstWord line))) = true := by
    simp only [operatorOwnedDirectives, List.map_cons, List.map_nil]
    repeat rw [String.toList_ofList]
    decide
  have here := List.all_eq_true.mp all line listed
  simp only [Bool.and_eq_true, Bool.or_eq_true, beq_iff_eq, List.all_eq_true,
    Option.any_eq_true, bne_iff_ne, List.contains_eq_mem, decide_eq_true_eq] at here
  obtain ⟨⟨valid, head, front, letter⟩, kind⟩ := here
  obtain ⟨rest, word⟩ := List.head?_eq_some_iff.mp front
  exact ⟨valid, ⟨head, rest, word, letter⟩, kind⟩

private theorem banned_of_listed (listed : name ∈ operatorOwnedDirectives)
    (word : firstWord name = name) : name ∈ bannedDirectiveKeys table := by
  obtain ⟨valid, ⟨head, rest, starts, -⟩, -⟩ := operatorOwnedDirectives_names listed
  have same : directive table name = name := (directive_name valid).trans word
  have nonempty : name ≠ [] := by
    rw [← word, starts]
    exact List.cons_ne_nil head rest
  exact List.mem_filter.mpr ⟨List.mem_map.mpr ⟨name, listed, same⟩, decide_eq_true nonempty⟩

/-- All directives the operator sets are forbidden, but for the data directory. -/
theorem mandatoryNames_banned : ∀ word ∈ mandatoryNames,
    word.toList = "dir".toList ∨ word.toList ∈ bannedDirectiveKeys table := by
  have all : ((mandatoryNames.map String.toList).all fun word => word == "dir".toList ||
      operatorOwnedDirectives.contains word && firstWord word == word) = true := by
    simp only [mandatoryNames, operatorOwnedDirectives, List.map_cons, List.map_nil]
    repeat rw [String.toList_ofList]
    decide
  intro word known
  have here := List.all_eq_true.mp all word.toList (List.mem_map_of_mem known)
  simp only [Bool.or_eq_true, Bool.and_eq_true, beq_iff_eq, List.contains_eq_mem,
    decide_eq_true_eq] at here
  exact here.imp_right fun both => banned_of_listed both.1 both.2

theorem owned_iff :
    Owned table inputs name ↔ name = "dir".toList ∨ name ∈ bannedDirectiveKeys table := by
  constructor
  · rintro (mandatory | banned)
    · obtain ⟨line, listed, rfl⟩ := List.mem_map.mp (List.mem_of_mem_filter mandatory)
      obtain ⟨word, known, value, rfl⟩ := mandatoryDirectives_setting listed
      rw [directive_setting known]
      exact mandatoryNames_banned word known
    · exact .inr banned
  · rintro (rfl | banned)
    · have known : "dir" ∈ mandatoryNames := by simp [mandatoryNames]
      have listed : setting "dir" (if inputs.persistent then "/data" else "/tmp").toList ∈
          mandatoryDirectives inputs := by simp [mandatoryDirectives]
      have sets := List.mem_map_of_mem listed (f := directive table)
      rw [directive_setting known] at sets
      exact .inl (List.mem_filter.mpr ⟨sets, by simp⟩)
    · exact .inr banned

theorem sentinel_banned : "sentinel".toList ∈ bannedDirectiveKeys table := by
  have listed : "sentinel monitor".toList ∈ operatorOwnedDirectives :=
    List.mem_map_of_mem (by simp)
  have word : firstWord "sentinel monitor".toList = "sentinel".toList := by
    repeat rw [String.toList_ofList]
    decide
  have same : directive table "sentinel monitor".toList = "sentinel".toList :=
    (directive_name (operatorOwnedDirectives_names listed).1).trans word
  exact List.mem_filter.mpr ⟨List.mem_map.mpr ⟨_, listed, same⟩, by simp⟩

/-- A forbidden key is a name, and listed unless it is about sentinels. -/
theorem banned_name (banned : name ∈ bannedDirectiveKeys table) :
    (∀ c ∈ name, nameChar c = true) ∧ (∃ head rest, name = head :: rest ∧ head ≠ '-') ∧
      (name = "sentinel".toList ∨ name ∈ operatorOwnedDirectives) := by
  obtain ⟨line, listed, rfl⟩ := List.mem_map.mp (List.mem_of_mem_filter banned)
  have named := operatorOwnedDirectives_names listed
  have same : directive table line = firstWord line := directive_name named.1
  rwa [← same] at named

theorem not_banned (other : name ≠ "sentinel".toList) (unlisted : name ∉ operatorOwnedDirectives) :
    name ∉ bannedDirectiveKeys table := fun banned =>
  (banned_name banned).2.2.elim other unlisted

end Ownership

section Naming

variable {table : CaseTable} {quote : List Char → List Char} {line : List Char}

private theorem isAlpha_iff :
    c.isAlpha = true ↔ c.val ≥ 'A'.val ∧ c.val ≤ 'Z'.val ∨ c.val ≥ 'a'.val ∧ c.val ≤ 'z'.val := by
  change (decide (_ ∧ _) || (decide _ && decide _)) = true ↔ _
  simp only [Bool.or_eq_true, Bool.and_eq_true, decide_eq_true_eq]

private theorem isAlpha_of_nameChar (valid : nameChar c.toLower = true) (letter : c ≠ '-') :
    c.isAlpha = true := by
  delta Char.toLower at valid
  split at valid
  next upper => exact isAlpha_iff.mpr (.inl upper)
  next =>
    simp only [nameChar, Bool.or_eq_true, Bool.and_eq_true, decide_eq_true_eq, beq_iff_eq] at valid
    exact isAlpha_iff.mpr (.inr (valid.resolve_right letter))

private theorem regexSpace_of_isAlpha (letter : c.isAlpha = true) : regexSpace c = false := by
  cases space : regexSpace c with
  | false => rfl
  | true =>
      simp only [regexSpace, List.contains_eq_mem, List.mem_cons, List.not_mem_nil, or_false,
        decide_eq_true_eq] at space
      rcases space with rfl | rfl | rfl | rfl | rfl <;> revert letter <;> decide

private theorem ascii_of_regexNameChar (name : regexNameChar c = true) : c.toNat < 128 := by
  simp only [regexNameChar, Char.isAlphanum, isAlpha_iff, Char.isDigit, Bool.or_eq_true,
    Bool.and_eq_true, decide_eq_true_eq, beq_iff_eq, ge_iff_le, UInt32.le_iff_toNat_le] at name
  rcases name with ((⟨-, upper⟩ | ⟨-, lower⟩) | ⟨-, digit⟩) | rfl
  · exact lt_of_le_of_lt upper (by decide)
  · exact lt_of_le_of_lt lower (by decide)
  · exact lt_of_le_of_lt digit (by decide)
  · decide

theorem not_regexNameChar_of_isSpace (space : isSpace c = true) : regexNameChar c = false := by
  simp only [isSpace, List.contains_eq_mem, List.mem_cons, List.not_mem_nil, or_false,
    Bool.or_eq_true, Bool.and_eq_true, decide_eq_true_eq] at space
  rcases space with listed | ⟨large, -⟩
  · rcases listed with rfl | rfl | rfl | rfl | rfl | rfl | rfl | rfl | rfl | rfl | rfl | rfl |
      rfl | rfl <;> decide
  · cases name : regexNameChar c with
    | false => rfl
    | true =>
        have small := ascii_of_regexNameChar name
        omega

private theorem regexName_word {head : Char} {tail rest : List Char} (letter : head.isAlpha = true)
    (plain : ∀ c ∈ tail, regexNameChar c = true)
    (starts : ∀ c after, rest = c :: after → isSpace c = true) :
    regexName (head :: tail ++ rest) = some (head :: tail, rest) := by
  rw [List.cons_append, regexName, if_pos letter, List.takeWhile_append_of_pos plain,
    List.dropWhile_append_of_pos plain]
  cases rest with
  | nil => simp
  | cons c after =>
      have stops := not_regexNameChar_of_isSpace (starts c after rfl)
      simp [stops]

/-- The regular expression reads a plain name as the renderer does. -/
theorem extractDirective_firstWord {head : Char} {tail : List Char}
    (word : firstWord line = head :: tail) (letter : head.isAlpha = true)
    (plain : ∀ c ∈ tail, regexNameChar c = true)
    (other : firstWord line ≠ "sentinel".toList) :
    extractDirective (trimSpace line) = firstWord line := by
  obtain ⟨rest, trimmed, starts⟩ := trimSpace_eq_append line
  have alone : fields (firstWord line) = [firstWord line] :=
    fields_word (by simp [word]) fun c inside => not_isSpace_of_mem_firstWord inside
  have group : ∃ group more, configLineRegexp (trimSpace line) = some group ∧
      fields group = firstWord line :: more := by
    have front : (trimSpace line).dropWhile regexSpace = head :: tail ++ rest := by
      rw [trimmed, word, List.cons_append,
        List.dropWhile_cons_of_neg (by simp [regexSpace_of_isAlpha letter])]
    rw [configLineRegexp, front, regexName_word letter plain starts, ← word]
    simp only
    split
    next space spaces second _ between _ =>
      have blank : isSpace space = true := by
        obtain ⟨after, shape⟩ : ∃ after, rest = space :: after := by
          cases rest with
          | nil => cases between
          | cons c after =>
              rw [List.takeWhile_cons] at between
              split at between
              · exact ⟨after, by rw [(List.cons.inj between).1]⟩
              · cases between
        exact starts space after shape
      refine ⟨_, fields (spaces ++ second), rfl, ?_⟩
      rw [List.cons_append, fields_append_space blank, alone, List.singleton_append]
    next => exact ⟨firstWord line, [], rfl, alone⟩
  obtain ⟨group, more, found, words⟩ := group
  rw [extractDirective, found]
  simp only [words]
  cases more with
  | nil => rfl
  | cons second more => exact if_neg other

/-- A forbidden name in ASCII is a plain word, whatever its case. -/
theorem plain_of_banned (banned : directive table line ∈ bannedDirectiveKeys table)
    (ascii : ∀ c ∈ firstWord line, c.toNat < 128) :
    table.toLower (firstWord line) = directive table line ∧
      (firstWord line).head? ≠ some '#' ∧
      ∃ head tail, firstWord line = head :: tail ∧ head.isAlpha = true ∧
        ∀ c ∈ tail, regexNameChar c = true := by
  obtain ⟨valid, ⟨first, others, starts, letter⟩, -⟩ := banned_name banned
  have proper : (firstWord line).head? ≠ some '#' := by
    intro comment
    rw [directive_eq, if_pos comment] at starts
    cases starts
  have lowered : directive table line = table.toLower (firstWord line) := by
    rw [directive_eq, if_neg proper]
  refine ⟨lowered.symm, proper, ?_⟩
  rw [lowered, CaseTable.toLower_eq ascii] at valid starts
  obtain ⟨head, tail, word, first_eq, -⟩ := List.map_eq_cons_iff.mp starts
  have plain : ∀ c ∈ firstWord line, c ≠ '-' → c.isAlpha = true := fun c inside =>
    isAlpha_of_nameChar (valid _ (List.mem_map_of_mem inside))
  refine ⟨head, tail, word, plain head (by simp [word]) ?_, ?_⟩
  · rintro rfl
    exact letter (first_eq ▸ by decide)
  · intro c inside
    by_cases dash : c = '-'
    · simp [regexNameChar, dash]
    · simp [regexNameChar, Char.isAlphanum, plain c (by simp [word, inside]) dash]

private theorem bannedDirective_ne_none (banned : directive table line ∈ bannedDirectiveKeys table)
    (other : directive table line ≠ "sentinel".toList)
    (ascii : ∀ c ∈ firstWord line, c.toNat < 128) :
    bannedDirective table line ≠ none := by
  obtain ⟨lowered, proper, head, tail, word, letter, plain⟩ := plain_of_banned banned ascii
  have extracted : extractDirective (trimSpace line) = firstWord line := by
    refine extractDirective_firstWord word letter plain fun same => other ?_
    rw [← lowered, same, toLower_name]
    rw [String.toList_ofList]
    exact List.all_eq_true.mp (by decide)
  have listed : table.toLower (firstWord line) ∈ operatorOwnedDirectives := by
    rw [lowered]
    exact (banned_name banned).2.2.resolve_left other
  have front := trimSpace_head? line
  have some_left : ¬ (trimSpace line = [] ∨ (trimSpace line).head? = some '#') := by
    rintro (empty | comment)
    · rw [empty, word] at front
      cases front
    · exact proper (front ▸ comment)
  have named : firstWord line ≠ [] := by simp [word]
  simp [bannedDirective, some_left, extracted, named, listed]

end Naming

section Admitted

variable {table : CaseTable} {quote : List Char → List Char} {raw : List Char}
  {overrides : List (List Char × List Char)}

variable {override : List Char × List Char}

theorem mem_sorted : override ∈ overrides.insertionSort keyOrder ↔ override ∈ overrides :=
  (List.perm_insertionSort keyOrder overrides).mem_iff

theorem validateConfigBanlist_eq_nil :
    validateConfigBanlist table quote raw overrides = [] ↔
      (∀ line ∈ raw.splitOn '\n', bannedDirective table line = none) ∧
        ∀ override ∈ overrides, directive table override.1 ∉ bannedDirectiveKeys table := by
  rw [validateConfigBanlist, List.append_eq_nil_iff]
  refine and_congr ?_ ?_
  · split
    next empty => simp [empty, List.splitOn_nil, bannedDirective, trimSpace]
    next =>
      simp only [List.filterMap_eq_nil_iff, Option.map_eq_none_iff]
      constructor
      · intro silent line listed
        obtain ⟨number, within, rfl⟩ := List.mem_iff_getElem.mp listed
        exact silent (_, number)
          (List.mem_zipIdx_iff_getElem?.mpr (List.getElem?_eq_getElem within))
      · intro silent entry listed
        exact silent entry.1 (List.fst_mem_of_mem_zipIdx listed)
  · simp only [List.filterMap_eq_nil_iff, mem_sorted, bannedOverride, List.contains_iff_mem]
    refine forall₂_congr fun override _ => ?_
    split <;> simp [*]

theorem validateConfigControlChars_eq_nil :
    validateConfigControlChars raw overrides = [] ↔
      containsNUL raw = false ∧ ∀ override ∈ overrides,
        containsInjectionChars override.1 = false ∧ containsInjectionChars override.2 = false := by
  have check (found : Bool) (error : FieldError) :
      (if found = true then [error] else []) = [] ↔ found = false := by
    cases found <;> simp
  rw [validateConfigControlChars, List.append_eq_nil_iff, List.flatMap_eq_nil_iff]
  simp only [List.append_eq_nil_iff, check, mem_sorted]

theorem podIPPlaceholder_ne_nil : podIPPlaceholder ≠ [] := by
  unfold podIPPlaceholder
  simp

theorem placeholder_absent {text : List Char} (plain : '_' ∉ text) :
    ¬ podIPPlaceholder <:+: text := by
  intro inside
  have underscore : '_' ∈ podIPPlaceholder := by
    unfold podIPPlaceholder
    simp
  exact plain (inside.subset underscore)

theorem validateReservedRenderTokens_eq_nil :
    validateReservedRenderTokens quote raw overrides = [] ↔
      ¬ podIPPlaceholder <:+: raw ∧ ∀ override ∈ overrides, ¬ podIPPlaceholder <:+: override.2 := by
  have tokens : reservedRenderTokens = [podIPPlaceholder] := by
    have same : sentinelAnnounceIPPlaceholder = podIPPlaceholder := by
      unfold sentinelAnnounceIPPlaceholder podIPPlaceholder
      with_reducible rfl
    rw [reservedRenderTokens, same, dedupStrings]
    simp [List.eraseDups_cons]
  have check (found : Prop) [Decidable found] (error : FieldError) :
      (if found then [error] else []) = [] ↔ ¬ found := by
    split <;> simp [*]
  have some_text : (raw ≠ [] ∧ podIPPlaceholder <:+: raw) ↔ podIPPlaceholder <:+: raw := by
    refine and_iff_right_of_imp fun inside empty => ?_
    rw [empty, List.infix_nil] at inside
    exact podIPPlaceholder_ne_nil inside
  rw [validateReservedRenderTokens, tokens, List.flatMap_singleton, List.append_eq_nil_iff,
    check, some_text, List.map_eq_nil_iff, List.filter_eq_nil_iff]
  simp only [decide_eq_true_eq]

/-- The renderer keeps what is admitted exactly if the user keeps off three groups of directives. -/
theorem admission_agrees_iff (table : LetterTable) (quote : List Char → List Char) (inputs : Inputs)
    (admitted :
      configErrors table.toCaseTable quote inputs.configuration inputs.overrides = []) :
    Agrees table.toCaseTable inputs ↔
      (∀ override ∈ inputs.overrides, directive table.toCaseTable override.1 ≠ "dir".toList) ∧
        ∀ line ∈ inputs.configuration.splitOn '\n',
          directive table.toCaseTable line ≠ "dir".toList ∧
            directive table.toCaseTable line ≠ "sentinel".toList ∧
            (directive table.toCaseTable line ∈ bannedDirectiveKeys table.toCaseTable →
              ∀ c ∈ firstWord line, c.toNat < 128) := by
  rw [configErrors, List.append_eq_nil_iff, List.append_eq_nil_iff] at admitted
  obtain ⟨⟨banlist, controls⟩, -⟩ := admitted
  obtain ⟨lines, keys⟩ := validateConfigBanlist_eq_nil.mp banlist
  rw [agrees_iff (validateConfigControlChars_eq_nil.mp controls).2]
  refine and_congr ?_ ?_
  · refine forall₂_congr fun override listed => ?_
    rw [owned_iff, or_iff_left (keys override listed)]
  · refine forall₂_congr fun line listed => ?_
    rw [owned_iff, not_or]
    refine and_congr_right fun _ => ⟨fun free => ?_, fun ⟨other, ascii⟩ banned => ?_⟩
    · refine ⟨fun same => ?_, fun banned => absurd banned free⟩
      rw [same] at free
      exact free sentinel_banned
    · exact bannedDirective_ne_none banned other (ascii banned) (lines line listed)

/-- Lower-casing changes a character only from a letter into another. -/
theorem toLower_cases (c : Char) :
    c.toLower = c ∨ (c.isAlpha = true ∧ c.toLower.isAlpha = true) := by
  delta Char.toLower
  split
  next upper =>
    have value : (c.val + ('a'.val - 'A'.val)).toNat = c.val.toNat + 32 := by
      have small : c.val.toNat ≤ 90 := upper.2
      rw [UInt32.toNat_add, show ('a'.val - 'A'.val).toNat = 32 from rfl]
      omega
    refine .inr ⟨isAlpha_iff.mpr (.inl upper), isAlpha_iff.mpr ?_⟩
    simp only [ge_iff_le, UInt32.le_iff_toNat_le, value]
    have small : c.val.toNat ≤ 90 := upper.2
    have large : 65 ≤ c.val.toNat := upper.1
    have bounds : 'a'.val.toNat = 97 ∧ 'z'.val.toNat = 122 := by decide
    omega
  next => exact .inl rfl

private theorem not_isSpace_of_isAlpha (letter : c.isAlpha = true) : isSpace c = false := by
  cases space : isSpace c with
  | false => rfl
  | true =>
      have name := not_regexNameChar_of_isSpace space
      simp [regexNameChar, Char.isAlphanum, letter] at name

theorem isSpace_toLower (c : Char) : isSpace c.toLower = isSpace c := by
  rcases toLower_cases c with same | ⟨letter, lowered⟩
  · rw [same]
  · rw [not_isSpace_of_isAlpha letter, not_isSpace_of_isAlpha lowered]

theorem eq_of_toLower_comment (comment : c.toLower = '#') : c = '#' := by
  rcases toLower_cases c with same | ⟨-, lowered⟩
  · rw [← same, comment]
  · rw [comment] at lowered
    exact absurd lowered (by decide)

/-- The table of ASCII as one that keeps spaces and comment signs apart. -/
def asciiLetters : LetterTable where
  toCaseTable := CaseTable.asciiOnly
  space := isSpace_toLower
  comment := fun _ => eq_of_toLower_comment

/-- The verb `%q` on text without characters to escape. -/
def quoted (s : List Char) : List Char := '"' :: (s ++ ['"'])

def pairInputs (line : List Char) (override : List Char × List Char) : Inputs where
  persistent := true
  configuration := line
  overrides := [override]
  minReplicasToWrite := none
  minReplicasMaxLag := none

theorem configErrors_pair {line : List Char} (single : line.splitOn '\n' = [line])
    (unlisted : table.toLower (extractDirective (trimSpace line)) ∉ operatorOwnedDirectives)
    (unbanned : directive table override.1 ∉ bannedDirectiveKeys table)
    (clean : containsNUL line = false ∧ containsInjectionChars override.1 = false ∧
      containsInjectionChars override.2 = false)
    (tokens : ¬ podIPPlaceholder <:+: line ∧ ¬ podIPPlaceholder <:+: override.2) :
    configErrors table quote line [override] = [] := by
  have silent : bannedDirective table line = none := by simp [bannedDirective, unlisted]
  rw [configErrors, List.append_eq_nil_iff, List.append_eq_nil_iff, validateConfigBanlist_eq_nil,
    validateConfigControlChars_eq_nil, validateReservedRenderTokens_eq_nil, single]
  simp only [List.forall_mem_singleton]
  exact ⟨⟨⟨silent, unbanned⟩, clean⟩, tokens⟩

theorem memory_single : "maxmemory 1mb".toList.splitOn '\n' = ["maxmemory 1mb".toList] := by
  repeat rw [String.toList_ofList]
  decide

theorem memory_unlisted : "maxmemory".toList ∉ operatorOwnedDirectives := by
  simp [operatorOwnedDirectives]

theorem configErrors_memory (unbanned : directive asciiLetters.toCaseTable override.1 ∉
      bannedDirectiveKeys asciiLetters.toCaseTable)
    (clean : containsInjectionChars override.1 = false ∧ containsInjectionChars override.2 = false)
    (token : ¬ podIPPlaceholder <:+: override.2) :
    configErrors asciiLetters.toCaseTable quoted "maxmemory 1mb".toList [override] = [] := by
  have extracted : asciiLetters.toLower (extractDirective (trimSpace "maxmemory 1mb".toList)) =
      "maxmemory".toList := by
    unfold extractDirective
    repeat rw [String.toList_ofList]
    decide
  have plain : containsNUL "maxmemory 1mb".toList = false ∧ '_' ∉ "maxmemory 1mb".toList := by
    repeat rw [String.toList_ofList]
    decide
  exact configErrors_pair memory_single (extracted ▸ memory_unlisted) unbanned ⟨plain.1, clean⟩
    ⟨placeholder_absent plain.2, token⟩

/-- The raw line and the override set the same directive. -/
def memoryInputs : Inputs :=
  pairInputs "maxmemory 1mb".toList ("maxmemory".toList, "2mb".toList)

theorem memoryInputs_admitted :
    configErrors asciiLetters.toCaseTable quoted memoryInputs.configuration
        memoryInputs.overrides = [] ∧
      directive asciiLetters.toCaseTable "maxmemory".toList = "maxmemory".toList ∧
      directive asciiLetters.toCaseTable "maxmemory 1mb".toList = "maxmemory".toList := by
  have key : directive asciiLetters.toCaseTable "maxmemory".toList = "maxmemory".toList := by
    rw [String.toList_ofList]
    decide
  have clean : containsInjectionChars "maxmemory".toList = false ∧
      containsInjectionChars "2mb".toList = false ∧ '_' ∉ "2mb".toList := by
    repeat rw [String.toList_ofList]
    decide
  refine ⟨configErrors_memory ?_ ⟨clean.1, clean.2.1⟩ (placeholder_absent clean.2.2), key, ?_⟩
  · exact key.symm ▸ not_banned (by simp) memory_unlisted
  · repeat rw [String.toList_ofList]
    decide

theorem admission_agrees_memory :
    configErrors asciiLetters.toCaseTable quoted memoryInputs.configuration
        memoryInputs.overrides = [] ∧
      Agrees asciiLetters.toCaseTable memoryInputs := by
  obtain ⟨admitted, key, sets⟩ := memoryInputs_admitted
  refine ⟨admitted, (admission_agrees_iff asciiLetters quoted memoryInputs admitted).mpr ⟨?_, ?_⟩⟩
  · rintro override (_ | ⟨_, ⟨⟩⟩)
    rw [key]
    simp
  · intro line listed
    rw [memoryInputs, pairInputs, memory_single, List.mem_singleton] at listed
    rw [listed, sets]
    exact ⟨by simp, by simp, fun banned => absurd banned (not_banned (by simp) memory_unlisted)⟩

/-- A raw line about sentinels, and an override for the data directory. -/
def directoryInputs : Inputs :=
  pairInputs "sentinel auth-pass mymaster x".toList ("dir".toList, "/x".toList)

/-- The webhook admits both and the renderer writes neither. -/
theorem admission_drops_directory :
    configErrors asciiLetters.toCaseTable quoted directoryInputs.configuration
        directoryInputs.overrides = [] ∧
      ("dir".toList, "/x".toList) ∉ surviving asciiLetters.toCaseTable directoryInputs ∧
      "sentinel auth-pass mymaster x".toList ∉
        (userText asciiLetters.toCaseTable directoryInputs).splitOn '\n' ∧
      ¬ Agrees asciiLetters.toCaseTable directoryInputs := by
  have single : "sentinel auth-pass mymaster x".toList.splitOn '\n' =
      ["sentinel auth-pass mymaster x".toList] := by
    repeat rw [String.toList_ofList]
    decide
  have extracted :
      asciiLetters.toLower (extractDirective (trimSpace "sentinel auth-pass mymaster x".toList)) =
        "sentinel auth-pass".toList := by
    unfold extractDirective
    repeat rw [String.toList_ofList]
    decide
  have key : directive asciiLetters.toCaseTable "dir".toList = "dir".toList := by
    rw [String.toList_ofList]
    decide
  have sets : directive asciiLetters.toCaseTable "sentinel auth-pass mymaster x".toList =
      "sentinel".toList := by
    repeat rw [String.toList_ofList]
    decide
  have unlisted : "sentinel auth-pass".toList ∉ operatorOwnedDirectives := by
    simp [operatorOwnedDirectives]
  have unbanned : "dir".toList ∉ bannedDirectiveKeys asciiLetters.toCaseTable :=
    not_banned (by simp) (by simp [operatorOwnedDirectives])
  have clean : containsNUL "sentinel auth-pass mymaster x".toList = false ∧
      containsInjectionChars "dir".toList = false ∧
      containsInjectionChars "/x".toList = false := by
    repeat rw [String.toList_ofList]
    decide
  have plain : '_' ∉ "sentinel auth-pass mymaster x".toList ∧ '_' ∉ "/x".toList := by
    repeat rw [String.toList_ofList]
    decide
  have dropped : ("dir".toList, "/x".toList) ∉
      surviving asciiLetters.toCaseTable directoryInputs := fun survives =>
    not_owned_of_surviving survives (owned_iff.mpr (.inl key))
  refine ⟨configErrors_pair single (extracted ▸ unlisted) (key.symm ▸ unbanned) clean
    ⟨placeholder_absent plain.1, placeholder_absent plain.2⟩, dropped, ?_,
    fun agrees => dropped (agrees.1 _ (List.mem_singleton_self _))⟩
  intro kept
  refine ((mem_userText (by simp)).mp kept).2 ?_
  rw [sets]
  exact ⟨by simp, mem_skip.mpr (.inl (owned_iff.mpr (.inr sentinel_banned)))⟩

end Admitted

end Velkir.ValkeyConf
