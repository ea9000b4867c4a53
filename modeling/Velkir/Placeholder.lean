import Velkir.ConfigAdmission
import Velkir.Replace

/-!
# The pod address in the rendered configuration

The init container replaces the placeholder everywhere, also in an override's key, where the webhook
does not look.
-/

namespace Velkir.ValkeyConf

open GoText Replace

def configurationHeader : List Char := "\n# spec.valkey.configuration\n".toList

def overridesHeader : List Char := "\n# spec.valkey.configurationOverrides\n".toList

/-- What `render` writes for the user. -/
def userBlock (table : CaseTable) (inputs : Inputs) : List Char :=
  (if userText table inputs = [] then [] else configurationHeader ++ userText table inputs) ++
    (if surviving table inputs = [] then [] else overridesHeader ++ overridesText table inputs)

variable {table : CaseTable} {inputs : Inputs}

private theorem render_eq (table : CaseTable) (inputs : Inputs) :
    render table inputs = operatorBlock inputs ++ userBlock table inputs := by
  unfold render operatorBlock userBlock configurationHeader overridesHeader
  simp only [List.append_assoc]

private theorem operatorBlock_ends (inputs : Inputs) :
    (operatorBlock inputs).getLast? = some '\n' := by
  have lines (lines : List (List Char)) (nonempty : lines ≠ []) :
      (lines.flatMap (· ++ ['\n'])).getLast? = some '\n' := by
    obtain ⟨front, last, rfl⟩ := (List.eq_nil_or_concat' lines).resolve_left nonempty
    simp
  rw [operatorBlock, List.getLast?_append, lines _ (by simp [mandatoryDirectives])]
  rfl

private theorem userText_ends (some_text : userText table inputs ≠ []) :
    (userText table inputs).getLast? = some '\n' := by
  revert some_text
  unfold userText stripUserDirectives
  split
  · exact fun absent => absurd rfl absent
  · simp only
    split
    · exact fun absent => absurd rfl absent
    · exact fun _ => List.getLast?_concat

theorem placeholder_clean :
    '\n' ∉ podIPPlaceholder ∧ ' ' ∉ podIPPlaceholder ∧
      ¬ podIPPlaceholder <:+: configurationHeader ∧ ¬ podIPPlaceholder <:+: overridesHeader ∧
      configurationHeader.getLast? = some '\n' ∧ overridesHeader.getLast? = some '\n' := by
  unfold podIPPlaceholder configurationHeader overridesHeader
  repeat rw [String.toList_ofList]
  decide

private theorem infix_raw_of_userText (inside : podIPPlaceholder <:+: userText table inputs) :
    podIPPlaceholder <:+: inputs.configuration := by
  obtain ⟨line, kept, contains⟩ :=
    infix_splitOn podIPPlaceholder_ne_nil placeholder_clean.1 inside
  have nonempty : line ≠ [] := by
    rintro rfl
    exact podIPPlaceholder_ne_nil (List.infix_nil.mp contains)
  exact contains.trans (infix_of_mem_splitOn ((mem_userText nonempty).mp kept).1)

theorem infix_overridesText_iff :
    podIPPlaceholder <:+: overridesText table inputs ↔
      ∃ override ∈ surviving table inputs,
        podIPPlaceholder <:+: override.1 ∨ podIPPlaceholder <:+: override.2 := by
  rw [overridesText, infix_flatMap_iff podIPPlaceholder_ne_nil placeholder_clean.1]
  simp only [List.mem_map, mem_sorted, overrideLine, exists_exists_and_eq_and,
    infix_append_sep_iff placeholder_clean.2.1]

theorem infix_userBlock_iff :
    podIPPlaceholder <:+: userBlock table inputs ↔
      podIPPlaceholder <:+: userText table inputs ∨
        podIPPlaceholder <:+: overridesText table inputs := by
  obtain ⟨newline, -, first, second, first_ends, second_ends⟩ := placeholder_clean
  have nowhere : ¬ podIPPlaceholder <:+: [] := fun inside =>
    podIPPlaceholder_ne_nil (List.infix_nil.mp inside)
  have overrides : podIPPlaceholder <:+: (if surviving table inputs = [] then []
        else overridesHeader ++ overridesText table inputs) ↔
      podIPPlaceholder <:+: overridesText table inputs := by
    split
    next none_left => simp [nowhere, overridesText, none_left]
    next => rw [infix_append_of_ends newline second_ends, or_iff_right second]
  unfold userBlock
  split
  next empty => rw [List.nil_append, empty, or_iff_right nowhere, overrides]
  next some_text =>
    have ends : (configurationHeader ++ userText table inputs).getLast? = some '\n' := by
      rw [List.getLast?_append, userText_ends some_text]
      rfl
    rw [infix_append_of_ends newline ends, infix_append_of_ends newline first_ends,
      or_iff_right first, overrides]

/-- The operator's block ends a line, so the user's part is replaced by itself. -/
theorem userBlock_unchanged_iff {podIP : List Char} (different : podIP ≠ podIPPlaceholder) :
    replaceAll podIPPlaceholder podIP (render table inputs) =
        replaceAll podIPPlaceholder podIP (operatorBlock inputs) ++ userBlock table inputs ↔
      ¬ podIPPlaceholder <:+: userBlock table inputs := by
  rw [render_eq, replaceAll_append_of_ends podIPPlaceholder_ne_nil placeholder_clean.1
    (operatorBlock_ends inputs), List.append_cancel_left_eq,
    replaceAll_eq_self_iff podIPPlaceholder_ne_nil different]

/-- The user's part stays exactly when no written key has the placeholder. -/
theorem placeholder_operator_only_iff (table : CaseTable) (quote : List Char → List Char)
    (inputs : Inputs) (podIP : List Char) (different : podIP ≠ podIPPlaceholder)
    (reserved : validateReservedRenderTokens quote inputs.configuration inputs.overrides = []) :
    replaceAll podIPPlaceholder podIP (render table inputs) =
        replaceAll podIPPlaceholder podIP (operatorBlock inputs) ++ userBlock table inputs ↔
      ∀ override ∈ surviving table inputs, ¬ podIPPlaceholder <:+: override.1 := by
  obtain ⟨raw, values⟩ := validateReservedRenderTokens_eq_nil.mp reserved
  rw [userBlock_unchanged_iff different, infix_userBlock_iff, infix_overridesText_iff]
  constructor
  · intro outside override survives inside
    exact outside (.inr ⟨override, survives, .inl inside⟩)
  · rintro keys (snippet | ⟨override, survives, key | value⟩)
    · exact raw (infix_raw_of_userText snippet)
    · exact keys override survives key
    · exact values override (mem_surviving.mp survives).1 value

theorem placeholder_memory :
    replaceAll podIPPlaceholder "10.0.0.7".toList (render asciiLetters.toCaseTable memoryInputs) =
      replaceAll podIPPlaceholder "10.0.0.7".toList (operatorBlock memoryInputs) ++
        userBlock asciiLetters.toCaseTable memoryInputs := by
  have address : "10.0.0.7".toList ≠ podIPPlaceholder ∧ '_' ∉ "maxmemory".toList := by
    unfold podIPPlaceholder
    repeat rw [String.toList_ofList]
    decide
  have admitted := memoryInputs_admitted.1
  rw [configErrors, List.append_eq_nil_iff] at admitted
  refine (placeholder_operator_only_iff asciiLetters.toCaseTable quoted memoryInputs
    "10.0.0.7".toList address.1 admitted.2).mpr fun override survives => ?_
  rw [List.mem_singleton.mp (mem_surviving.mp survives).1]
  exact placeholder_absent address.2

/-- A key with the placeholder in it. -/
def tokenInputs : Inputs :=
  pairInputs "maxmemory 1mb".toList ("x_POD_IP_".toList, "1".toList)

/-- The webhook admits the key and the init container changes its line. -/
theorem placeholder_changes_key :
    configErrors asciiLetters.toCaseTable quoted tokenInputs.configuration
        tokenInputs.overrides = [] ∧
      ("x_POD_IP_".toList, "1".toList) ∈ surviving asciiLetters.toCaseTable tokenInputs ∧
      replaceAll podIPPlaceholder "10.0.0.7".toList
        (overrideLine ("x_POD_IP_".toList, "1".toList)) = "x10.0.0.7 1".toList ∧
      replaceAll podIPPlaceholder "10.0.0.7".toList (render asciiLetters.toCaseTable tokenInputs) ≠
        replaceAll podIPPlaceholder "10.0.0.7".toList (operatorBlock tokenInputs) ++
          userBlock asciiLetters.toCaseTable tokenInputs := by
  have key : directive asciiLetters.toCaseTable "x_POD_IP_".toList = "x_pod_ip_".toList := by
    repeat rw [String.toList_ofList]
    decide
  have unbanned : directive asciiLetters.toCaseTable "x_POD_IP_".toList ∉
      bannedDirectiveKeys asciiLetters.toCaseTable := by
    rw [key]
    exact not_banned (by simp) (by simp [operatorOwnedDirectives])
  have clean : containsInjectionChars "x_POD_IP_".toList = false ∧
      containsInjectionChars "1".toList = false := by
    repeat rw [String.toList_ofList]
    decide
  have plain : '_' ∉ "1".toList ∧ "10.0.0.7".toList ≠ podIPPlaceholder := by
    unfold podIPPlaceholder
    repeat rw [String.toList_ofList]
    decide
  have token : podIPPlaceholder <:+: "x_POD_IP_".toList := by
    unfold podIPPlaceholder
    repeat rw [String.toList_ofList]
    exact (List.suffix_cons 'x' _).isInfix
  have survives : ("x_POD_IP_".toList, "1".toList) ∈
      surviving asciiLetters.toCaseTable tokenInputs := by
    refine mem_surviving.mpr ⟨List.mem_singleton_self _, clean, fun owned => ?_⟩
    rcases owned_iff.mp owned with directory | banned
    · rw [key] at directory
      simp at directory
    · exact unbanned banned
  refine ⟨configErrors_memory unbanned clean (placeholder_absent plain.1), survives, ?_,
    fun same => ?_⟩
  · unfold podIPPlaceholder
    repeat rw [String.toList_ofList]
    decide
  · rw [userBlock_unchanged_iff plain.2, infix_userBlock_iff, infix_overridesText_iff] at same
    exact same (.inr ⟨_, survives, .inl token⟩)

end Velkir.ValkeyConf
