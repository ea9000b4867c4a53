import Velkir.ConfigAdmission

/-!
# One layer for each directive

A raw line is dropped where an override sets its directive. Whole keys are compared with first
words.
-/

namespace Velkir.ValkeyConf

open GoText

variable {table : CaseTable} {inputs : Inputs} {line : List Char}
  {override : List Char × List Char}

/-- No surviving override is in the snippet, and the operator's come first. -/
structure OneLayer (table : CaseTable) (inputs : Inputs) : Prop where
  override : ∀ override ∈ surviving table inputs, directive table override.1 ≠ [] →
    ∀ line ∈ (userText table inputs).splitOn '\n', directive table line ≠ directive table override.1
  mandatory : ∀ configuration overrides,
    operatorBlock inputs <+: render table { inputs with configuration, overrides }

/-- A key of one word is skipped under the directive it sets. -/
theorem directive_mem_overrideKeys (survives : override ∈ surviving table inputs)
    (named : directive table override.1 ≠ []) (word : firstWord override.1 = trimSpace override.1) :
    directive table override.1 ∈ overrideKeys table inputs := by
  refine List.mem_map.mpr ⟨override, survives, ?_⟩
  rw [directive_eq] at named ⊢
  split at named
  · exact absurd rfl named
  next proper => rw [if_neg proper, word]

theorem mem_userText_of_unskipped (survives : override ∈ surviving table inputs)
    (named : directive table override.1 ≠ [])
    (unskipped : directive table override.1 ∉ overrideKeys table inputs)
    (listed : line ∈ inputs.configuration.splitOn '\n')
    (same : directive table line = directive table override.1) :
    line ∈ (userText table inputs).splitOn '\n' := by
  have nonempty : line ≠ [] := by
    rintro rfl
    exact named (same ▸ rfl)
  refine (mem_userText nonempty).mpr ⟨listed, fun skipped => ?_⟩
  rw [same, mem_skip] at skipped
  exact skipped.2.elim (not_owned_of_surviving survives) unskipped

/-- One layer each, unless a key of several words shares its first word with a raw line only. -/
theorem oneLayer_iff (table : CaseTable) (inputs : Inputs) :
    OneLayer table inputs ↔
      ∀ override ∈ surviving table inputs, firstWord override.1 ≠ trimSpace override.1 →
        directive table override.1 ≠ [] →
          ∀ line ∈ inputs.configuration.splitOn '\n',
            directive table line = directive table override.1 →
              directive table override.1 ∈ overrideKeys table inputs := by
  constructor
  · intro layered override survives _ named line listed same
    by_contra unskipped
    exact layered.override override survives named line
      (mem_userText_of_unskipped survives named unskipped listed same) same
  · intro condition
    refine ⟨fun override survives named line kept same => ?_, fun configuration overrides => ?_⟩
    · have nonempty : line ≠ [] := by
        rintro rfl
        exact named (same ▸ rfl)
      obtain ⟨listed, unskipped⟩ := (mem_userText nonempty).mp kept
      rw [same, mem_skip] at unskipped
      refine unskipped ⟨named, .inr ?_⟩
      by_cases word : firstWord override.1 = trimSpace override.1
      · exact directive_mem_overrideKeys survives named word
      · exact condition override survives word named line listed same
    · unfold render
      rw [List.append_assoc]
      exact List.prefix_append _ _

/-- An override with a two-word key, beside a raw line of its directive. -/
def twoWordKey : Inputs where
  persistent := true
  configuration := "save 60 1".toList
  overrides := [("save 900".toList, "1".toList)]
  minReplicasToWrite := none
  minReplicasMaxLag := none

private theorem firstWord_save :
    firstWord "save 60 1".toList = "save".toList ∧ firstWord "save 900".toList = "save".toList := by
  repeat rw [String.toList_ofList]
  decide

theorem directive_save :
    directive table "save 60 1".toList = "save".toList ∧
      directive table "save 900".toList = "save".toList := by
  have valid : ∀ c ∈ "save".toList, nameChar c = true := by
    rw [String.toList_ofList]
    exact List.all_eq_true.mp (by decide)
  obtain ⟨raw, key⟩ := firstWord_save
  exact ⟨(directive_name (raw ▸ valid)).trans raw, (directive_name (key ▸ valid)).trans key⟩

private theorem twoWordKey_survives :
    ("save 900".toList, "1".toList) ∈ surviving CaseTable.asciiOnly twoWordKey := by
  refine mem_surviving.mpr ⟨List.mem_singleton.mpr rfl, ?_, ?_⟩
  · repeat rw [String.toList_ofList]
    decide
  · rw [directive_save.2, owned_iff]
    rintro (home | banned)
    · simp at home
    · exact not_banned (by simp) (by simp [operatorOwnedDirectives]) banned

/-- The raw line stays although the override sets its directive. -/
theorem oneLayer_save_twice :
    ¬ OneLayer CaseTable.asciiOnly twoWordKey ∧
      ("save 900".toList, "1".toList) ∈ surviving CaseTable.asciiOnly twoWordKey ∧
      "save 60 1".toList ∈ (userText CaseTable.asciiOnly twoWordKey).splitOn '\n' := by
  have same : directive CaseTable.asciiOnly "save 60 1".toList =
      directive CaseTable.asciiOnly "save 900".toList :=
    directive_save.1.trans directive_save.2.symm
  have named : directive CaseTable.asciiOnly "save 900".toList ≠ [] := by
    rw [directive_save.2]
    simp
  have unskipped : directive CaseTable.asciiOnly "save 900".toList ∉
      overrideKeys CaseTable.asciiOnly twoWordKey := by
    rw [directive_save.2]
    intro skipped
    obtain ⟨override, survives, whole⟩ := List.mem_map.mp skipped
    rw [List.mem_singleton.mp (mem_surviving.mp survives).1] at whole
    revert whole
    repeat rw [String.toList_ofList]
    decide
  have listed : "save 60 1".toList ∈ twoWordKey.configuration.splitOn '\n' := by
    rw [twoWordKey, String.toList_ofList]
    decide
  have kept := mem_userText_of_unskipped twoWordKey_survives named unskipped listed same
  exact ⟨fun layered => layered.override _ twoWordKey_survives named _ kept same,
    twoWordKey_survives, kept⟩

end Velkir.ValkeyConf
