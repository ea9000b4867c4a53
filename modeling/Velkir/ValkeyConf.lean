import Mathlib.Data.Char
import Mathlib.Data.List.Lex
import Mathlib.Data.List.Sort
import Velkir.GoFields

/-!
# The rendered server configuration

`render` writes mandatory directives, the raw snippet without lines of the operator, and overrides.
Lower-casing is arbitrary beyond ASCII.
-/

namespace Velkir.ValkeyConf

open GoText

def podIPPlaceholder : List Char := "_POD_IP_".toList

def valkeyPort : Nat := 6379

/-- The directives that user-supplied configuration may not set. -/
def operatorOwnedDirectives : List (List Char) :=
  ["bind", "daemonize", "masterauth", "min-replicas-max-lag", "min-replicas-to-write", "port",
    "protected-mode", "replica-announce-ip", "replica-announce-port", "replicaof", "requirepass",
    "sentinel announce-hostnames", "sentinel monitor", "sentinel resolve-hostnames", "slaveof",
    "unixsocket"].map String.toList

def containsNUL (s : List Char) : Bool := s.contains '\x00'

/-- The text cannot stand on one line of the configuration. -/
def containsInjectionChars (s : List Char) : Bool :=
  s.contains '\n' || s.contains '\r' || containsNUL s

/-- What the renderer is given. -/
structure Inputs where
  persistent : Bool
  configuration : List Char
  overrides : List (List Char × List Char)
  minReplicasToWrite : Option Int
  minReplicasMaxLag : Option Int

/-- The comment on top of the file. -/
def headerComment : List Char :=
  ("# Managed by velkir. Do not edit by hand; this ConfigMap is\n" ++
    "# overwritten on every reconcile.\n" ++
    "#\n" ++
    "# _POD_IP_ is substituted by the render-config init container at pod\n" ++
    "# start using $(POD_IP) from the Downward API.\n").toList

/-- A line that sets one directive. -/
def setting (name : String) (value : List Char) : List Char := name.toList ++ ' ' :: value

/-- The operator's own lines, in their fixed order. -/
def mandatoryDirectives (inputs : Inputs) : List (List Char) :=
  [setting "dir" (if inputs.persistent then "/data" else "/tmp").toList,
    setting "port" (toString valkeyPort).toList,
    setting "protected-mode" "no".toList,
    setting "replica-announce-ip" podIPPlaceholder,
    setting "replica-announce-port" (toString valkeyPort).toList] ++
  (inputs.minReplicasToWrite.map fun n =>
    setting "min-replicas-to-write" (toString n).toList).toList ++
  (inputs.minReplicasMaxLag.map fun n =>
    setting "min-replicas-max-lag" (toString n).toList).toList

section Rendering

variable (table : CaseTable)

/-- The lower-cased first token, empty for a blank line or comment. -/
def directive (line : List Char) : List Char :=
  let trimmed := trimSpace line
  if trimmed = [] ∨ trimmed.head? = some '#' then []
  else
    match fields trimmed with
    | [] => []
    | first :: _ => table.toLower first

/-- The directives of the operator's lines. -/
def mandatoryKeyset (mandatory : List (List Char)) : List (List Char) :=
  (mandatory.map (directive table)).filter (· ≠ [])

/-- The directives that users may not set. -/
def bannedDirectiveKeys : List (List Char) :=
  (operatorOwnedDirectives.map (directive table)).filter (· ≠ [])

/-- The one-line overrides whose key is not the operator's. -/
def filterOverrides (overrides : List (List Char × List Char))
    (mandatoryKeys bannedKeys : List (List Char)) : List (List Char × List Char) :=
  overrides.filter fun override =>
    !(containsInjectionChars override.1 || containsInjectionChars override.2) &&
      !(mandatoryKeys.contains (directive table override.1) ||
        bannedKeys.contains (directive table override.1))

/-- The directives that raw lines may not set. -/
def mergeKeysets (mandatoryKeys : List (List Char)) (overrides : List (List Char × List Char)) :
    List (List Char) :=
  mandatoryKeys ++ overrides.map fun override => table.toLower (trimSpace override.1)

/-- The raw snippet without the lines whose directive is to be skipped. -/
def stripUserDirectives (raw : List Char) (skip : List (List Char)) : List Char :=
  if raw = [] then []
  else
    let kept := (raw.splitOn '\n').filter fun line =>
      !(directive table line != [] && skip.contains (directive table line))
    let text := trimRight '\n' (kept.flatMap (· ++ ['\n']))
    if text = [] then [] else text ++ ['\n']

/-- The overrides that `render` writes. -/
def surviving (inputs : Inputs) : List (List Char × List Char) :=
  filterOverrides table inputs.overrides (mandatoryKeyset table (mandatoryDirectives inputs))
    (bannedDirectiveKeys table)

/-- The directives a raw line may not set. -/
def skip (inputs : Inputs) : List (List Char) :=
  mergeKeysets table (mandatoryKeyset table (mandatoryDirectives inputs))
    (surviving table inputs) ++ bannedDirectiveKeys table

/-- The user's snippet as `render` writes it. -/
def userText (inputs : Inputs) : List Char :=
  stripUserDirectives table inputs.configuration (skip table inputs)

/-- Keys compare byte by byte, which for UTF-8 is character by character. -/
def keyOrder (left right : List Char × List Char) : Prop :=
  List.lex right.1 left.1 (fun c d => decide (c.toNat < d.toNat)) = false

instance : DecidableRel keyOrder := fun _ _ => instDecidableEqBool _ _

/-- The line of an override. -/
def overrideLine (override : List Char × List Char) : List Char :=
  override.1 ++ ' ' :: override.2

/-- The overrides as `render` writes them, sorted by key. -/
def overridesText (inputs : Inputs) : List Char :=
  (((surviving table inputs).insertionSort keyOrder).map overrideLine).flatMap (· ++ ['\n'])

/-- The header and the operator's own directives. -/
def operatorBlock (inputs : Inputs) : List Char :=
  headerComment ++ (mandatoryDirectives inputs).flatMap (· ++ ['\n'])

/-- The file: the operator's block, the snippet and the overrides. -/
def render (inputs : Inputs) : List Char :=
  operatorBlock inputs ++
    (if userText table inputs = [] then []
      else "\n# spec.valkey.configuration\n".toList ++ userText table inputs) ++
    (if surviving table inputs = [] then []
      else "\n# spec.valkey.configurationOverrides\n".toList ++ overridesText table inputs)

/-- The operator sets this directive itself, or forbids it. -/
def Owned (inputs : Inputs) (word : List Char) : Prop :=
  word ∈ mandatoryKeyset table (mandatoryDirectives inputs) ∨ word ∈ bannedDirectiveKeys table

instance (inputs : Inputs) (word : List Char) : Decidable (Owned table inputs word) :=
  instDecidableOr

/-- Every line of the overrides carries a surviving key's directive. -/
def UnderOwnDirective (inputs : Inputs) : Prop :=
  ∀ line ∈ (overridesText table inputs).splitOn '\n', line ≠ [] →
    (∃ override ∈ surviving table inputs, directive table line = directive table override.1) ∧
      ¬ Owned table inputs (directive table line)

end Rendering

section Directives

variable {table : CaseTable} {line : List Char}

theorem directive_eq (line : List Char) :
    directive table line =
      if (firstWord line).head? = some '#' then [] else table.toLower (firstWord line) := by
  have fields_eq : (fields (trimSpace line)).head? = _ :=
    (congrArg List.head? (fields_trimSpace line)).trans (fields_head? line)
  have head_eq := trimSpace_head? line
  simp only [directive]
  cases word : firstWord line with
  | nil =>
      rw [word, List.head?_nil, List.head?_eq_none_iff] at head_eq
      simp [head_eq, CaseTable.toLower]
  | cons head tail =>
      rw [word, List.head?_cons] at head_eq
      rw [word, if_neg (List.cons_ne_nil head tail)] at fields_eq
      have some_left : trimSpace line ≠ [] := by
        intro empty
        rw [empty] at head_eq
        cases head_eq
      obtain ⟨others, split⟩ := List.head?_eq_some_iff.mp fields_eq
      simp [some_left, head_eq, split]

/-- The directive of a line `key value` is that of a key not blank. -/
theorem directive_overrideLine (override : List Char × List Char) :
    directive table (overrideLine override) =
      if firstWord override.1 = [] then directive table override.2
      else directive table override.1 := by
  have space : isSpace ' ' = true := by decide
  simp only [overrideLine, directive_eq, firstWord_append_space space]
  split <;> rfl

end Directives

section Overrides

variable {table : CaseTable} {inputs : Inputs} {override : List Char × List Char}

theorem mem_surviving :
    override ∈ surviving table inputs ↔
      override ∈ inputs.overrides ∧
        (containsInjectionChars override.1 = false ∧ containsInjectionChars override.2 = false) ∧
        ¬ Owned table inputs (directive table override.1) := by
  simp only [surviving, filterOverrides, List.mem_filter, Bool.and_eq_true, Bool.not_eq_true',
    Bool.or_eq_false_iff, List.contains_eq_mem, decide_eq_false_iff_not, Owned, not_or]

private theorem newline_not_mem_overrideLine (survives : override ∈ surviving table inputs) :
    '\n' ∉ overrideLine override := by
  obtain ⟨-, ⟨key, value⟩, -⟩ := mem_surviving.mp survives
  simp only [containsInjectionChars, Bool.or_eq_false_iff, List.contains_eq_mem,
    decide_eq_false_iff_not] at key value
  simp [overrideLine, key, value]

theorem not_owned_of_surviving (survives : override ∈ surviving table inputs) :
    ¬ Owned table inputs (directive table override.1) :=
  (mem_surviving.mp survives).2.2

theorem not_owned_nil : ¬ Owned table inputs [] := by
  simp [Owned, mandatoryKeyset, bannedDirectiveKeys]

private theorem owned_of_listed {line : List Char} (listed : line ∈ operatorOwnedDirectives)
    (named : directive table line ≠ []) : Owned table inputs (directive table line) :=
  .inr (List.mem_filter.mpr ⟨List.mem_map_of_mem listed, decide_eq_true named⟩)

private theorem mem_overridesText {line : List Char} :
    line ∈ (overridesText table inputs).splitOn '\n' ∧ line ≠ [] ↔
      ∃ override ∈ surviving table inputs, overrideLine override = line := by
  have sorted (override : List Char × List Char) :
      override ∈ (surviving table inputs).insertionSort keyOrder ↔
        override ∈ surviving table inputs :=
    (List.perm_insertionSort keyOrder (surviving table inputs)).mem_iff
  have clean : ∀ line ∈ ((surviving table inputs).insertionSort keyOrder).map overrideLine,
      '\n' ∉ line := by
    intro line inside
    obtain ⟨override, kept, rfl⟩ := List.mem_map.mp inside
    exact newline_not_mem_overrideLine ((sorted override).mp kept)
  rw [overridesText, splitOn_flatMap clean]
  constructor
  · rintro ⟨inside, nonempty⟩
    rcases List.mem_append.mp inside with here | last
    · obtain ⟨override, kept, same⟩ := List.mem_map.mp here
      exact ⟨override, (sorted override).mp kept, same⟩
    · exact absurd (List.mem_singleton.mp last) nonempty
  · rintro ⟨override, kept, rfl⟩
    refine ⟨List.mem_append_left _ (List.mem_map_of_mem ((sorted override).mpr kept)), ?_⟩
    simp [overrideLine]

/-- The lines stay so exactly when no blank key stands before a directive without a key. -/
theorem overrides_underOwnDirective_iff (table : CaseTable) (inputs : Inputs) :
    UnderOwnDirective table inputs ↔
      ∀ override ∈ surviving table inputs, firstWord override.1 = [] →
        ∃ other ∈ surviving table inputs,
          directive table override.2 = directive table other.1 := by
  constructor
  · intro under override survives blank
    obtain ⟨inside, nonempty⟩ := mem_overridesText.mpr ⟨override, survives, rfl⟩
    obtain ⟨⟨other, kept, same⟩, -⟩ := under _ inside nonempty
    rw [directive_overrideLine, if_pos blank] at same
    exact ⟨other, kept, same⟩
  · intro named line inside nonempty
    obtain ⟨override, survives, rfl⟩ := mem_overridesText.mp ⟨inside, nonempty⟩
    have named_by : ∃ other ∈ surviving table inputs,
        directive table (overrideLine override) = directive table other.1 := by
      rw [directive_overrideLine]
      split
      next blank => exact named override survives blank
      next => exact ⟨override, survives, rfl⟩
    obtain ⟨other, kept, same⟩ := named_by
    refine ⟨⟨other, kept, same⟩, ?_⟩
    rw [same]
    exact not_owned_of_surviving kept

/-- An override with an empty key. -/
def unnamedOverride : Inputs where
  persistent := true
  configuration := []
  overrides := [([], "requirepass x".toList)]
  minReplicasToWrite := none
  minReplicasMaxLag := none

private theorem directive_requirepass :
    directive CaseTable.asciiOnly "requirepass".toList = "requirepass".toList := by
  rw [String.toList_ofList]
  decide

theorem owned_requirepass : Owned CaseTable.asciiOnly inputs "requirepass".toList := by
  have listed : "requirepass".toList ∈ operatorOwnedDirectives := List.mem_map_of_mem (by simp)
  rw [← directive_requirepass]
  refine owned_of_listed listed ?_
  rw [directive_requirepass]
  simp

/-- No directive of the operator is empty, so neither list stops an empty key. -/
theorem surviving_unnamed :
    surviving CaseTable.asciiOnly unnamedOverride = [([], "requirepass x".toList)] := by
  have all : ∀ override ∈ unnamedOverride.overrides,
      override ∈ surviving CaseTable.asciiOnly unnamedOverride := by
    intro override listed
    refine mem_surviving.mpr ⟨listed, ?_, ?_⟩
    · rw [List.mem_singleton.mp listed, String.toList_ofList]
      decide
    · rw [List.mem_singleton.mp listed]
      exact not_owned_nil
  exact List.filter_eq_self.mpr fun override listed => (List.mem_filter.mp (all override listed)).2

/-- The override with the empty key sets the password. -/
theorem overrides_set_requirepass :
    ¬ UnderOwnDirective CaseTable.asciiOnly unnamedOverride ∧
      (overridesText CaseTable.asciiOnly unnamedOverride).splitOn '\n' =
        [" requirepass x".toList, []] ∧
      Owned CaseTable.asciiOnly unnamedOverride
        (directive CaseTable.asciiOnly " requirepass x".toList) := by
  have lines : (overridesText CaseTable.asciiOnly unnamedOverride).splitOn '\n' =
      [" requirepass x".toList, []] := by
    rw [overridesText, surviving_unnamed, String.toList_ofList, String.toList_ofList]
    decide
  have sets : directive CaseTable.asciiOnly " requirepass x".toList = "requirepass".toList := by
    rw [String.toList_ofList, String.toList_ofList]
    decide
  have owned : Owned CaseTable.asciiOnly unnamedOverride
      (directive CaseTable.asciiOnly " requirepass x".toList) := by
    rw [sets]
    exact owned_requirepass
  refine ⟨fun under => ?_, lines, owned⟩
  exact (under " requirepass x".toList (by simp [lines]) (by simp)).2 owned

end Overrides

section Iteration

variable {table : CaseTable} {inputs : Inputs}

theorem keyOrder_iff {left right : List Char × List Char} :
    keyOrder left right ↔ left.1 ≤ right.1 := by
  have order : (fun c d : Char => decide (c.toNat < d.toNat)) = fun c d => decide (c < d) := rfl
  rw [keyOrder, order, List.lex_eq_false_iff_ge]
  exact not_lt

instance : Std.Total keyOrder :=
  ⟨fun left right => by simpa only [keyOrder_iff] using le_total left.1 right.1⟩

instance : IsTrans (List Char × List Char) keyOrder :=
  ⟨fun _ _ _ => by simpa only [keyOrder_iff] using le_trans⟩

/-- The overrides are rendered alike in any order of the map. -/
theorem render_perm {overrides : List (List Char × List Char)}
    (perm : overrides.Perm inputs.overrides) (map : (overrides.map Prod.fst).Nodup) :
    render table { inputs with overrides } = render table inputs := by
  have kept : (surviving table { inputs with overrides }).Perm (surviving table inputs) :=
    perm.filter _
  have once : ∀ left ∈ surviving table { inputs with overrides }, ∀ right ∈ surviving table inputs,
      keyOrder left right → keyOrder right left → left = right := by
    intro left memLeft right memRight up down
    refine List.inj_on_of_nodup_map map (List.mem_of_mem_filter memLeft)
      (perm.mem_iff.mpr (List.mem_of_mem_filter memRight)) ?_
    exact le_antisymm (keyOrder_iff.mp up) (keyOrder_iff.mp down)
  have text : overridesText table { inputs with overrides } = overridesText table inputs := by
    have same := List.Perm.eq_of_pairwise (fun left right memLeft memRight => once left
      ((List.mem_insertionSort keyOrder).mp memLeft) right
      ((List.mem_insertionSort keyOrder).mp memRight))
      (List.pairwise_insertionSort keyOrder _) (List.pairwise_insertionSort keyOrder _)
      ((List.perm_insertionSort keyOrder _).trans
        (kept.trans (List.perm_insertionSort keyOrder _).symm))
    rw [overridesText, overridesText, same]
  have skipped (word : List Char) :
      (skip table { inputs with overrides }).contains word = (skip table inputs).contains word := by
    have perm : (skip table { inputs with overrides }).Perm (skip table inputs) :=
      ((kept.map _).append_left _).append_right _
    simp only [List.contains_eq_mem, perm.mem_iff]
  have lines : userText table { inputs with overrides } = userText table inputs := by
    simp only [userText, stripUserDirectives, skipped]
  have some : surviving table { inputs with overrides } = [] ↔ surviving table inputs = [] := by
    rw [← List.length_eq_zero_iff, kept.length_eq, List.length_eq_zero_iff]
  simp only [render, text, lines, some]
  rfl

example (inputs : Inputs) (ordered : inputs.overrides = [(['a'], []), (['b'], [])]) :
    render table { inputs with overrides := [(['b'], []), (['a'], [])] } = render table inputs :=
  render_perm (by rw [ordered]; exact List.Perm.swap _ _ _) (by decide)

end Iteration

end Velkir.ValkeyConf
