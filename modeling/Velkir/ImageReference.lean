import Velkir.Version

/-!
# Versions of well-formed image references

A repository, a tag of a version with an optional suffix, and a digest. The repository may have
colons of its own.
-/

namespace Velkir.ImageReference

/-- The version and the suffix of a tag. -/
structure Tag where
  major : Nat
  minor : Nat
  patch : Option Nat := none
  suffix : Option (List Char) := none

/-- The numbers are machine integers, and the suffix does not end the tag. -/
structure Tag.Valid (tag : Tag) : Prop where
  major : tag.major < 2 ^ 63
  minor : tag.minor < 2 ^ 63
  patch : ∀ patch ∈ tag.patch, patch < 2 ^ 63
  suffix : ∀ suffix ∈ tag.suffix, ':' ∉ suffix ∧ '/' ∉ suffix ∧ '@' ∉ suffix

/-- The components of the version. -/
def Tag.numbers (tag : Tag) : List (List Char) :=
  [Nat.toDigits 10 tag.major, Nat.toDigits 10 tag.minor] ++
    (tag.patch.map (Nat.toDigits 10)).toList

def Tag.version (tag : Tag) : List Char := List.intercalate ['.'] tag.numbers

def Tag.text (tag : Tag) : List Char := tag.version ++ tag.suffix.elim [] ('-' :: ·)

/-- The reference as it is written. -/
def assemble (repository : List Char) (tag : Tag) (digest : Option (List Char)) : String :=
  String.ofList (repository ++ ':' :: tag.text ++ digest.elim [] ('@' :: ·))

section Characters

variable {tag : Tag} {c : Char}

theorem isDigit_of_mem_numbers {number : List Char} (listed : number ∈ tag.numbers)
    (mem : c ∈ number) : c.isDigit = true := by
  have numeral : ∃ n, number = Nat.toDigits 10 n := by
    simp only [Tag.numbers, List.cons_append, List.nil_append, List.mem_cons, Option.mem_toList,
      Option.map_eq_some_iff] at listed
    rcases listed with rfl | rfl | ⟨n, -, rfl⟩
    · exact ⟨_, rfl⟩
    · exact ⟨_, rfl⟩
    · exact ⟨_, rfl⟩
  obtain ⟨n, rfl⟩ := numeral
  exact Nat.isDigit_of_mem_toDigits (by decide) (by decide) mem

private theorem mem_of_mem_intercalate {sep : List Char} {parts : List (List Char)}
    (mem : c ∈ sep.intercalate parts) : c ∈ sep ∨ ∃ part ∈ parts, c ∈ part := by
  induction parts with
  | nil => simp at mem
  | cons first rest ih =>
      cases rest with
      | nil => exact .inr ⟨first, by simp, by simpa using mem⟩
      | cons second rest =>
          rw [List.intercalate_cons_cons, List.mem_append, List.mem_append] at mem
          rcases mem with (inside | separator) | later
          · exact .inr ⟨first, by simp, inside⟩
          · exact .inl separator
          · rcases ih later with separator | ⟨part, listed, inside⟩
            · exact .inl separator
            · exact .inr ⟨part, List.mem_cons_of_mem _ listed, inside⟩

private theorem mem_version (mem : c ∈ tag.version) : c.isDigit = true ∨ c = '.' := by
  rcases mem_of_mem_intercalate mem with dot | ⟨number, listed, inside⟩
  · exact .inr (List.mem_singleton.mp dot)
  · exact .inl (isDigit_of_mem_numbers listed inside)

theorem not_mem_version (plain : c.isDigit = false) (different : c ≠ '.') : c ∉ tag.version := by
  intro mem
  rcases mem_version mem with digit | dot
  · rw [plain] at digit
    cases digit
  · exact different dot

private theorem not_mem_text (plain : c.isDigit = false) (different : c ≠ '.')
    (dash : c ≠ '-') (absent : ∀ suffix ∈ tag.suffix, c ∉ suffix) : c ∉ tag.text := by
  unfold Tag.text
  rw [List.mem_append]
  rintro (version | rest)
  · exact not_mem_version plain different version
  · cases suffix : tag.suffix with
    | none => simp [suffix] at rest
    | some text =>
        rw [suffix, Option.elim_some, List.mem_cons] at rest
        rcases rest with same | mem
        · exact dash same
        · exact absent text suffix mem

end Characters

private theorem takeWhile_cut {stop : Char} {front : List Char} (absent : stop ∉ front)
    (rest : Option (List Char)) :
    (front ++ rest.elim [] (stop :: ·)).takeWhile (· ≠ stop) = front := by
  have kept : ∀ c ∈ front, decide (c ≠ stop) = true := by
    intro c mem
    refine decide_eq_true ?_
    rintro rfl
    exact absent mem
  rw [List.takeWhile_append_of_pos kept]
  cases rest with
  | none => simp
  | some rest => simp

private theorem tagNumber_toDigits (part : TagPart) (bounded : Bool) {n : Nat} (fits : n < 2 ^ 63) :
    tagNumber part bounded (Nat.toDigits 10 n) = .ok (n : Int) := by
  rw [tagNumber, GoText.atoi_toDigits fits]
  exact if_neg fun negative => absurd negative.2 (by omega)

private theorem version_splitOn (tag : Tag) : tag.version.splitOn '.' = tag.numbers := by
  refine List.splitOn_intercalate '.' (fun number listed mem => ?_) (by simp [Tag.numbers])
  exact absurd (isDigit_of_mem_numbers listed mem) (by decide)

private theorem parseValkeyTag_assemble {repository : List Char} {tag : Tag}
    (plain : '@' ∉ repository) (valid : tag.Valid) (digest : Option (List Char)) :
    parseValkeyTag (assemble repository tag digest) = .ok ⟨tag.major, tag.minor⟩ := by
  have noAt : '@' ∉ repository ++ ':' :: tag.text := by
    have absent : '@' ∉ tag.text := not_mem_text (by decide) (by decide) (by decide)
      fun suffix mem => (valid.suffix suffix mem).2.2
    simp [plain, absent]
  have noColon : ':' ∉ tag.text := not_mem_text (by decide) (by decide) (by decide)
    fun suffix mem => (valid.suffix suffix mem).1
  have noSlash : '/' ∉ tag.text := not_mem_text (by decide) (by decide) (by decide)
    fun suffix mem => (valid.suffix suffix mem).2.1
  have noDash : '-' ∉ tag.version := not_mem_version (by decide) (by decide)
  have version : tag.text.takeWhile (· ≠ '-') = tag.version := takeWhile_cut noDash tag.suffix
  unfold parseValkeyTag assemble
  rw [String.toList_ofList, takeWhile_cut noAt digest]
  dsimp only
  rw [GoText.cutLast_append noColon]
  dsimp only
  rw [if_neg noSlash, version, version_splitOn]
  simp only [Tag.numbers, List.cons_append, List.nil_append,
    tagNumber_toDigits _ _ valid.major, tagNumber_toDigits _ _ valid.minor]
  cases patch : tag.patch with
  | none => rfl
  | some number =>
      simp only [Option.map_some, Option.toList_some,
        tagNumber_toDigits _ _ (valid.patch number patch)]
      rfl

/-- Behind a registry port comes a slash, so no tag is found there. -/
theorem parseValkeyTag_port {registry port path : List Char} (single : ':' ∉ registry)
    (digits : ∀ c ∈ port, c.isDigit = true) (lone : ':' ∉ path) :
    parseValkeyTag (String.ofList (registry ++ ':' :: port ++ '/' :: path)) = .error .noTag := by
  have plain : ∀ c ∈ ':' :: port ++ ['/'], decide (c ≠ '@') = true := by
    intro c mem
    refine decide_eq_true ?_
    rintro rfl
    have listed : '@' ∈ port := by simpa using mem
    exact absurd (digits '@' listed) (by decide)
  unfold parseValkeyTag
  rw [String.toList_ofList]
  dsimp only
  have parts : registry ++ ':' :: port ++ '/' :: path =
      registry ++ ((':' :: port ++ ['/']) ++ path) := by simp
  rw [parts, List.takeWhile_append, List.takeWhile_append_of_pos plain]
  by_cases whole : (registry.takeWhile (· ≠ '@')).length = registry.length
  · rw [if_pos whole]
    have single' : ':' ∉ port ++ '/' :: path.takeWhile (· ≠ '@') := by
      have inPort : ':' ∉ port := fun mem => absurd (digits ':' mem) (by decide)
      have inPath : ':' ∉ path.takeWhile (· ≠ '@') := fun mem =>
        lone ((List.takeWhile_sublist _).subset mem)
      simp only [List.mem_append, List.mem_cons, inPort, inPath, or_false, false_or]
      decide
    have cut : registry ++ (':' :: port ++ ['/'] ++ path.takeWhile (· ≠ '@')) =
        registry ++ ':' :: (port ++ '/' :: path.takeWhile (· ≠ '@')) := by simp
    rw [cut, GoText.cutLast_append single']
    exact if_pos (by simp)
  · -- An `@` in front of the colon cuts the colon off as well.
    rw [if_neg whole]
    have none : ':' ∉ registry.takeWhile (· ≠ '@') := fun mem =>
      single ((List.takeWhile_sublist _).subset mem)
    rw [GoText.cutLast, if_neg none]

/-- A reference has exactly its version; one whose only colon is that of a port has none. -/
theorem parseValkeyTag_exact :
    (∀ (repository : List Char) (tag : Tag) (digest : Option (List Char)),
      '@' ∉ repository → tag.Valid →
        parseValkeyTag (assemble repository tag digest) = .ok ⟨tag.major, tag.minor⟩) ∧
      ∀ registry port path : List Char,
        ':' ∉ registry → (∀ c ∈ port, c.isDigit = true) → ':' ∉ path →
          parseValkeyTag (String.ofList (registry ++ ':' :: port ++ '/' :: path)) =
            .error .noTag :=
  ⟨fun _ _ digest plain valid => parseValkeyTag_assemble plain valid digest,
    fun _ _ _ single digits lone => parseValkeyTag_port single digits lone⟩

example : parseValkeyTag (assemble "host:5000/valkey".toList ⟨8, 1, some 6, some "a".toList⟩ none) =
      .ok ⟨8, 1⟩ ∧
    parseValkeyTag "host:5000/valkey" = .error .noTag := by
  decide

end Velkir.ImageReference
