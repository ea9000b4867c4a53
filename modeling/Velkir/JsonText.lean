import Mathlib.Data.Char
import Velkir.Overlap

/-!
# JSON text

Values are rendered without blanks and with escapes. A text is read back string by string, in any
spelling.
-/

namespace JsonText

/-- A character of a string, or a byte that is part of none. -/
inductive Rune
  | char (c : Char)
  | stray (b : UInt8)
  deriving DecidableEq

/-- A text as JSON sees it. -/
abbrev Text := List Rune

def Text.ofChars (chars : List Char) : Text := chars.map .char

def replacementChar : Char := Char.ofNat 0xFFFD

/-- The letter that stands for a character behind a backslash. -/
def shortEscape (c : Char) : Option Char :=
  if c = '"' ∨ c = '\\' then some c
  else if c.toNat = 8 then some 'b'
  else if c.toNat = 12 then some 'f'
  else if c = '\n' then some 'n'
  else if c = '\r' then some 'r'
  else if c = '\t' then some 't'
  else none

/-- The four hexadecimal digits of a number. -/
def hex4 (n : Nat) : List Char :=
  [Nat.digitChar (n / 4096 % 16), Nat.digitChar (n / 256 % 16), Nat.digitChar (n / 16 % 16),
    Nat.digitChar (n % 16)]

/-- Characters that are escaped by their number. -/
def isNumbered (c : Char) : Bool :=
  c.toNat < 32 || c == '<' || c == '>' || c == '&' || c.toNat == 0x2028 || c.toNat == 0x2029

/-- The escaped form of a character. -/
def escapeChar (c : Char) : List Char :=
  match shortEscape c with
  | some mark => ['\\', mark]
  | none => if isNumbered c then '\\' :: 'u' :: hex4 c.toNat else [c]

/-- A stray byte is written as the replacement character. -/
def escapeRune : Rune → Text
  | .char c => Text.ofChars (escapeChar c)
  | .stray _ => Text.ofChars ('\\' :: 'u' :: hex4 replacementChar.toNat)

/-- The escaped form of a text. -/
def escape (s : Text) : Text := s.flatMap escapeRune

/-- A character outside the strings. -/
abbrev Mark := { c : Char // c ≠ '"' ∧ c ≠ '\\' }

/-- A mark or a string. -/
inductive Lexeme
  | mark (c : Mark)
  | string (s : Text)

/-- A lexeme as text. -/
def Lexeme.render : Lexeme → Text
  | .mark c => [.char c]
  | .string s => .char '"' :: (escape s ++ [.char '"'])

/-- A value; `null`, truth values and numbers are written as they are. -/
inductive Json
  | literal (marks : List Mark)
  | string (s : Text)
  | array (items : List Json)
  | object (members : List (Text × Json))

def punct (c : Char) (plain : c ≠ '"' ∧ c ≠ '\\' := by decide) : Lexeme := .mark ⟨c, plain⟩

mutual

/-- The lexemes of a value. -/
def Json.lexemes : Json → List Lexeme
  | .literal marks => marks.map .mark
  | .string s => [.string s]
  | .array items => punct '[' :: (itemLexemes items ++ [punct ']'])
  | .object members => punct '\x7b' :: (memberLexemes members ++ [punct '\x7d'])

/-- The lexemes of the items, with commas. -/
def itemLexemes : List Json → List Lexeme
  | [] => []
  | [item] => item.lexemes
  | item :: items => item.lexemes ++ punct ',' :: itemLexemes items

/-- The lexemes of the members, with commas. -/
def memberLexemes : List (Text × Json) → List Lexeme
  | [] => []
  | [(key, value)] => .string key :: punct ':' :: value.lexemes
  | (key, value) :: members =>
      .string key :: punct ':' :: (value.lexemes ++ punct ',' :: memberLexemes members)

end

/-- Lexemes as text. -/
def render (lexemes : List Lexeme) : Text := lexemes.flatMap Lexeme.render

/-- What the letter behind a backslash stands for. -/
def readShort (mark : Char) : Option Char :=
  if mark = '"' ∨ mark = '\\' ∨ mark = '/' then some mark
  else if mark = 'b' then some (Char.ofNat 8)
  else if mark = 'f' then some (Char.ofNat 12)
  else if mark = 'n' then some '\n'
  else if mark = 'r' then some '\r'
  else if mark = 't' then some '\t'
  else none

/-- The value of a hexadecimal digit. -/
def hexValue (c : Char) : Option Nat :=
  if '0' ≤ c ∧ c ≤ '9' then some (c.toNat - 48)
  else if 'a' ≤ c ∧ c ≤ 'f' then some (c.toNat - 87)
  else if 'A' ≤ c ∧ c ≤ 'F' then some (c.toNat - 55)
  else none

/-- The number with these digits, if there are four of them. -/
def codeUnit : List Char → Option Nat
  | [a, b, c, d] => do
      let a ← hexValue a
      let b ← hexValue b
      let c ← hexValue c
      let d ← hexValue d
      some (((a * 16 + b) * 16 + c) * 16 + d)
  | _ => none

/-- The escapes of a character. Surrogates name one only in pairs. -/
inductive Escape : Char → List Char → Prop
  | short {mark c : Char} (read : readShort mark = some c) : Escape c ['\\', mark]
  | unit {digits : List Char} {n : Nat} (read : codeUnit digits = some n) (valid : n.isValidChar) :
      Escape (Char.ofNat n) ('\\' :: 'u' :: digits)
  | lone {digits : List Char} {n : Nat} (read : codeUnit digits = some n)
      (surrogate : ¬n.isValidChar) : Escape replacementChar ('\\' :: 'u' :: digits)
  | pair {high low : List Char} {n m : Nat} (readHigh : codeUnit high = some n)
      (readLow : codeUnit low = some m) (isHigh : 0xD800 ≤ n ∧ n < 0xDC00)
      (isLow : 0xDC00 ≤ m ∧ m < 0xE000) :
      Escape (Char.ofNat (0x10000 + (n - 0xD800) * 1024 + (m - 0xDC00)))
        ('\\' :: 'u' :: high ++ '\\' :: 'u' :: low)

/-- A reader takes a stray byte for the replacement character. -/
def Rune.read : Rune → Rune
  | .char c => .char c
  | .stray _ => .char replacementChar

/-- The second text spells the first one, between the quotes. -/
inductive Spells : Text → Text → Prop
  | nil : Spells [] []
  | plain {r : Rune} {s body : Text} (noQuote : r ≠ .char '"') (noEscape : r ≠ .char '\\')
      (rest : Spells s body) : Spells (r.read :: s) (r :: body)
  | escape {c : Char} {unit : List Char} {s body : Text} (escaped : Escape c unit)
      (rest : Spells s body) : Spells (.char c :: s) (Text.ofChars unit ++ body)

/-- The character is not written as it is. -/
def isEscaped (c : Char) : Bool := (shortEscape c).isSome || isNumbered c

/-- An escape in a rendering stands for one of these. -/
def Special (c : Char) : Prop := isEscaped c ∨ c = replacementChar

instance (c : Char) : Decidable (Special c) := inferInstanceAs (Decidable (_ ∨ _))

/-- Every backslash that begins an escape begins that of a special character. -/
def Faithful : Bool → Text → Prop
  | _, [] => True
  | escaped, r :: text =>
      if r = .char '\\' then
        (escaped = false → ∀ c unit, Escape c unit → Text.ofChars unit <+: r :: text → Special c) ∧
          Faithful (!escaped) text
      else Faithful false text

section Faithful

variable {escaped : Bool} {r : Rune} {text text' : Text} {c : Char} {unit digits : List Char}
  {n : Nat}

theorem faithful_cons (plain : r ≠ .char '\\') :
    Faithful escaped (r :: text) ↔ Faithful false text := by
  rw [Faithful, if_neg plain]

theorem faithful_append (plain : .char '\\' ∉ text) (some : text ≠ []) :
    Faithful escaped (text ++ text') ↔ Faithful false text' := by
  induction text generalizing escaped with
  | nil => exact absurd rfl some
  | cons first rest ih =>
      rw [List.mem_cons, not_or] at plain
      rw [List.cons_append, faithful_cons (Ne.symm plain.1)]
      cases rest with
      | nil => rfl
      | cons second rest => exact ih plain.2 (List.cons_ne_nil second rest)

theorem hexValue_ne {mark : Char} (digit : (hexValue mark).isSome) :
    mark ≠ '\\' ∧ mark ≠ '[' := by
  constructor
  · rintro rfl
    exact absurd digit (by decide)
  · rintro rfl
    exact absurd digit (by decide)

theorem codeUnit_digits (read : codeUnit digits = some n) :
    digits ≠ [] ∧ ∀ digit ∈ digits, (hexValue digit).isSome := by
  unfold codeUnit at read
  split at read
  next a b c d =>
    simp only [Option.bind_eq_bind, Option.bind_eq_some_iff] at read
    obtain ⟨_, readA, _, readB, _, readC, _, readD, -⟩ := read
    simp [readA, readB, readC, readD]
  next => cases read

theorem codeUnit_plain (read : codeUnit digits = some n) {mark : Char}
    (other : mark = '\\' ∨ mark = '[') : .char mark ∉ Text.ofChars digits := by
  intro listed
  obtain ⟨digit, mem, same⟩ := List.mem_map.mp listed
  obtain rfl : digit = mark := by injection same
  have different := hexValue_ne ((codeUnit_digits read).2 digit mem)
  exact other.elim different.1 different.2

theorem faithful_unit (read : codeUnit digits = some n)
    (faithful : Faithful false (Text.ofChars ('\\' :: 'u' :: digits) ++ text)) :
    Faithful false text := by
  have some : Text.ofChars digits ≠ [] := by
    simpa [Text.ofChars] using (codeUnit_digits read).1
  have behind : Faithful true (.char 'u' :: (Text.ofChars digits ++ text)) := faithful.2
  rw [faithful_cons (by decide)] at behind
  exact (faithful_append (codeUnit_plain read (.inl rfl)) some).mp behind

/-- Behind an escape, the next backslash begins one again. -/
theorem Escape.faithful (escape : Escape c unit)
    (faithful : Faithful false (Text.ofChars unit ++ text)) : Faithful false text := by
  cases escape with
  | @short mark _ read =>
      have behind : Faithful true (.char mark :: text) := faithful.2
      rw [Faithful] at behind
      split at behind
      next => exact behind.2
      next => exact behind
  | unit read valid => exact faithful_unit read faithful
  | lone read surrogate => exact faithful_unit read faithful
  | @pair high low n m readHigh readLow isHigh isLow =>
      have split : Text.ofChars ('\\' :: 'u' :: high ++ '\\' :: 'u' :: low) ++ text =
          Text.ofChars ('\\' :: 'u' :: high) ++ (Text.ofChars ('\\' :: 'u' :: low) ++ text) := by
        simp [Text.ofChars]
      rw [split] at faithful
      exact faithful_unit readLow (faithful_unit readHigh faithful)

theorem Escape.special (escape : Escape c unit)
    (faithful : Faithful false (Text.ofChars unit ++ text)) : Special c := by
  have begins : ∃ rest, unit = '\\' :: rest := by cases escape <;> exact ⟨_, rfl⟩
  obtain ⟨rest, rfl⟩ := begins
  exact faithful.1 rfl c _ escape (List.prefix_append _ text)

theorem Escape.bracket_notMem (escape : Escape c unit) :
    .char '[' ∉ Text.ofChars unit := by
  cases escape with
  | @short mark _ read =>
      simp only [Text.ofChars, List.map_cons, List.map_nil, List.mem_cons, List.not_mem_nil,
        Rune.char.injEq, or_false, not_or]
      refine ⟨by decide, ?_⟩
      rintro rfl
      have none : readShort '[' = none := by decide
      rw [none] at read
      cases read
  | unit read valid => simpa [Text.ofChars] using codeUnit_plain read (.inr rfl)
  | lone read surrogate => simpa [Text.ofChars] using codeUnit_plain read (.inr rfl)
  | pair readHigh readLow isHigh isLow =>
      simpa [Text.ofChars] using
        And.intro (codeUnit_plain readHigh (.inr rfl)) (codeUnit_plain readLow (.inr rfl))

/-- Replacing text without backslashes breaks escapes, but makes none. -/
theorem Faithful.replaceAll {old word : Text} (faithful : Faithful escaped text)
    (plainOld : .char '\\' ∉ old) (some : old ≠ []) (plainWord : .char '\\' ∉ word) :
    Faithful escaped (Replace.replaceAll old (.char '[' :: word) text) := by
  induction text using Replace.induction_on some generalizing escaped with
  | nil => exact faithful
  | found back ih =>
      rw [faithful_append plainOld some] at faithful
      rw [Replace.replaceAll_append some, faithful_append (by simpa using plainWord) (by simp)]
      exact ih faithful
  | kept head rest other ih =>
      rw [Replace.replaceAll_cons other]
      by_cases start : head = .char '\\'
      · rw [Faithful, if_pos start] at faithful ⊢
        refine ⟨fun begins c unit escape spelled => ?_, ih faithful.2⟩
        have clear : Replace.Clear (.char '[' :: word) (Text.ofChars unit) :=
          Replace.clear_of_head escape.bracket_notMem
        exact faithful.1 begins c unit escape
          ((clear.uncompleted old).prefix_cons_of_replaceAll some other spelled)
      · rw [faithful_cons start] at faithful ⊢
        exact ih faithful

end Faithful

section Rendering

variable {text : Text} {c : Char} {n : Nat}

/-- Every quote stands behind a backslash, the flag being one in front. -/
def Guarded : Bool → Text → Prop
  | _, [] => True
  | behind, r :: text => (r = .char '"' → behind) ∧ Guarded (r = .char '\\') text

theorem Guarded.noQuote {part : Text} (guarded : Guarded false (part ++ text))
    (noEscape : .char '\\' ∉ part) : .char '"' ∉ part := by
  induction part with
  | nil => exact List.not_mem_nil
  | cons first rest ih =>
      rw [List.mem_cons, not_or] at noEscape ⊢
      obtain ⟨quote, later⟩ := guarded
      rw [decide_eq_false (Ne.symm noEscape.1)] at later
      refine ⟨fun same => ?_, ih later noEscape.2⟩
      cases quote same.symm

end Rendering

section Reading

variable {escaped : Bool} {r : Rune} {text text' : Text} {c : Char} {unit digits : List Char}
  {n : Nat}

/-- No special character, and no stray byte. -/
def Verbatim (s : Text) : Prop := ∀ r ∈ s, ∃ c, r = .char c ∧ ¬Special c

theorem Verbatim.of_cons {s : Text} (verbatim : Verbatim (r :: s)) :
    Verbatim [r] ∧ Verbatim s := by
  refine ⟨fun other mem => ?_, fun other mem => verbatim other (List.mem_cons_of_mem r mem)⟩
  rw [List.mem_singleton.mp mem]
  exact verbatim r List.mem_cons_self

variable {part : Text}

theorem Verbatim.append (front : Verbatim part) (back : Verbatim text) : Verbatim (part ++ text) :=
  fun r mem => (List.mem_append.mp mem).elim (front r) (back r)

theorem Spells.faithful {s body : Text} (spells : Spells s body)
    (faithful : Faithful false (body ++ text)) : Faithful false text := by
  induction spells with
  | nil => exact faithful
  | plain noQuote noEscape rest ih =>
      rw [List.cons_append, faithful_cons noEscape] at faithful
      exact ih faithful
  | escape escaped rest ih =>
      rw [List.append_assoc] at faithful
      exact ih (escaped.faithful faithful)

end Reading

end JsonText
