import Mathlib.Data.List.TakeWhile
import Velkir.GoText
import Velkir.Reading

/-!
# Commands and replies on the wire

A command is an array of bulk strings. The reader of replies calls itself for the elements of an
array.
-/

namespace Velkir.Resp

open Reading Reader

abbrev Bytes := List UInt8

def maxBulkSize : Nat := 2 ^ 20

/-- What the run time can address. -/
def maxAlloc : Nat := 2 ^ 48

/-- The bytes that a string or an interface value takes in a slice. -/
def elementSize : Nat := 16

def byte (c : Char) : UInt8 := UInt8.ofNat c.toNat

/-- The bytes as characters; those beyond ASCII stay beyond it. -/
def chars (bytes : Bytes) : List Char := bytes.map fun b => Char.ofNat b.toNat

/-- A slice of strings, which the run time can address. -/
structure Args where
  items : List Bytes
  fits : elementSize * items.length ≤ maxAlloc

/-- `strconv.Itoa`. -/
def itoa (n : Nat) : Bytes := (Nat.toDigits 10 n).map byte

def crlf : Bytes := [byte '\r', byte '\n']

/-- A header with a number. -/
def headerLine (lead : Char) (n : Nat) : Bytes := byte lead :: itoa n ++ crlf

/-- A bulk string on the wire. -/
def bulkString (a : Bytes) : Bytes := headerLine '$' a.length ++ (a ++ crlf)

/-- A command on the wire. -/
def encodeCommand (args : Args) : Bytes :=
  headerLine '*' args.items.length ++ args.items.flatMap bulkString

/-- What is read off the wire. -/
inductive Reply
  | text (bytes : Bytes)
  | integer (n : Int)
  | array (items : List Reply)

/-- What a read fails with. -/
inductive Failure
  | header
  | emptyHeader
  | server (body : Bytes)
  | badInteger (body : Bytes)
  | badBulkLength (body : Bytes)
  | bulkTooLong (n : Int)
  | bulkBody
  | bulkTrailer
  | badArrayLength (body : Bytes)
  | element (index : Nat) (failure : Failure)
  | unexpected (lead : UInt8) (header : Bytes)
  | shortMessage (length : Nat)
  | shortPMessage (length : Nat)
  deriving DecidableEq

/-- The line up to the first line feed, and what is behind it; or all. -/
def cutLine (input : Bytes) : Bytes × Option Bytes :=
  match input.dropWhile (· ≠ byte '\n') with
  | [] => (input, none)
  | _ :: rest => (input.takeWhile (· ≠ byte '\n') ++ [byte '\n'], some rest)

/-- `ReadString`, which keeps the line, or all there is, in memory. -/
def readString : Reader Bytes Failure Bytes :=
  ⟨fun input =>
    let (line, rest) := cutLine input
    ⟨[line.length], rest.elim (.error .header) (.value line)⟩⟩

/-- The line without its end. -/
def trimRight (line : Bytes) : Bytes :=
  (line.reverse.dropWhile fun b => b = byte '\r' ∨ b = byte '\n').reverse

/-- What a header line announces. -/
inductive Header
  | status (body : Bytes)
  | integer (n : Int)
  | bulk (n : Int)
  | array (n : Int)
  | invalid (failure : Failure)

/-- Read a header. -/
def parseHeader (line : Bytes) : Header :=
  match trimRight line with
  | [] => .invalid .emptyHeader
  | lead :: body =>
      let n := GoText.atoi (chars body)
      if lead = byte '+' then .status body
      else if lead = byte '-' then .invalid (.server body)
      else if lead = byte ':' then n.elim (.invalid (.badInteger body)) .integer
      else if lead = byte '$' then n.elim (.invalid (.badBulkLength body)) .bulk
      else if lead = byte '*' then n.elim (.invalid (.badArrayLength body)) .array
      else .invalid (.unexpected lead (lead :: body))

/-- `make` stops the program if the slice cannot be addressed. -/
def makeSlice (n : Nat) : Reader Bytes Failure Unit :=
  if maxAlloc < elementSize * n then crash else request n

/-- The elements from an index on. -/
def readElements (read : Reader Bytes Failure Reply) :
    Nat → Nat → Reader Bytes Failure (List Reply)
  | _, 0 => return []
  | index, n + 1 => do
      let el ← wrap (.element index) read
      let rest ← readElements read (index + 1) n
      return el :: rest

/-- Read what follows a header. -/
def readBody (read : Reader Bytes Failure Reply) : Header → Reader Bytes Failure Reply
  | .status body => return .text body
  | .integer n => return .integer n
  | .invalid failure => fail failure
  | .bulk n =>
      if n < 0 then return .text []
      else if maxBulkSize < n then fail (.bulkTooLong n)
      else do
        request n.toNat
        let buf ← take n.toNat .bulkBody
        let _ ← take 2 .bulkTrailer
        return .text buf
  | .array n =>
      if n < 0 then return .array []
      else do
        makeSlice n.toNat
        let out ← readElements read 0 n.toNat
        return .array out

/-- Every call takes a frame of the stack; without one the program stops. -/
def readReply : Nat → Reader Bytes Failure Reply
  | 0 => crash
  | frames + 1 => do
      let line ← readString
      readBody (readReply frames) (parseHeader line)

section Lines

theorem byte_ne {c d : Char} (small : c.toNat < 256 ∧ d.toNat < 256) (ne : c ≠ d) :
    byte c ≠ byte d := by
  intro same
  have eq : c.toNat % 256 = d.toNat % 256 := by simpa [byte] using congrArg UInt8.toNat same
  exact ne (Char.toNat_inj.mp (by omega))

variable {n : Nat}

theorem isDigit_of_mem_toDigits {c : Char} (mem : c ∈ Nat.toDigits 10 n) :
    c.toNat < 256 ∧ c ≠ '\r' ∧ c ≠ '\n' := by
  have isDigit := Nat.isDigit_of_mem_toDigits (by decide) (by decide) mem
  refine ⟨?_, ?_, ?_⟩
  · simp only [Char.isDigit, Bool.and_eq_true, decide_eq_true_eq, UInt32.le_iff_toNat_le] at isDigit
    have bound : c.toNat ≤ 57 := isDigit.2
    omega
  · rintro rfl
    exact absurd isDigit (by decide)
  · rintro rfl
    exact absurd isDigit (by decide)

private theorem chars_itoa (n : Nat) : chars (itoa n) = Nat.toDigits 10 n := by
  unfold chars itoa
  rw [List.map_map]
  refine List.map_congr_left (g := id) (fun c mem => ?_) |>.trans (List.map_id _)
  have small := (isDigit_of_mem_toDigits mem).1
  simp only [Function.comp_apply, byte, UInt8.toNat_ofNat', id_eq]
  rw [Nat.mod_eq_of_lt small, Char.ofNat_toNat]

theorem not_mem_itoa (n : Nat) : byte '\r' ∉ itoa n ∧ byte '\n' ∉ itoa n := by
  constructor <;>
  · intro mem
    obtain ⟨c, digit, same⟩ := List.mem_map.mp mem
    obtain ⟨small, notReturn, notFeed⟩ := isDigit_of_mem_toDigits digit
    exact absurd same (byte_ne ⟨small, by decide⟩ (by assumption))

private theorem itoa_ne_nil (n : Nat) : itoa n ≠ [] := by
  intro empty
  have read := GoText.digits_toDigits n
  rw [List.map_eq_nil_iff.mp empty] at read
  simp [GoText.digits] at read

theorem cutLine_append {line : Bytes} (rest : Bytes) (absent : byte '\n' ∉ line) :
    cutLine (line ++ byte '\n' :: rest) = (line ++ [byte '\n'], some rest) := by
  have others : ∀ b ∈ line, (decide (b ≠ byte '\n')) = true := by
    intro b mem
    exact decide_eq_true fun same => absent (same ▸ mem)
  unfold cutLine
  rw [List.dropWhile_append_of_pos others, List.takeWhile_append_of_pos others]
  simp

private theorem trimRight_append {line : Bytes} (nonempty : line ≠ [])
    (last : ∀ b ∈ line.getLast?, b ≠ byte '\r' ∧ b ≠ byte '\n') :
    trimRight (line ++ crlf) = line := by
  obtain ⟨front, b, rfl⟩ := List.eq_nil_or_concat line |>.resolve_left nonempty
  obtain ⟨notReturn, notFeed⟩ := last b (by simp)
  simp [trimRight, crlf, notReturn, notFeed]

theorem cutLine_headerLine {lead : Char} (feedless : byte lead ≠ byte '\n') (n : Nat)
    (rest : Bytes) : cutLine (headerLine lead n ++ rest) = (headerLine lead n, some rest) := by
  have absent : byte '\n' ∉ byte lead :: itoa n ++ [byte '\r'] := by
    simp [feedless.symm, (not_mem_itoa n).2, byte_ne (c := '\n') (d := '\r')]
  simpa [headerLine, crlf] using cutLine_append rest absent

theorem trimRight_headerLine (lead : Char) (n : Nat) :
    trimRight (headerLine lead n) = byte lead :: itoa n := by
  refine trimRight_append (List.cons_ne_nil _ _) fun b last => ?_
  obtain ⟨digit, digits, split⟩ := List.exists_cons_of_ne_nil (itoa_ne_nil n)
  have mem : b ∈ itoa n := by
    rw [split, List.getLast?_cons_cons, ← split] at last
    exact List.mem_of_getLast? last
  exact ⟨fun same => (not_mem_itoa n).1 (same ▸ mem), fun same => (not_mem_itoa n).2 (same ▸ mem)⟩

theorem atoi_itoa (fits : elementSize * n ≤ maxAlloc) :
    GoText.atoi (chars (itoa n)) = some (n : Int) := by
  rw [chars_itoa]
  refine GoText.atoi_toDigits ?_
  simp only [elementSize, maxAlloc] at fits
  omega

private theorem parseHeader_array (fits : elementSize * n ≤ maxAlloc) :
    parseHeader (headerLine '*' n) = .array n := by
  unfold parseHeader
  rw [trimRight_headerLine]
  dsimp only
  rw [atoi_itoa fits]
  rfl

private theorem parseHeader_bulk (fits : elementSize * n ≤ maxAlloc) :
    parseHeader (headerLine '$' n) = .bulk n := by
  unfold parseHeader
  rw [trimRight_headerLine]
  dsimp only
  rw [atoi_itoa fits]
  rfl

end Lines

section Commands

theorem returns_readString {input line rest : Bytes} :
    readString.Returns input line rest ↔ cutLine input = (line, some rest) := by
  unfold Returns readString
  dsimp only
  rcases cutLine input with ⟨cut, _ | after⟩
  · simp
  · simp

private theorem readReply_bulkString (frames : Nat) {arg : Bytes} (small : arg.length ≤ maxBulkSize)
    (rest : Bytes) :
    (readReply (frames + 1)).Returns (bulkString arg ++ rest) (.text arg) rest := by
  have fits : elementSize * arg.length ≤ maxAlloc := by
    simp only [elementSize, maxAlloc, maxBulkSize] at small ⊢
    omega
  have line : cutLine (bulkString arg ++ rest) =
      (headerLine '$' arg.length, some (arg ++ crlf ++ rest)) := by
    rw [bulkString, List.append_assoc]
    exact cutLine_headerLine (by decide) _ _
  unfold readReply
  rw [returns_bind]
  refine ⟨_, _, returns_readString.mpr line, ?_⟩
  rw [parseHeader_bulk fits]
  unfold readBody
  dsimp only
  rw [if_neg (by omega), if_neg (by simpa using small)]
  simp [crlf]

private theorem readElements_args (frames : Nat) {args : List Bytes}
    (small : ∀ arg ∈ args, arg.length ≤ maxBulkSize) (index : Nat) (rest : Bytes) :
    (readElements (readReply (frames + 1)) index args.length).Returns
      (args.flatMap bulkString ++ rest) (args.map .text) rest := by
  induction args generalizing index with
  | nil => simp [readElements]
  | cons arg args ih =>
      obtain ⟨head, tail⟩ := List.forall_mem_cons.mp small
      rw [List.flatMap_cons, List.append_assoc, List.length_cons, readElements, returns_bind]
      refine ⟨_, _, returns_wrap.mpr (readReply_bulkString frames head _), ?_⟩
      rw [returns_bind]
      exact ⟨_, _, ih tail (index + 1), returns_pure.mpr ⟨rfl, rfl⟩⟩

/-- A command is read back as its arguments, given two frames. -/
theorem readReply_encodeCommand (frames : Nat) (args : Args) (trailer : Bytes)
    (small : ∀ arg ∈ args.items, arg.length ≤ maxBulkSize) :
    (readReply (frames + 2)).Returns (encodeCommand args ++ trailer)
      (.array (args.items.map .text)) trailer := by
  have line : cutLine (encodeCommand args ++ trailer) =
      (headerLine '*' args.items.length, some (args.items.flatMap bulkString ++ trailer)) := by
    rw [encodeCommand, List.append_assoc]
    exact cutLine_headerLine (by decide) _ _
  unfold readReply
  rw [returns_bind]
  refine ⟨_, _, returns_readString.mpr line, ?_⟩
  rw [parseHeader_array args.fits]
  unfold readBody
  dsimp only
  rw [if_neg (by omega), makeSlice, Int.toNat_natCast, if_neg (Nat.not_lt.mpr args.fits),
    returns_bind]
  refine ⟨(), _, returns_request.mpr rfl, ?_⟩
  rw [returns_bind]
  exact ⟨_, _, readElements_args frames small 0 trailer, returns_pure.mpr ⟨rfl, rfl⟩⟩

/-- An argument may look like a reply. -/
theorem readReply_encodeCommand_nested :
    (readReply 2).Returns (encodeCommand ⟨[crlf, headerLine '*' 3], by decide⟩ ++ crlf)
      (.array [.text crlf, .text (headerLine '*' 3)]) crlf :=
  readReply_encodeCommand 0 ⟨[crlf, headerLine '*' 3], by decide⟩ crlf (by decide)

end Commands

section Pipelines

variable {first second : Reader Bytes Failure Reply}

private theorem readString_repeats : readString.Repeats readString := by
  intro input line rest returned
  rw [returns_readString] at returned
  by_cases feed : byte '\n' ∈ input
  · obtain ⟨line, rest, rfl, absent⟩ := List.eq_append_cons_of_mem feed
    obtain ⟨rfl, rfl⟩ : line ++ [_] = _ ∧ _ := by simpa [cutLine_append rest absent] using returned
    refine ⟨line ++ [byte '\n'], by simp, fun other => returns_readString.mpr ?_⟩
    simpa using cutLine_append other absent
  · have whole : input.dropWhile (· ≠ byte '\n') = [] := List.dropWhile_eq_nil_iff.mpr fun b mem =>
      decide_eq_true fun same => feed (same ▸ mem)
    rw [cutLine, whole] at returned
    simp at returned

private theorem readElements_repeats (read : first.Repeats second) (index n : Nat) :
    (readElements first index n).Repeats (readElements second index n) := by
  induction n generalizing index with
  | zero => exact .idle (by simp [readElements])
  | succ n ih =>
      exact .bind (by simpa [Repeats] using read) fun _ => .bind (ih _) fun _ => .idle (by simp)

private theorem readBody_repeats (read : first.Repeats second) (header : Header) :
    (readBody first header).Repeats (readBody second header) := by
  cases header with
  | status body => exact .idle (by simp [readBody])
  | integer n => exact .idle (by simp [readBody])
  | invalid failure => exact .idle (by simp [readBody, Returns, fail])
  | bulk n =>
      unfold readBody
      dsimp only
      split_ifs
      · exact .idle (by simp)
      · exact .idle (by simp [Returns, fail])
      · exact .bind (.idle (by simp)) fun _ => .bind (.take _ _) fun _ => .bind (.take _ _) fun _ =>
          .idle (by simp)
  | array n =>
      unfold readBody makeSlice
      dsimp only
      split_ifs
      · exact .idle (by simp)
      all_goals
        exact .bind (.idle (by simp [Returns, crash, request])) fun _ =>
          .bind (readElements_repeats read _ _) fun _ => .idle (by simp)

/-- In front of other bytes and on any larger stack, the reply is the same. -/
theorem readReply_repeats (frames extra : Nat) :
    (readReply frames).Repeats (readReply (frames + extra)) := by
  induction frames with
  | zero => exact .idle (by simp [readReply, Returns, crash])
  | succ frames ih =>
      rw [Nat.succ_add]
      exact .bind readString_repeats fun _ => readBody_repeats ih _

end Pipelines

end Velkir.Resp
