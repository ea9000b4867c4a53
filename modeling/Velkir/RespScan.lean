import Velkir.Resp

/-!
# Replies of a hostile peer

A stream is framed by counting the replies still due in each open array, which tells when the reader
is stopped.
-/

namespace Velkir.Resp

open Reading Reader

/-- A message on a channel. -/
structure PubsubMessage where
  channel : Bytes := []
  payload : Bytes := []

/-- The text of a reply, or an empty one for a reply of another type. -/
def Reply.asText : Reply → Bytes
  | .text bytes => bytes
  | _ => []

/-- An index out of range stops the program. -/
def index (arr : List Reply) (i : Nat) : Reader Bytes Failure Reply :=
  arr[i]?.elim crash pure

/-- What is made of a reply on a subscription, if anything. -/
def decodeMessage : Reply → Reader Bytes Failure PubsubMessage
  | .array arr =>
      if arr.length = 0 then return {}
      else do
        let kind ← index arr 0
        if kind.asText = "pmessage".toList.map byte then
          if arr.length < 4 then fail (.shortPMessage arr.length)
          else
            let channel ← index arr 2
            let payload ← index arr 3
            return ⟨channel.asText, payload.asText⟩
        else if kind.asText = "message".toList.map byte then
          if arr.length < 3 then fail (.shortMessage arr.length)
          else
            let channel ← index arr 1
            let payload ← index arr 2
            return ⟨channel.asText, payload.asText⟩
        else return {}
  | _ => return {}

/-- Read a message. -/
def readPubsubMessage (frames : Nat) : Reader Bytes Failure PubsubMessage := do
  let reply ← readReply frames
  decodeMessage reply

/-- The replies due in each open array, the innermost first. -/
def scanBody (due : Nat) (outer : List Nat) (rest : Bytes) : Header → Option (List Nat × Bytes)
  | .status _ | .integer _ => some (due :: outer, rest)
  | .invalid _ => none
  | .bulk n =>
      if n < 0 then some (due :: outer, rest)
      else if n ≤ maxBulkSize ∧ n.toNat + 2 ≤ rest.length then
        some (due :: outer, rest.drop (n.toNat + 2))
      else none
  | .array n =>
      if n < 0 then some (due :: outer, rest) else some (n.toNat :: due :: outer, rest)

/-- One header further, or out of an array of which nothing is due. -/
def scan : List Nat × Bytes → Option (List Nat × Bytes)
  | ([], _) => none
  | (0 :: outer, input) => some (outer, input)
  | ((due + 1) :: outer, input) =>
      match cutLine input with
      | (_, none) => none
      | (line, some rest) => scanBody due outer rest (parseHeader line)

/-- The next header is within the limits of length, size and nesting. -/
def Bounded (frames : Nat) : List Nat × Bytes → Prop
  | ((_ + 1) :: outer, input) =>
      outer.length < frames ∧ (cutLine input).1.length ≤ maxBulkSize ∧
        ((cutLine input).2.isSome → ∀ n, parseHeader (cutLine input).1 = .array n →
          n ≤ maxBulkSize)
  | _ => True

/-- So are all headers from here on. -/
def Tame (frames : Nat) : List Nat × Bytes → Prop := Throughout scan (Bounded frames)

section Tame

variable {frames due : Nat} {outer : List Nat} {input rest : Bytes}
  {read : Reader Bytes Failure Reply}

private theorem tame_nil : Tame frames ([], input) :=
  throughout_iff.mpr ⟨trivial, nofun⟩

theorem tame_zero : Tame frames (0 :: outer, input) ↔ Tame frames (outer, input) := by
  unfold Tame
  rw [throughout_iff]
  simp [scan, Bounded]

private theorem tame_succ : Tame frames ((due + 1) :: outer, input) ↔
    Bounded frames ((due + 1) :: outer, input) ∧
      ∀ after ∈ scan ((due + 1) :: outer, input), Tame frames after :=
  throughout_iff

private theorem ensures_readString {limit : Nat} {post : Bytes → Bytes → Prop} :
    readString.Ensures limit post input ↔ (cutLine input).1.length ≤ limit ∧
      ∀ rest ∈ (cutLine input).2, post (cutLine input).1 rest := by
  unfold Ensures Safe Returns readString
  dsimp only
  rcases cutLine input with ⟨line, _ | rest⟩
  · simp
  · simp

private theorem ensures_makeSlice {n : Nat} {post : Unit → Bytes → Prop} :
    (makeSlice n).Ensures maxBulkSize post input ↔ n ≤ maxBulkSize ∧ post () input := by
  unfold makeSlice
  split
  next huge =>
    have long : ¬n ≤ maxBulkSize := by
      simp only [maxAlloc, elementSize, maxBulkSize] at huge ⊢
      omega
    simp [long]
  next => exact ensures_request

private theorem tame_elements
    (reply : ∀ due input, Tame frames ((due + 1) :: outer, input) ↔
      read.Ensures maxBulkSize (fun _ rest => Tame frames (due :: outer, rest)) input)
    (index count : Nat) (input : Bytes) :
    Tame frames (count :: outer, input) ↔ (readElements read index count).Ensures maxBulkSize
      (fun _ rest => Tame frames (outer, rest)) input := by
  induction count generalizing index input with
  | zero =>
      rw [tame_zero]
      simp [readElements]
  | succ count ih =>
      rw [reply]
      simp only [readElements, ensures_bind, ensures_wrap, ensures_pure, ← ih]

private theorem tame_body
    (reply : ∀ inner input, Tame frames ((inner + 1) :: due :: outer, input) ↔
      read.Ensures maxBulkSize (fun _ rest => Tame frames (inner :: due :: outer, rest)) input)
    (header : Header) (rest : Bytes) :
    ((∀ n, header = .array n → n ≤ maxBulkSize) ∧
        ∀ after ∈ scanBody due outer rest header, Tame frames after) ↔
      (readBody read header).Ensures maxBulkSize
        (fun _ after => Tame frames (due :: outer, after)) rest := by
  cases header with
  | status body => simp [scanBody, readBody]
  | integer n => simp [scanBody, readBody]
  | invalid failure => simp [scanBody, readBody]
  | bulk n =>
      unfold scanBody readBody
      by_cases negative : n < 0
      · simp [negative]
      · by_cases long : (maxBulkSize : Int) < n
        · simp [negative, long, Int.not_le.mpr long]
        · have small : n.toNat ≤ maxBulkSize := by omega
          have both : n.toNat + 2 ≤ rest.length ↔
              n ≤ rest.length ∧ 2 ≤ rest.length - n.toNat := by omega
          simp [negative, Int.not_lt.mp long, long, small, both]
  | array n =>
      unfold scanBody readBody
      dsimp only
      by_cases negative : n < 0
      · have small : n ≤ maxBulkSize := by omega
        simp [negative, small]
      · have small : n ≤ maxBulkSize ↔ n.toNat ≤ maxBulkSize := by omega
        rw [if_neg negative, if_neg negative, ensures_bind, ensures_makeSlice, ← small]
        simp [tame_elements reply 0 n.toNat rest]

private theorem tame_reply {left : Nat} (depth : left + outer.length = frames) (due : Nat)
    (input : Bytes) :
    Tame frames ((due + 1) :: outer, input) ↔ (readReply left).Ensures maxBulkSize
      (fun _ rest => Tame frames (due :: outer, rest)) input := by
  induction left generalizing outer due input with
  | zero =>
      rw [tame_succ]
      simp [readReply, Bounded, ← depth]
  | succ left ih =>
      have room : outer.length < frames := by omega
      have body := @tame_body frames due outer (readReply left)
        (ih (by rw [List.length_cons]; omega))
      rw [tame_succ, readReply, ensures_bind, ensures_readString]
      simp only [← body, Bounded, scan, room, true_and]
      rcases cutLine input with ⟨line, _ | rest⟩
      · simp
      · simp [and_assoc]

end Tame

private theorem safe_iff_tame (frames : Nat) (input : Bytes) :
    (readReply frames).Safe maxBulkSize input ↔ Tame frames ([1], input) := by
  have outside : ∀ rest, Tame frames ([0], rest) := fun _ => tame_zero.mpr tame_nil
  rw [@tame_reply frames [] frames rfl 0 input, safe_iff_ensures]
  simp only [outside]

private theorem ensures_index {arr : List Reply} {i : Nat} (inside : i < arr.length)
    {post : Reply → Bytes → Prop} {input : Bytes} (holds : ∀ el, post el input) :
    (index arr i).Ensures maxBulkSize post input := by
  rw [index, List.getElem?_eq_getElem inside]
  exact ensures_pure.mpr (holds _)

private theorem decodeMessage_safe (reply : Reply) (rest : Bytes) :
    (decodeMessage reply).Ensures maxBulkSize (fun _ _ => True) rest := by
  have pair {arr : List Reply} {i : Nat} (inside : i + 1 < arr.length) :
      Ensures maxBulkSize (do
        let channel ← index arr i
        let payload ← index arr (i + 1)
        return (⟨channel.asText, payload.asText⟩ : PubsubMessage)) (fun _ _ => True) rest := by
    rw [ensures_bind]
    refine ensures_index (by omega) fun channel => ?_
    rw [ensures_bind]
    exact ensures_index inside fun payload => ensures_pure.mpr trivial
  cases reply with
  | text bytes => exact ensures_pure.mpr trivial
  | integer n => exact ensures_pure.mpr trivial
  | array arr =>
      unfold decodeMessage
      dsimp only
      split
      next => exact ensures_pure.mpr trivial
      next some =>
        rw [ensures_bind]
        refine ensures_index (Nat.pos_of_ne_zero some) fun kind => ?_
        split_ifs with pmessage short message short
        · exact ensures_fail
        · exact pair (Nat.not_lt.mp short)
        · exact ensures_fail
        · exact pair (Nat.not_lt.mp short)
        · exact ensures_pure.mpr trivial

private theorem readPubsubMessage_safe_iff (frames : Nat) (input : Bytes) :
    (readPubsubMessage frames).Safe maxBulkSize input ↔
      (readReply frames).Safe maxBulkSize input := by
  simp only [safe_iff_ensures, readPubsubMessage, ensures_bind, decodeMessage_safe]

/-- The reader ends and asks for no more than the cap exactly if every header is bounded. -/
theorem readReply_safe_iff (frames : Nat) (input : Bytes) :
    ((readReply frames).Safe maxBulkSize input ↔
        Throughout scan (Bounded frames) ([1], input)) ∧
      ((readPubsubMessage frames).Safe maxBulkSize input ↔
        Throughout scan (Bounded frames) ([1], input)) :=
  ⟨safe_iff_tame frames input,
    (readPubsubMessage_safe_iff frames input).trans (safe_iff_tame frames input)⟩

/-- One header is enough to stop the program. -/
theorem readReply_crashes :
    ((readReply 2).run (("*9223372036854775807\r\n".toList).map byte)).outcome = .crash := by
  rfl

end Velkir.Resp
