import Mathlib.Data.List.ReduceOption
import Velkir.Majority
import Velkir.Observer

/-!
# The tally of a poll

What a poll publishes depends neither on the order of the endpoints nor on that of its map of
addresses.
-/

namespace Velkir.Observer

open Majority (Iteration)

/-- What a poll decides. -/
structure Verdict where
  quorum : QuorumStatus
  addr : String
  epoch : Int
  deriving DecidableEq

def verdict (observer : Observer) : Verdict :=
  ⟨observer.snapshot.quorum, observer.snapshot.addr, observer.snapshot.epoch⟩

/-- The answers to a poll in the order of the endpoints. -/
def results (replies : Replies) (observer : Observer) : List (Option SentinelReply) :=
  (List.range observer.endpoints.length).map replies

/-- The address with the most votes, by this order of the map. -/
def elected (order : Iteration (String × Nat)) (incumbent : String)
    (results : List (Option SentinelReply)) : String :=
  Plurality.leader (fun x y => breakAddrTie x y incumbent) ""
    (order.visit (addrCount results.reduceOption))

/-- The verdict on the answers, by this order of the map. -/
def tally (order : Iteration (String × Nat)) (prev : Verdict)
    (results : List (Option SentinelReply)) : Verdict :=
  let reached := results.reduceOption
  let threshold := quorumThreshold results.length
  let epoch := max prev.epoch (maxEpoch reached)
  if reached.length < threshold then ⟨.unknown, prev.addr, epoch⟩
  else
    let winner := elected order prev.addr results
    let quorumOK := threshold ≤ addrQuorumCount reached winner
    ⟨if quorumOK then .ok else .lost, if quorumOK then winner else prev.addr, epoch⟩

/-- How many endpoints name this address. -/
def votes (results : List (Option SentinelReply)) (addr : String) : Nat :=
  (results.reduceOption.map SentinelReply.addr).count addr

/-- The address is named, and none is named more often. -/
structure Leads (results : List (Option SentinelReply)) (addr : String) : Prop where
  nonempty : addr ≠ ""
  named : 0 < votes results addr
  most : ∀ other, other ≠ "" → votes results other ≤ votes results addr

section Orders

variable {order order' : Iteration (String × Nat)} {results results' : List (Option SentinelReply)}

private theorem addrCount_eq (reached : List SentinelReply) :
    addrCount reached = Majority.tally ((reached.map SentinelReply.addr).filter (· ≠ "")) := rfl

private theorem maxEpoch_perm {reached reached' : List SentinelReply}
    (perm : reached.Perm reached') : maxEpoch reached = maxEpoch reached' := by
  unfold maxEpoch
  refine perm.foldl_eq' (fun x _ y _ highest => ?_) 0
  split_ifs <;> omega

private theorem elected_perm (perm : results.Perm results') (incumbent : String) :
    elected order incumbent results = elected order' incumbent results' := by
  have named : ((results.reduceOption.map SentinelReply.addr).filter (· ≠ "")).Perm
      ((results'.reduceOption.map SentinelReply.addr).filter (· ≠ "")) :=
    ((perm.filterMap id).map _).filter _
  have counts : (order.visit (addrCount results.reduceOption)).Perm
      (order'.visit (addrCount results'.reduceOption)) :=
    (order.perm _).trans ((Majority.tally_perm named).trans (order'.perm _).symm)
  exact Plurality.leader_perm (Plurality.prefer_comm incumbent) (Plurality.prefer_assoc incumbent)
    counts

private theorem tally_perm (perm : results.Perm results') (prev : Verdict) :
    tally order prev results = tally order' prev results' := by
  have reached : results.reduceOption.Perm results'.reduceOption := perm.filterMap id
  have quorum (addr : String) : addrQuorumCount results.reduceOption addr =
      addrQuorumCount results'.reduceOption addr := reached.countP_eq _
  have elected_eq : elected order prev.addr results = elected order' prev.addr results' :=
    elected_perm perm prev.addr
  unfold tally
  simp only [elected_eq, maxEpoch_perm reached, reached.length_eq, perm.length_eq, quorum]

end Orders

section Poll

variable {replies : Replies} {now : Nat} {observer : Observer}

theorem results_reduceOption (replies : Replies) (observer : Observer) :
    (observer.results replies).reduceOption = observer.reached replies := by
  simp [results, reached, List.reduceOption, List.filterMap_map]

@[simp]
theorem results_length (replies : Replies) (observer : Observer) :
    (observer.results replies).length = observer.endpoints.length := by
  simp [results]

private theorem elected_results (order : Iteration (String × Nat)) (incumbent : String) :
    elected order incumbent (observer.results replies) =
      winner incumbent (observer.reached replies) := by
  rw [elected, results_reduceOption]
  exact winner_perm incumbent _ (order.perm _)

private theorem pollOnce_verdict (order : Iteration (String × Nat)) :
    (observer.pollOnce replies now).verdict =
      tally order observer.verdict (observer.results replies) := by
  unfold tally verdict
  simp only [elected_results, results_reduceOption, results_length]
  unfold pollOnce
  dsimp only
  by_cases few : (observer.reached replies).length < quorumThreshold observer.endpoints.length
  · simp [few, publishLocked]
  · simp [few, publishLocked]

private theorem addrQuorumCount_le_votes (addr : String) :
    addrQuorumCount (observer.reached replies) addr ≤ votes (observer.results replies) addr := by
  rw [votes, results_reduceOption, addrQuorumCount, List.count, List.countP_map]
  refine List.countP_mono_left fun reply _ counted => ?_
  simp only [decide_eq_true_eq] at counted
  simpa using counted.2.1

private theorem votes_unique {addr other : String} (some : observer.endpoints ≠ [])
    (different : other ≠ addr)
    (enough : quorumThreshold observer.endpoints.length ≤ votes (observer.results replies) addr) :
    votes (observer.results replies) other < quorumThreshold observer.endpoints.length := by
  have together : votes (observer.results replies) other + votes (observer.results replies) addr ≤
      (observer.results replies).reduceOption.length := by
    have named : ((observer.results replies).reduceOption.map SentinelReply.addr).count other +
        ((observer.results replies).reduceOption.map SentinelReply.addr).count addr ≤ _ :=
      Majority.count_add_count_le different
    rwa [List.length_map] at named
  have reached : (observer.results replies).reduceOption.length ≤ _ :=
    List.length_filterMap_le id (observer.results replies)
  have pool := List.length_pos_iff.mpr some
  rw [results_length] at reached
  unfold quorumThreshold at enough ⊢
  split_ifs at enough ⊢ <;> omega

private theorem elected_of_leads (order : Iteration (String × Nat)) {addr : String}
    (leads : Leads (observer.results replies) addr) :
    elected order addr (observer.results replies) = addr := by
  have votes_eq {a : String} (nonempty : a ≠ "") : (((observer.results replies).reduceOption.map
      SentinelReply.addr).filter (· ≠ "")).count a = votes (observer.results replies) a :=
    List.count_filter (by simp [nonempty])
  refine Plurality.leader_incumbent addr leads.named ?_ ?_
  · rw [(order.perm _).mem_iff, addrCount_eq, Majority.mem_tally, votes_eq leads.nonempty]
    refine ⟨List.count_pos_iff.mp ?_, rfl⟩
    rw [votes_eq leads.nonempty]
    exact leads.named
  · intro entry visited
    rw [(order.perm _).mem_iff, addrCount_eq, Majority.mem_tally] at visited
    obtain ⟨named, count⟩ := visited
    have nonempty : entry.1 ≠ "" := by simpa using (List.mem_filter.mp named).2
    rw [← count, votes_eq nonempty]
    exact leads.most entry.1 nonempty

/-- What the tally of a poll guarantees. -/
structure TallySound (observer : Observer) (replies : Replies) (now : Nat) : Prop where
  order_free : ∀ order results, results.Perm (observer.results replies) →
    (observer.pollOnce replies now).verdict = tally order observer.verdict results
  agreed : observer.endpoints ≠ [] → (observer.pollOnce replies now).snapshot.quorum = .ok →
    quorumThreshold observer.endpoints.length ≤
      votes (observer.results replies) (observer.pollOnce replies now).snapshot.addr
  unique : observer.endpoints ≠ [] → (observer.pollOnce replies now).snapshot.quorum = .ok →
    ∀ other ≠ (observer.pollOnce replies now).snapshot.addr,
      votes (observer.results replies) other < quorumThreshold observer.endpoints.length
  kept : Leads (observer.results replies) observer.snapshot.addr →
    (∀ order, elected order observer.snapshot.addr (observer.results replies) =
        observer.snapshot.addr) ∧
      (observer.pollOnce replies now).snapshot.addr = observer.snapshot.addr

theorem pollOnce_tally_sound (observer : Observer) (replies : Replies) (now : Nat) :
    TallySound observer replies now := by
  have agreed (ok : (observer.pollOnce replies now).snapshot.quorum = .ok) :=
    (pollOnce_agree ok).trans (addrQuorumCount_le_votes _)
  refine ⟨fun order results perm => ?_, fun _ ok => agreed ok, fun some ok other different =>
    votes_unique some different (agreed ok), fun leads =>
    ⟨fun order => elected_of_leads order leads, ?_⟩⟩
  · rw [pollOnce_verdict order]
    exact tally_perm perm.symm observer.verdict
  · let order : Iteration (String × Nat) := ⟨id, fun _ => .refl _⟩
    have address : (observer.pollOnce replies now).snapshot.addr =
        (tally order observer.verdict (observer.results replies)).addr :=
      congrArg Verdict.addr (pollOnce_verdict order)
    rw [address, tally]
    dsimp only [verdict]
    rw [elected_of_leads order leads]
    split_ifs <;> rfl

/-- Two of three endpoints name the address that was published before. -/
example :
    let observer : Observer :=
      { masterName := "vk", endpoints := [⟨"s-0", ""⟩, ⟨"s-1", ""⟩, ⟨"s-2", ""⟩]
        snapshot := { addr := "a" } }
    let replies : Replies := fun index =>
      some { addr := if index = 1 then "b" else "a", quorumOK := true }
    Leads (observer.results replies) observer.snapshot.addr ∧
      (observer.pollOnce replies 5).verdict = ⟨.ok, "a", 0⟩ := by
  refine ⟨⟨by decide, by decide, fun other _ => ?_⟩, by decide⟩
  change ["a", "b", "a"].count other ≤ 2
  simp only [List.count_cons, List.count_nil]
  grind

end Poll

end Velkir.Observer
