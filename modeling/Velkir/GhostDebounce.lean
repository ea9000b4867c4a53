import Velkir.FirstSeen
import Velkir.SentinelSurgery

/-!
# Debounced ghosts

A ghost is a peer at an address where no sentinel runs. Its stamp tells since when every pass has
detected it.
-/

namespace Velkir.GhostDebounce

open Surgery

/-- A pass, or the removal of the CR. -/
inductive Act
  /-- The sentinels' answers are classified against the addresses of the live ones. -/
  | pass (now : Nat) (replies : Surgery.Replies) (endpoints : List Endpoint) (live : List String)
      (allow : Bool)
  | remove (now : Nat)

namespace Act

/-- When the act happens. -/
def time : Act → Nat
  | .pass now .. => now
  | .remove now => now

/-- The holders of ghosts that a pass finds. -/
def holders : Act → List GhostHolder
  | .pass _ replies endpoints live _ =>
      (classifyStrandedSentinels replies endpoints live).ghostHolders
  | .remove _ => []

/-- The pass finds a sentinel that knows a ghost at this address. -/
def detects (act : Act) (ip : String) : Bool :=
  (act.holders.flatMap GhostHolder.ghostIPs).contains ip

/-- The sentinel to reap, and the stamps of the ghosts. -/
def call : Act → Stamps → Option Endpoint × Stamps
  | act@(.pass now _ _ live allow), seen => selectGhostReapTarget now act.holders live allow seen
  -- `Remove` deletes the entry of the CR.
  | .remove _, _ => (none, [])

end Act

def run (acts : List Act) : Stamps := Machine.run (fun act seen => (act.call seen).2) acts []

/-- The target that an act returns. -/
def returned (past : List Act) (act : Act) : Option Endpoint := (act.call (run past)).1

/-- When and whether the acts detect a ghost at this address. -/
def readings (acts : List Act) (ip : String) : List (Nat × Bool) :=
  acts.map fun act => (act.time, act.detects ip)

/-- The holder knows a ghost that every act has detected since the debounce. -/
def Matured (acts : List Act) (now : Nat) (holder : GhostHolder) : Prop :=
  ∃ ip ∈ holder.ghostIPs, ∃ since, FirstSeen.Unbroken (readings acts ip) since ∧
    since + ghostReapDebounce ≤ now

section Stamps

private theorem lookup_map_stamp {ip : String} {ips : List String} (mem : ip ∈ ips) (now : Nat) :
    (ips.map fun ip => (ip, now)).lookup ip = some now := by
  cases found : (ips.map fun ip => (ip, now)).lookup ip with
  | none =>
      have absent := List.lookup_eq_none_iff.mp found (ip, now) (List.mem_map_of_mem mem)
      simp at absent
  | some time => rw [lookup_stamped found]

private theorem lookup_eq_none_of_fst {ip : String} {stamps : Stamps}
    (absent : ∀ entry ∈ stamps, entry.1 ≠ ip) : stamps.lookup ip = none :=
  List.lookup_eq_none_iff.mpr fun entry mem => by simpa using Ne.symm (absent entry mem)

private theorem refreshGhostSeen_lookup {now : Nat} {detected live : List String} {seen : Stamps}
    (apart : ∀ ip ∈ detected, ip ∉ live) (ip : String) :
    (refreshGhostSeen now detected live seen).lookup ip =
      FirstSeen.advance (seen.lookup ip) (now, detected.contains ip) := by
  unfold refreshGhostSeen
  dsimp only
  rw [List.lookup_append]
  by_cases found : ip ∈ detected
  · have kept := @lookup_filter_key (fun key => decide (key ∉ live ∧ key ∈ detected)) ip
      (decide_eq_true ⟨apart ip found, found⟩) seen
    rw [kept, FirstSeen.advance_found _ (by simpa using found)]
    cases before : seen.lookup ip with
    | some time => simp
    | none =>
        rw [Option.none_or, Option.getD_none]
        refine lookup_map_stamp (List.mem_filter.mpr ⟨List.mem_dedup.mpr found, ?_⟩) now
        refine decide_eq_true fun mem => ?_
        obtain ⟨entry, filtered, rfl⟩ := List.mem_map.mp mem
        have absent := List.lookup_eq_none_iff.mp before entry (List.mem_of_mem_filter filtered)
        simp at absent
  · rw [FirstSeen.advance_absent _ (by simpa using found), Option.or_eq_none_iff]
    refine ⟨lookup_eq_none_of_fst fun entry mem => ?_, lookup_eq_none_of_fst fun entry mem => ?_⟩
    · rintro rfl
      have kept := List.of_mem_filter mem
      exact found (of_decide_eq_true kept).2
    · obtain ⟨key, filtered, rfl⟩ := List.mem_map.mp mem
      rintro rfl
      exact found (List.mem_dedup.mp (List.mem_of_mem_filter filtered))

/-- The classifier calls no live address a ghost. -/
theorem detected_apart (replies : Surgery.Replies) (endpoints : List Endpoint)
    (live : List String) :
    ∀ ip ∈ (ghostHolders replies endpoints live).flatMap GhostHolder.ghostIPs, ip ∉ live := by
  intro ip mem
  obtain ⟨holder, held, ghost⟩ := List.mem_flatMap.mp mem
  rw [(mem_ghostHolders held).2] at ghost
  obtain ⟨-, -, -, -, absent⟩ := mem_ghosts.mp ghost
  exact absent

private theorem call_lookup (act : Act) (seen : Stamps) (ip : String) :
    (act.call seen).2.lookup ip =
      FirstSeen.advance (seen.lookup ip) (act.time, act.detects ip) := by
  cases act with
  | pass now replies endpoints live allow =>
      have refreshed := @refreshGhostSeen_lookup now _ live seen
        (detected_apart replies endpoints live) ip
      unfold Act.call selectGhostReapTarget
      dsimp only
      split_ifs
      · exact refreshed
      · exact refreshed
  | remove now => rfl

private theorem run_concat (past : List Act) (act : Act) :
    run (past ++ [act]) = (act.call (run past)).2 :=
  Machine.run_concat past act []

private theorem run_lookup (acts : List Act) (ip : String) :
    (run acts).lookup ip = (readings acts ip).foldl FirstSeen.advance none := by
  refine Machine.run_history (fun past (seen : Stamps) =>
    seen.lookup ip = (readings past ip).foldl FirstSeen.advance none) rfl ?_ acts
  intro past act before
  rw [call_lookup, before]
  simp [readings]

end Stamps

section Target

variable {past : List Act} {act : Act}

private theorem readings_sorted
    (sorted : past.Pairwise fun earlier later => earlier.time ≤ later.time) (ip : String) :
    (readings past ip).Pairwise fun earlier later => earlier.1 ≤ later.1 :=
  List.pairwise_map.mpr sorted

/-- A stamp is old enough exactly if the ghost has been there for so long. -/
theorem reapable_iff_matured
    (sorted : (past ++ [act]).Pairwise fun earlier later => earlier.time ≤ later.time)
    (holder : GhostHolder) :
    holder.reapable act.time (act.call (run past)).2 = true ↔
      Matured (past ++ [act]) act.time holder := by
  have stamps (ip : String) : (act.call (run past)).2.lookup ip =
      (readings (past ++ [act]) ip).foldl FirstSeen.advance none := by
    rw [← run_lookup, run_concat]
  have positive : 0 < ghostReapDebounce := by decide
  unfold GhostHolder.reapable Matured
  rw [List.any_eq_true]
  refine exists_congr fun ip => and_congr_right fun _ => ?_
  obtain ⟨absent, present⟩ := FirstSeen.foldl_advance_spec (readings_sorted sorted ip)
  rw [stamps ip]
  cases stamp : (readings (past ++ [act]) ip).foldl FirstSeen.advance none with
  | none =>
      simp only [Bool.false_eq_true, false_iff, not_exists, not_and]
      exact fun since unbroken => absurd unbroken (absent stamp since)
  | some time =>
      obtain ⟨unbroken, earliest⟩ := present time stamp
      rw [decide_eq_true_iff]
      constructor
      · intro old
        exact ⟨time, unbroken, by omega⟩
      · rintro ⟨since, unbroken', old⟩
        have before := earliest since unbroken'
        omega

/-- A pass reaps from the holders whose ghosts are old enough. -/
theorem mem_candidates {now : Nat} {holders : List GhostHolder} {seen : Stamps}
    {endpoint : Endpoint} :
    endpoint ∈ (holders.filter (GhostHolder.reapable now seen)).map GhostHolder.endpoint ↔
      ∃ holder ∈ holders, holder.reapable now seen = true ∧ holder.endpoint = endpoint := by
  simp only [List.mem_map, List.mem_filter, and_assoc]

/-- A pass returns the lowest holder of a ghost detected since the debounce, if it may reap. -/
theorem returned_iff_matured {now : Nat} {replies : Surgery.Replies} {endpoints : List Endpoint}
    {live : List String} {allow : Bool}
    (sorted : (past ++ [Act.pass now replies endpoints live allow]).Pairwise
      fun earlier later => earlier.time ≤ later.time) :
    let act : Act := .pass now replies endpoints live allow
    (returned past act ≠ none ↔
        allow = true ∧ ∃ holder ∈ act.holders, Matured (past ++ [act]) now holder) ∧
      ∀ target, returned past act = some target →
        ∃ holder ∈ act.holders, Matured (past ++ [act]) now holder ∧ holder.endpoint = target ∧
          ∀ other ∈ act.holders, Matured (past ++ [act]) now other →
            target.name ≤ other.endpoint.name := by
  intro act
  have matured := reapable_iff_matured sorted
  cases allow with
  | false =>
      have nothing : returned past act = none := rfl
      simp [nothing]
  | true =>
      set seen := (act.call (run past)).2
      set candidates :=
        (act.holders.filter (GhostHolder.reapable now seen)).map GhostHolder.endpoint
      have chosen : returned past act = candidates.argmin Endpoint.name := rfl
      rw [chosen]
      refine ⟨?_, fun target found => ?_⟩
      · rw [Ne, List.argmin_eq_none, List.eq_nil_iff_forall_not_mem]
        push Not
        constructor
        · rintro ⟨endpoint, mem⟩
          obtain ⟨holder, held, old, -⟩ := mem_candidates.mp mem
          exact ⟨rfl, holder, held, (matured holder).mp old⟩
        · rintro ⟨-, holder, held, old⟩
          exact ⟨_, mem_candidates.mpr ⟨holder, held, (matured holder).mpr old, rfl⟩⟩
      · obtain ⟨holder, held, old, named⟩ := mem_candidates.mp (List.argmin_mem found)
        refine ⟨holder, held, (matured holder).mp old, named, fun other held' old' => ?_⟩
        have listed := mem_candidates.mpr ⟨other, held', (matured other).mpr old', rfl⟩
        exact List.le_of_mem_argmin listed found

/-- Every sentinel knows a peer that does not run any more. -/
def lingering : Surgery.Replies where
  peers _ := .peers ["10.0.0.2", "10.0.0.9"]
  probe _ := none
  replicas _ := none
  ping _ := true
  survivorFlags _ := none
  targetFlags _ := none
  cohort _ := none
  removes _ := true
  monitors _ := true

def pairOf : List Endpoint := [⟨"sentinel-1", "10.0.0.2:26379"⟩, ⟨"sentinel-0", "10.0.0.1:26379"⟩]

/-- Two passes that are the debounce apart. -/
theorem returned_iff_matured_second :
    let act : Act := .pass (30 * second) lingering pairOf ["10.0.0.1", "10.0.0.2"] true
    let past : List Act := [.pass 0 lingering pairOf ["10.0.0.1", "10.0.0.2"] true]
    returned past act = some ⟨"sentinel-0", "10.0.0.1:26379"⟩ ∧
      ∃ holder ∈ act.holders, Matured (past ++ [act]) (30 * second) holder ∧
        holder.endpoint.name = "sentinel-0" := by
  intro act past
  have chosen : returned past act = some ⟨"sentinel-0", "10.0.0.1:26379"⟩ := by decide
  have sorted : (past ++ [act]).Pairwise fun earlier later => earlier.time ≤ later.time := by
    decide
  obtain ⟨holder, held, matured, named, -⟩ := (returned_iff_matured sorted).2 _ chosen
  exact ⟨chosen, holder, held, matured, by rw [named]⟩

end Target

end Velkir.GhostDebounce
