import Velkir.FirstSeen
import Velkir.QuorumAggregate

/-!
# Down markers read by polls

The observer keeps for each endpoint when its down marker set in. The stamps hold off the removal of
dead sentinels.
-/

namespace Velkir.Observer

open Aggregation (timeSub)
open FirstSeen

/-- How long a down marker holds off the removal. -/
def odownTTL (failoverTimeoutMS : Int32) : Int :=
  let ttl := failoverTimeoutMS.toInt * 1000000
  if ttl ≤ 0 then 180 * second else ttl

/-- Whether dead sentinels may be removed, given the snapshot if there is one. -/
def ghostReapAllowed (snap : Option ObserverSnapshot) (failoverTimeoutMS : Int32) (now : Nat) :
    Bool :=
  match snap with
  | none => false
  | some primary =>
      let ttl := odownTTL failoverTimeoutMS
      !(primary.odown.any fun entry => timeSub now entry.2 < ttl) &&
        !(primary.odownPull.any fun entry => timeSub now entry.2 < ttl)

/-- The usable readings of one endpoint in a poll. -/
def usable (name : String) (now : Nat) (observations : List ODownPullObs) : List (Nat × Bool) :=
  observations.filterMap fun observation =>
    if observation.name = name then observation.flags.map fun flags => (now, flags.oDown) else none

/-- The usable readings of one endpoint in all polls. -/
def readings (observer : Observer) (name : String) (acts : List ObserverAct) : List (Nat × Bool) :=
  acts.flatMap fun
    | .poll replies now => usable name now (observer.odownObs replies)
    | .frame .. => []

/-- When the polls were made. -/
def pollTimes (acts : List ObserverAct) : List Nat :=
  acts.filterMap fun
    | .poll _ now => some now
    | .frame .. => none

/-- The stamps are the entries of this map. -/
def Tracks (stamps : Stamps) (stamp : String → Option Nat) : Prop :=
  ∀ name t, (name, t) ∈ stamps ↔ stamp name = some t

variable {name : String} {now : Nat}

section Poll

variable {stamps : Stamps} {stamp : String → Option Nat}

private theorem Tracks.named (tracks : Tracks stamps stamp) (name : String) :
    name ∈ stamps.map Prod.fst ↔ (stamp name).isSome = true := by
  simp only [List.mem_map, Prod.exists, exists_and_right, exists_eq_right, Option.isSome_iff_exists]
  exact exists_congr (tracks name)

private theorem Tracks.setStamp (tracks : Tracks stamps stamp) (name : String) (now : Nat) :
    Tracks (setStamp name now stamps) (Function.update stamp name (some now)) := by
  intro other t
  by_cases same : other = name
  · subst same
    simp [Velkir.setStamp, removeStamp, eq_comm]
  · simp [Velkir.setStamp, removeStamp, same, tracks other t]

private theorem Tracks.removeStamp (tracks : Tracks stamps stamp) (name : String) :
    Tracks (removeStamp name stamps) (Function.update stamp name none) := by
  intro other t
  by_cases same : other = name
  · simp [Velkir.removeStamp, same]
  · simp [Velkir.removeStamp, same, tracks other t]

variable {observation : ODownPullObs} {flags : MasterFlags}

private theorem usable_own (now : Nat) (read : observation.flags = some flags) :
    usable observation.name now [observation] = [(now, flags.oDown)] := by
  simp [usable, read]

private theorem usable_other (now : Nat) (other : name ≠ observation.name) :
    usable name now [observation] = [] := by
  simp [usable, Ne.symm other]

/-- A new map tracks the stamps if only the endpoint that was read changed. -/
theorem Tracks.of_update {value : Option Nat}
    (tracks : Tracks stamps (Function.update stamp observation.name value))
    (read : observation.flags = some flags)
    (value_eq : value = advance (stamp observation.name) (now, flags.oDown)) :
    Tracks stamps fun name => (usable name now [observation]).foldl advance (stamp name) := by
  intro name t
  rw [tracks name t]
  dsimp only
  by_cases same : name = observation.name
  · rw [same, usable_own now read, Function.update_self, value_eq]
    rfl
  · rw [usable_other now same, Function.update_of_ne same]
    rfl

private theorem Tracks.observe (tracks : Tracks stamps stamp) (now : Nat)
    (observation : ODownPullObs) : Tracks (reconcileODownPull [observation] now stamps)
      fun name => (usable name now [observation]).foldl advance (stamp name) := by
  unfold Velkir.reconcileODownPull
  rw [List.foldl_cons, List.foldl_nil]
  cases read : observation.flags with
  | none => simpa [usable, read] using tracks
  | some flags =>
      dsimp only
      split_ifs with down seen
      · -- The marker lasts, and the stamp stays.
        obtain ⟨t, old⟩ := Option.isSome_iff_exists.mp ((tracks.named _).mp seen)
        rw [← Function.update_eq_self observation.name stamp] at tracks
        exact tracks.of_update read (by simp [advance, down, old])
      · have fresh : stamp observation.name = none := by
          simpa using mt (tracks.named _).mpr seen
        exact (tracks.setStamp observation.name now).of_update read (by simp [advance, down, fresh])
      · exact (tracks.removeStamp observation.name).of_update read (by simp [advance, down])

/-- A poll advances the stamp of every endpoint by its usable readings. -/
theorem Tracks.reconcileODownPull (tracks : Tracks stamps stamp) (now : Nat)
    (observations : List ODownPullObs) :
    Tracks (reconcileODownPull observations now stamps)
      fun name => (usable name now observations).foldl advance (stamp name) := by
  induction observations generalizing stamps stamp with
  | nil => exact tracks
  | cons observation observations ih =>
      have split (name : String) : usable name now (observation :: observations) =
          usable name now [observation] ++ usable name now observations := by
        unfold usable
        rw [← List.filterMap_append, List.singleton_append]
      simp only [split, List.foldl_append]
      exact ih (tracks.observe now observation)

end Poll

section Runs

variable {start observer : Observer}

private theorem pollOnce_odownPull (replies : Replies) (now : Nat) (observer : Observer) :
    (observer.pollOnce replies now).odownPull =
      reconcileODownPull (observer.odownObs replies) now observer.odownPull := by
  unfold pollOnce
  dsimp only
  split_ifs <;> rfl

private theorem dispatch_published (endpoint : Endpoint) (frame : EventFrame) (now : Nat)
    (published : observer.snapshot.odownPull = observer.odownPull) :
    (observer.dispatch endpoint frame now).snapshot.odownPull =
      (observer.dispatch endpoint frame now).odownPull := by
  rcases dispatch_cases endpoint frame now observer with same | ⟨addr, -, eq⟩ | ⟨odown, -, eq⟩
  · rwa [same]
  · rw [eq]
    rfl
  · rw [eq]
    rfl

private theorem step_published (act : ObserverAct) (observer : Observer)
    (published : observer.snapshot.odownPull = observer.odownPull) :
    (step act observer).snapshot.odownPull = (step act observer).odownPull := by
  cases act with
  | poll replies now =>
      unfold step pollOnce
      dsimp only
      split_ifs <;> rfl
  | frame subscription frame now =>
      unfold step
      dsimp only
      cases observer.subscriptions[subscription]? with
      | none => exact published
      | some endpoint => exact dispatch_published endpoint frame now published

private theorem run_published (published : start.snapshot.odownPull = start.odownPull)
    (acts : List ObserverAct) : (start.run acts).snapshot.odownPull = (start.run acts).odownPull :=
  Machine.run_invariant
    (fun observer : Observer => observer.snapshot.odownPull = observer.odownPull)
    step_published acts published

private theorem odownObs_run (acts : List ObserverAct) (replies : Replies) :
    (start.run acts).odownObs replies = start.odownObs replies := by
  simp [odownObs, run_endpoints]

private theorem run_tracks (empty : start.odownPull = []) (acts : List ObserverAct) :
    Tracks (start.run acts).odownPull fun name =>
      (start.readings name acts).foldl advance none := by
  refine Machine.run_history (fun past (observer : Observer) =>
    Tracks observer.odownPull fun name => (start.readings name past).foldl advance none) ?_ ?_ acts
  · intro name t
    simp [empty, readings]
  · intro past act tracks
    change Tracks (start.run past).odownPull _ at tracks
    change Tracks (step act (start.run past)).odownPull _
    simp only [readings, List.flatMap_append, List.flatMap_cons, List.flatMap_nil, List.append_nil,
      List.foldl_append]
    cases act with
    | poll replies now =>
        have polled := tracks.reconcileODownPull now (start.odownObs replies)
        rw [← odownObs_run past, ← pollOnce_odownPull] at polled
        rw [odownObs_run] at polled
        exact polled
    | frame subscription frame now =>
        rw [(step_frame_pushed subscription frame now (start.run past)).odownPull]
        exact tracks

variable {reading : Nat × Bool}

theorem usable_time {observations : List ODownPullObs}
    (read : reading ∈ usable name now observations) : reading.1 = now := by
  obtain ⟨observation, -, kept⟩ := List.mem_filterMap.mp read
  split_ifs at kept
  obtain ⟨flags, -, rfl⟩ := Option.map_eq_some_iff.mp kept
  rfl

variable {acts : List ObserverAct}

private theorem mem_pollTimes_of_read (read : reading ∈ start.readings name acts) :
    reading.1 ∈ pollTimes acts := by
  obtain ⟨act, listed, found⟩ := List.mem_flatMap.mp read
  cases act with
  | poll replies now => exact List.mem_filterMap.mpr ⟨_, listed, by rw [usable_time found]⟩
  | frame subscription frame now => cases found

private theorem readings_sorted (name : String) (increasing : (pollTimes acts).Pairwise (· < ·)) :
    (start.readings name acts).Pairwise fun earlier later => earlier.1 ≤ later.1 := by
  induction acts with
  | nil => exact .nil
  | cons act acts ih =>
      cases act with
      | poll replies now =>
          obtain ⟨first, increasing⟩ := List.pairwise_cons.mp increasing
          refine List.pairwise_append.mpr ⟨?_, ih increasing, fun earlier here later after => ?_⟩
          · refine List.pairwise_iff_forall_sublist.mpr fun {earlier later} both => ?_
            rw [usable_time (both.subset (by simp) : earlier ∈ _),
              usable_time (both.subset (by simp) : later ∈ _)]
          · rw [usable_time here]
            exact (first _ (mem_pollTimes_of_read after)).le
      | frame subscription frame now => exact ih increasing

/-- What the stamps of a run's polls guarantee. -/
structure OnsetSound (start : Observer) (acts : List ObserverAct) : Prop where
  entry : ∀ name, (∃ t, (name, t) ∈ (start.run acts).snapshot.odownPull) ↔
    (start.readings name acts).getLast?.map Prod.snd = some true
  onset : ∀ name t, (name, t) ∈ (start.run acts).snapshot.odownPull ↔
    Onset (start.readings name acts) t
  veto : ∀ failoverTimeoutMS (now : Nat) name t, Onset (start.readings name acts) t →
    (now : Int) - t < odownTTL failoverTimeoutMS →
      ghostReapAllowed (some (start.run acts).snapshot) failoverTimeoutMS now = false
  /-- Without a pushed marker it holds it off no longer. -/
  age_out : ∀ failoverTimeoutMS (now : Nat),
    (∀ pushed ∈ (start.run acts).snapshot.odown,
      odownTTL failoverTimeoutMS ≤ (now : Int) - pushed.2) →
    (∀ name t, Onset (start.readings name acts) t →
      odownTTL failoverTimeoutMS ≤ (now : Int) - t) →
      ghostReapAllowed (some (start.run acts).snapshot) failoverTimeoutMS now = true

private theorem odownTTL_bounds (failoverTimeoutMS : Int32) :
    0 < odownTTL failoverTimeoutMS ∧ odownTTL failoverTimeoutMS < 2 ^ 63 - 1 := by
  have below := failoverTimeoutMS.toInt_lt
  unfold odownTTL second
  dsimp only
  split_ifs <;> omega

/-- The differences are far from where they saturate. -/
theorem timeSub_lt_odownTTL (failoverTimeoutMS : Int32) (now t : Int) :
    timeSub now t < odownTTL failoverTimeoutMS ↔ now - t < odownTTL failoverTimeoutMS := by
  obtain ⟨positive, below⟩ := odownTTL_bounds failoverTimeoutMS
  unfold timeSub
  omega

private theorem ghostReapAllowed_iff (snap : ObserverSnapshot) (failoverTimeoutMS : Int32)
    (now : Nat) : ghostReapAllowed (some snap) failoverTimeoutMS now = true ↔
      (∀ entry ∈ snap.odown, odownTTL failoverTimeoutMS ≤ (now : Int) - entry.2) ∧
        ∀ entry ∈ snap.odownPull, odownTTL failoverTimeoutMS ≤ (now : Int) - entry.2 := by
  simp only [ghostReapAllowed, timeSub_lt_odownTTL, Bool.and_eq_true, Bool.not_eq_true',
    List.any_eq_false, decide_eq_true_eq, not_lt]

private theorem run_onset (empty : start.odownPull = [])
    (published : start.snapshot.odownPull = start.odownPull)
    (increasing : (pollTimes acts).Pairwise (· < ·)) : OnsetSound start acts := by
  have tracks := run_tracks empty acts
  rw [← run_published published] at tracks
  have onset (name : String) (t : Nat) : (name, t) ∈ (start.run acts).snapshot.odownPull ↔
      Onset (start.readings name acts) t :=
    (tracks name t).trans (foldl_advance_eq_some (readings_sorted name increasing))
  refine ⟨fun name => ?_, onset, fun failoverTimeoutMS now name t set fresh => ?_, ?_⟩
  · rw [← foldl_advance_isSome, Option.isSome_iff_exists]
    exact exists_congr (tracks name)
  · by_contra allowed
    rw [Bool.not_eq_false, ghostReapAllowed_iff] at allowed
    exact (allowed.2 _ ((onset name t).mpr set)).not_gt fresh
  · intro failoverTimeoutMS now pushed pulled
    refine (ghostReapAllowed_iff _ _ _).mpr ⟨pushed, fun entry mem => ?_⟩
    exact pulled entry.1 entry.2 ((onset entry.1 entry.2).mp mem)

/-- Every entry is the onset of its endpoint's current episode. -/
theorem newObserver_onset (masterName password : String) (endpoints : List Endpoint)
    (started : Nat) {acts : List ObserverAct} (increasing : (pollTimes acts).Pairwise (· < ·)) :
    OnsetSound (newObserver masterName password endpoints started) acts :=
  run_onset rfl rfl increasing

/-- Polls that read a marker, fail, see it again, clear it and see it once more. -/
def flappingActs : List ObserverAct :=
  [.poll (fun _ => some { flags := some { oDown := true } }) 10, .poll (fun _ => none) 20,
    .poll (fun _ => some { flags := some { oDown := true } }) 30,
    .poll (fun i => if i = 0 then some { flags := some { sDown := true } } else none) 40,
    .poll (fun i => if i = 0 then some { flags := some { oDown := true } } else none) 50]

/-- The endpoint that never cleared keeps the first time, the other starts anew. -/
theorem newObserver_onset_flapping :
    ((newObserver "m" "" (threeSentinels.take 2) 0).run flappingActs).snapshot.odownPull =
        [("s-0", 50), ("s-1", 10)] ∧
      OnsetSound (newObserver "m" "" (threeSentinels.take 2) 0) flappingActs :=
  ⟨by decide, newObserver_onset "m" "" (threeSentinels.take 2) 0 (by decide)⟩

end Runs

end Velkir.Observer
