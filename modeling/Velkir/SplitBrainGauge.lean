import Velkir.QuorumAggregate

/-!
# How long a split brain has lasted

The gauge counts from the lost quorum that began an episode to the last newer poll. A dropped
episode's poll is remembered, so that a wedged observer does not begin another one.
-/

namespace Velkir.SplitBrain

open Aggregation Machine

/-- The staleness is far from where differences saturate. -/
theorem timeSub_le_staleness (now t : Int) :
    timeSub now t ≤ splitBrainConfirmationStaleness ↔
      now - t ≤ splitBrainConfirmationStaleness := by
  unfold timeSub splitBrainConfirmationStaleness
    topologyObservationFreshnessWindow second
  omega

/-- The observer reports a lost quorum. -/
def Sighting.Lost (sighting : Sighting) : Prop := sighting.present ∧ sighting.quorum = .lost

/-- The sighting resets the tracker. -/
def Sighting.Clean (sighting : Sighting) : Prop := !sighting.present ∨ sighting.quorum = .ok

instance (sighting : Sighting) : Decidable sighting.Lost := inferInstanceAs (Decidable (_ ∧ _))

instance (sighting : Sighting) : Decidable sighting.Clean := inferInstanceAs (Decidable (_ ∨ _))

/-- A sighting and what the tracker returned for it. -/
structure Entry extends Sighting, Reading
  deriving DecidableEq

/-- The tracker and its log. -/
structure Recorder where
  log : List Entry := []
  tracker : Tracker := {}

/-- Record a sighting. -/
def record (sighting : Sighting) (recorder : Recorder) : Recorder :=
  let (reading, tracker) := recorder.tracker.updateSplitBrainSustained sighting
  { log := recorder.log ++ [⟨sighting, reading⟩], tracker }

/-- What the tracker returned for a sequence of sightings. -/
def log (sightings : List Sighting) : List Entry := (run record sightings {}).log

/-- The last poll newer than all before. -/
def LastNewer (entries : List Entry) (fresh : Entry) : Prop :=
  ∃ earlier later, entries = earlier ++ fresh :: later ∧
    (∀ entry ∈ earlier, entry.polledAt < fresh.polledAt) ∧
    ∀ entry ∈ later, entry.polledAt ≤ fresh.polledAt

/-- The log ends in an episode. -/
def InEpisode (entries : List Entry) (start fresh : Entry) : Prop :=
  ∃ before during, entries = before ++ start :: during ∧ start.Lost ∧ start.episodeStarted ∧
    (∀ entry ∈ during, ¬entry.Clean ∧ entry.episodeStarted = false) ∧
    LastNewer (start :: during) fresh

section Moves

private def Tracker.confirm (sighting : Sighting) (tracker : Tracker) : Tracker :=
  tracker.advanceSplitBrainConfirmation sighting.polledAt sighting.now

private theorem Tracker.confirm_since (sighting : Sighting) (tracker : Tracker) :
    (tracker.confirm sighting).splitBrainSince = tracker.splitBrainSince := by
  unfold Tracker.confirm Tracker.advanceSplitBrainConfirmation
  split <;> rfl

/-- What the tracker can do with a sighting. -/
inductive Moves (sighting : Sighting) (tracker : Tracker) : Reading × Tracker → Prop
  | reset (clean : sighting.Clean) : Moves sighting tracker ({}, {})
  | idle (dirty : ¬sighting.Clean) (closed : tracker.splitBrainSince = none)
      (wedged : sighting.Lost → tracker.splitBrainExpiredPollAt ≠ 0 ∧
        sighting.polledAt ≤ tracker.splitBrainExpiredPollAt) :
      Moves sighting tracker ({}, tracker)
  | start (lost : sighting.Lost) (closed : tracker.splitBrainSince = none)
      (armed : tracker.splitBrainExpiredPollAt = 0 ∨
        tracker.splitBrainExpiredPollAt < sighting.polledAt) :
      Moves sighting tracker ({ episodeStarted := true },
        { tracker with
          splitBrainSince := some sighting.now
          splitBrainPollAt := sighting.polledAt
          splitBrainConfirmedAt := sighting.now })
  | held (dirty : ¬sighting.Clean) {since : Int} (opened : tracker.splitBrainSince = some since)
      (confirmed : sighting.now - (tracker.confirm sighting).splitBrainConfirmedAt ≤
        splitBrainConfirmationStaleness) :
      Moves sighting tracker
        ({ gauge := timeSub (tracker.confirm sighting).splitBrainConfirmedAt since },
          tracker.confirm sighting)
  | expire (dirty : ¬sighting.Clean) {since : Int} (opened : tracker.splitBrainSince = some since) :
      Moves sighting tracker
        ({}, { splitBrainExpiredPollAt := (tracker.confirm sighting).splitBrainPollAt })

variable (sighting : Sighting) (tracker : Tracker)

variable {sighting tracker} in
private theorem continueEpisode_moves (dirty : ¬sighting.Clean) {since : Int}
    (opened : tracker.splitBrainSince = some since) :
    Moves sighting tracker (tracker.continueEpisode since sighting.polledAt sighting.now) := by
  unfold Tracker.continueEpisode Tracker.splitBrainEpisodeExpired
  by_cases confirmed : sighting.now - (tracker.confirm sighting).splitBrainConfirmedAt ≤
      splitBrainConfirmationStaleness
  · have kept := (timeSub_le_staleness _ _).mpr confirmed
    rw [Tracker.confirm] at kept
    simp only [kept, if_true]
    exact .held dirty opened confirmed
  · have dropped := mt (timeSub_le_staleness _ _).mp confirmed
    rw [Tracker.confirm] at dropped
    simp only [dropped, if_false]
    exact .expire dirty opened

theorem updateSplitBrainSustained_moves :
    Moves sighting tracker (tracker.updateSplitBrainSustained sighting) := by
  obtain ⟨present, quorum, polledAt, now⟩ := sighting
  cases present with
  | false => exact .reset (.inl rfl)
  | true =>
      cases quorum with
      | ok => exact .reset (.inr rfl)
      | unknown =>
          have dirty : ¬Sighting.Clean ⟨true, .unknown, polledAt, now⟩ := by
            simp [Sighting.Clean]
          cases opened : tracker.splitBrainSince with
          | none =>
              have idle := Moves.idle dirty opened (by simp [Sighting.Lost])
              simpa [Tracker.updateSplitBrainSustained, opened] using idle
          | some since =>
              have carried := continueEpisode_moves dirty opened
              simpa [Tracker.updateSplitBrainSustained, opened] using carried
      | lost =>
          have dirty : ¬Sighting.Clean ⟨true, .lost, polledAt, now⟩ := by
            simp [Sighting.Clean]
          have lost : Sighting.Lost ⟨true, .lost, polledAt, now⟩ := ⟨rfl, rfl⟩
          cases opened : tracker.splitBrainSince with
          | none =>
              by_cases wedged : tracker.splitBrainExpiredPollAt ≠ 0 ∧
                  polledAt ≤ tracker.splitBrainExpiredPollAt
              · have idle := Moves.idle dirty opened fun _ => wedged
                simpa [Tracker.updateSplitBrainSustained, opened, wedged] using idle
              · have armed : tracker.splitBrainExpiredPollAt = 0 ∨
                    tracker.splitBrainExpiredPollAt < polledAt := by
                  rw [← not_le]
                  tauto
                have start := Moves.start lost opened armed
                simpa [Tracker.updateSplitBrainSustained, opened, wedged] using start
          | some since =>
              have carried := continueEpisode_moves dirty opened
              simpa [Tracker.updateSplitBrainSustained, opened] using carried

end Moves

section Episodes

variable {entries : List Entry} {start fresh entry : Entry}

private theorem inEpisode_start (lost : start.Lost) (started : start.episodeStarted) :
    InEpisode (entries ++ [start]) start start :=
  ⟨entries, [], rfl, lost, started, nofun, [], [], rfl, nofun, nofun⟩

/-- An entry with a newer poll is the one the episode is counted to. -/
theorem InEpisode.newer (episode : InEpisode entries start fresh)
    (carried : ¬entry.Clean ∧ entry.episodeStarted = false)
    (newer : fresh.polledAt < entry.polledAt) : InEpisode (entries ++ [entry]) start entry := by
  obtain ⟨before, during, rfl, lost, started, quiet, earlier, later, split, below, above⟩ := episode
  refine ⟨before, during ++ [entry], by simp, lost, started, ?_, start :: during, [], rfl, ?_,
    nofun⟩
  · exact List.forall_mem_append.mpr ⟨quiet, List.forall_mem_singleton.mpr carried⟩
  · intro other mem
    rw [split] at mem
    rcases List.mem_append.mp mem with old | mem
    · exact (below other old).trans newer
    · rcases List.mem_cons.mp mem with rfl | old
      · exact newer
      · exact (above other old).trans_lt newer

private theorem InEpisode.replayed (episode : InEpisode entries start fresh)
    (carried : ¬entry.Clean ∧ entry.episodeStarted = false)
    (older : entry.polledAt ≤ fresh.polledAt) : InEpisode (entries ++ [entry]) start fresh := by
  obtain ⟨before, during, rfl, lost, started, quiet, earlier, later, split, below, above⟩ := episode
  refine ⟨before, during ++ [entry], by simp, lost, started, ?_, earlier, later ++ [entry], ?_,
    below, ?_⟩
  · exact List.forall_mem_append.mpr ⟨quiet, List.forall_mem_singleton.mpr carried⟩
  · rw [← List.cons_append, split]
    simp
  · exact List.forall_mem_append.mpr ⟨above, List.forall_mem_singleton.mpr older⟩

private theorem InEpisode.start_le (episode : InEpisode entries start fresh)
    (ordered : entries.Pairwise (·.now ≤ ·.now)) : start.now ≤ fresh.now := by
  obtain ⟨before, during, rfl, -, -, -, earlier, later, split, -, -⟩ := episode
  have mem : fresh ∈ start :: during := by
    rw [split]
    simp
  rcases List.mem_cons.mp mem with rfl | after
  · exact le_rfl
  · have ordered := (List.pairwise_append.mp ordered).2.1
    exact (List.pairwise_cons.mp ordered).1 fresh after

end Episodes

section Runs

variable {sightings : List Sighting} {sighting : Sighting} {recorder : Recorder}

/-- An open episode of the tracker is the one that the log ends in. -/
def Follows (entries : List Entry) (tracker : Tracker) : Prop :=
  ∀ since, tracker.splitBrainSince = some since →
    ∃ start fresh, InEpisode entries start fresh ∧ since = start.now ∧
      tracker.splitBrainPollAt = fresh.polledAt ∧ tracker.splitBrainConfirmedAt = fresh.now

/-- The gauge counts to the last newer poll, which is not stale. -/
def Verified (entries : List Entry) (entry : Entry) : Prop :=
  entry.gauge ≠ 0 → ∃ start fresh, InEpisode entries start fresh ∧
    entry.gauge = timeSub fresh.now start.now ∧
    entry.now - fresh.now ≤ splitBrainConfirmationStaleness

variable {tracker : Tracker} {entries : List Entry}

private theorem Follows.confirm (follows : Follows entries tracker) (dirty : ¬sighting.Clean)
    (reading : Reading) (quiet : reading.episodeStarted = false) :
    Follows (entries ++ [⟨sighting, reading⟩]) (tracker.confirm sighting) := by
  intro since opened
  unfold Tracker.confirm Tracker.advanceSplitBrainConfirmation at opened ⊢
  split at opened
  next newer =>
    obtain ⟨start, fresh, episode, counted, polled, confirmed⟩ := follows since opened
    rw [polled] at newer
    rw [if_pos (by rwa [polled])]
    exact ⟨start, _, episode.newer ⟨dirty, quiet⟩ newer, counted, rfl, rfl⟩
  next older =>
    obtain ⟨start, fresh, episode, counted, polled, confirmed⟩ := follows since opened
    rw [if_neg older]
    rw [polled, not_lt] at older
    exact ⟨start, fresh, episode.replayed ⟨dirty, quiet⟩ older, counted, polled, confirmed⟩

variable {result : Reading × Tracker}

private theorem Follows.update (follows : Follows entries tracker)
    (moves : Moves sighting tracker result) : Follows (entries ++ [⟨sighting, result.1⟩]) result.2 ∧
      Verified (entries ++ [⟨sighting, result.1⟩]) ⟨sighting, result.1⟩ := by
  cases moves with
  | reset clean => exact ⟨nofun, fun busy => absurd rfl busy⟩
  | idle dirty closed wedged =>
      refine ⟨fun since opened => ?_, fun busy => absurd rfl busy⟩
      rw [closed] at opened
      cases opened
  | start lost closed armed =>
      refine ⟨fun since opened => ?_, fun busy => absurd rfl busy⟩
      cases opened
      exact ⟨_, _, inEpisode_start lost rfl, rfl, rfl, rfl⟩
  | @held dirty since opened confirmed =>
      have kept := follows.confirm dirty
        { gauge := timeSub (tracker.confirm sighting).splitBrainConfirmedAt since } rfl
      refine ⟨kept, fun _ => ?_⟩
      obtain ⟨start, fresh, episode, counted, -, last⟩ :=
        kept since ((tracker.confirm_since sighting).trans opened)
      rw [last] at confirmed episode ⊢
      rw [counted] at episode ⊢
      exact ⟨start, fresh, episode, rfl, confirmed⟩
  | expire dirty opened => exact ⟨nofun, fun busy => absurd rfl busy⟩

theorem record_log (sighting : Sighting) (recorder : Recorder) :
    (record sighting recorder).log =
      recorder.log ++ [⟨sighting, (recorder.tracker.updateSplitBrainSustained sighting).1⟩] :=
  rfl

/-- The tracker follows the log, and the last reading is verified. -/
structure Recorder.Sound (recorder : Recorder) : Prop where
  follows : Follows recorder.log recorder.tracker
  verified : ∀ past entry, recorder.log = past ++ [entry] → Verified recorder.log entry

private theorem Recorder.Sound.record (sound : recorder.Sound) (sighting : Sighting) :
    (record sighting recorder).Sound := by
  obtain ⟨follows, verified⟩ :=
    sound.follows.update (updateSplitBrainSustained_moves sighting recorder.tracker)
  refine ⟨follows, fun past entry last => ?_⟩
  rw [record_log] at last
  obtain ⟨-, same⟩ := List.append_inj' last rfl
  obtain rfl : _ = entry := List.singleton_inj.mp same
  exact verified

private theorem run_sound (sightings : List Sighting) : (run record sightings {}).Sound := by
  refine run_invariant Recorder.Sound (fun sighting _ sound => sound.record sighting) sightings ?_
  exact ⟨fun _ opened => (nomatch opened), by simp⟩

/-- A poll that began an episode is remembered as long as it is replayed. -/
def Remembers (stamp : Int) (tracker : Tracker) : Prop :=
  stamp ≠ 0 ∧ match tracker.splitBrainSince with
    | some _ => tracker.splitBrainPollAt = stamp
    | none => tracker.splitBrainExpiredPollAt = stamp

private theorem Remembers.replay {stamp : Int} (remembers : Remembers stamp tracker)
    (moves : Moves sighting tracker result) (dirty : ¬sighting.Clean)
    (older : sighting.polledAt ≤ stamp) :
    result.1.episodeStarted = false ∧ Remembers stamp result.2 := by
  obtain ⟨set, remembers⟩ := remembers
  have same : ∀ since, tracker.splitBrainSince = some since →
      tracker.confirm sighting = tracker := by
    intro since opened
    rw [opened] at remembers
    exact if_neg (by omega)
  cases moves with
  | reset clean => exact absurd clean dirty
  | idle _ closed wedged => exact ⟨rfl, set, remembers⟩
  | start lost closed armed =>
      rw [closed] at remembers
      dsimp only at remembers
      omega
  | @held _ since opened confirmed =>
      rw [same since opened]
      exact ⟨rfl, set, remembers⟩
  | @expire _ since opened =>
      rw [same since opened]
      rw [opened] at remembers
      exact ⟨rfl, set, remembers⟩

/-- While no poll is newer than the first, no other episode begins. -/
def Recorder.Quiet (recorder : Recorder) : Prop :=
  ∀ before start during, recorder.log = before ++ start :: during → start.episodeStarted →
    (∀ entry ∈ during, ¬entry.Clean ∧ entry.polledAt ≤ start.polledAt) →
    Remembers start.polledAt recorder.tracker ∧ ∀ entry ∈ during, entry.episodeStarted = false

/-- Only a lost quorum begins an episode, and its poll is remembered. -/
theorem remembers_of_started (moves : Moves sighting tracker result)
    (started : result.1.episodeStarted) (polled : sighting.Lost → sighting.polledAt ≠ 0) :
    Remembers sighting.polledAt result.2 := by
  cases moves with
  | start lost closed armed => exact ⟨polled lost, rfl⟩
  | reset | idle | held | expire => cases started

private theorem Recorder.Quiet.record (quiet : recorder.Quiet)
    (polled : sighting.Lost → sighting.polledAt ≠ 0) : (record sighting recorder).Quiet := by
  have moves := updateSplitBrainSustained_moves sighting recorder.tracker
  intro before start during split started replayed
  rw [record_log] at split
  rcases List.eq_nil_or_concat during with rfl | ⟨during, last, rfl⟩
  · obtain ⟨-, same⟩ := List.append_inj' split rfl
    obtain rfl : _ = start := List.singleton_inj.mp same
    exact ⟨remembers_of_started moves started polled, nofun⟩
  · rw [List.concat_eq_append, ← List.cons_append, ← List.append_assoc] at split
    obtain ⟨shorter, same⟩ := List.append_inj' split rfl
    obtain rfl : _ = last := List.singleton_inj.mp same
    rw [List.concat_eq_append, List.forall_mem_append, List.forall_mem_singleton] at replayed ⊢
    obtain ⟨remembers, one⟩ := quiet before start during shorter started replayed.1
    obtain ⟨unstarted, remembers⟩ := remembers.replay moves replayed.2.1 replayed.2.2
    exact ⟨remembers, one, unstarted⟩

private theorem run_quiet (polled : ∀ sighting ∈ sightings, sighting.Lost → sighting.polledAt ≠ 0) :
    (run record sightings {}).Quiet := by
  induction sightings using List.reverseRecOn with
  | nil => simp [Recorder.Quiet, run]
  | append_singleton past sighting ih =>
      rw [List.forall_mem_append, List.forall_mem_singleton] at polled
      rw [run_concat]
      exact (ih polled.1).record polled.2

private theorem log_sightings (sightings : List Sighting) :
    (log sightings).map Entry.toSighting = sightings := by
  induction sightings using List.reverseRecOn with
  | nil => rfl
  | append_singleton past sighting ih =>
      rw [log, run_concat, record_log, List.map_append]
      exact congrArg (· ++ [sighting]) ih

/-- The bounds on the gauge and on the starts of episodes. -/
structure Bounded (entries : List Entry) : Prop where
  /-- The last reading counts at most to the last newer poll, and is zero once that is stale. -/
  gauge : ∀ past entry, entries = past ++ [entry] →
    entry.gauge = 0 ∨ ∃ start fresh, InEpisode entries start fresh ∧
      entry.gauge ≤ fresh.now - start.now ∧
      entry.now - fresh.now ≤ splitBrainConfirmationStaleness
  /-- Without a newer poll or a reset, one episode begins. -/
  starts : ∀ before start during, entries = before ++ start :: during → start.episodeStarted →
    (∀ entry ∈ during, ¬entry.Clean ∧ entry.polledAt ≤ start.polledAt) →
    ∀ entry ∈ during, entry.episodeStarted = false

/-- The gauge never exceeds the time that polls have verified, and a replayed poll pages once. -/
theorem log_bounded (ordered : sightings.Pairwise (·.now ≤ ·.now))
    (polled : ∀ sighting ∈ sightings, sighting.Lost → sighting.polledAt ≠ 0) :
    Bounded (log sightings) := by
  constructor
  · intro past entry last
    rcases eq_or_ne entry.gauge 0 with zero | busy
    · exact .inl zero
    · obtain ⟨start, fresh, episode, value, confirmed⟩ :=
        (run_sound sightings).verified past entry last busy
      have order : (log sightings).Pairwise (·.now ≤ ·.now) := by
        rw [← log_sightings sightings, List.pairwise_map] at ordered
        exact ordered
      have forward := episode.start_le order
      refine .inr ⟨start, fresh, episode, ?_, confirmed⟩
      rw [value]
      unfold timeSub
      omega
  · intro before start during split started replayed
    exact (run_quiet polled before start during split started replayed).2

/-- A lost quorum that is polled twice and then replayed until it is dropped. -/
def wedgedSightings : List Sighting :=
  [⟨true, .lost, 5, 10⟩, ⟨true, .unknown, 0, 20⟩, ⟨true, .lost, 7, 30⟩, ⟨true, .lost, 7, 40⟩,
    ⟨true, .lost, 7, 70000000000⟩, ⟨true, .lost, 7, 70000000001⟩]

example :
    (log wedgedSightings).map (·.toReading) =
      [⟨0, true⟩, ⟨0, false⟩, ⟨20, false⟩, ⟨20, false⟩, ⟨0, false⟩, ⟨0, false⟩] := by decide

theorem log_bounded_wedged :
    wedgedSightings.Pairwise (·.now ≤ ·.now) ∧
      (∀ sighting ∈ wedgedSightings, sighting.Lost → sighting.polledAt ≠ 0) ∧
      Bounded (log wedgedSightings) := by
  have ordered : wedgedSightings.Pairwise (·.now ≤ ·.now) := by decide
  have polled : ∀ sighting ∈ wedgedSightings, sighting.Lost → sighting.polledAt ≠ 0 := by decide
  exact ⟨ordered, polled, log_bounded ordered polled⟩

end Runs

end Velkir.SplitBrain
