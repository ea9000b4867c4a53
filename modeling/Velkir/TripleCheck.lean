import Velkir.Observer

/-!
# The gate in front of a failover

`EvaluateTripleCheck` reads the age of a snapshot from its publication. Frames publish too, with an
old quorum.
-/

namespace Velkir.TripleCheck

/-- Why a failover is allowed or not. -/
inductive Reason
  | ok
  | noSnapshot
  | noQuorum
  | noODownConsensus
  | podReady
  | staleSnapshot
  deriving DecidableEq

/-- The text about a stale snapshot names both ages. -/
inductive Detail
  | text (message : String)
  | snapshotAge (age maxAge : Int)
  deriving DecidableEq

/-- The decision with its reason. -/
structure FailoverDecision where
  allow : Bool := false
  reason : Reason := .ok
  detail : Detail := .text ""
  deriving DecidableEq

/-- A snapshot that may be missing. -/
structure Snapshot where
  present : Bool
  primary : ObserverSnapshot

/-- What the check looks at. -/
structure Inputs where
  snapshot : Snapshot
  podReady : Bool
  quorum : Int
  odownStaleness : Int
  maxSnapshotAge : Int
  now : Nat

/-- The stamp is recent enough; a bound that is not positive is no bound. -/
def withinStaleness (now : Nat) (staleness : Int) (stamp : Nat) : Bool :=
  staleness ≤ 0 ∨ (now : Int) - staleness ≤ stamp

/-- The observer never stamps the zero time. -/
def consensusODown (odown : Stamps) (now : Nat) (staleness : Int) : Nat :=
  odown.countP fun entry => withinStaleness now staleness entry.2

def roundSecond (age : Int) : Int := (age + second / 2) / second * second

/-- The three checks before a failover. -/
def evaluateTripleCheck (input : Inputs) : FailoverDecision :=
  let primary := input.snapshot.primary
  let age : Int := input.now - primary.updatedAt
  let consensus := consensusODown primary.odown input.now input.odownStaleness
  if !input.snapshot.present then
    { reason := .noSnapshot
      detail := .text ("observer has not published a snapshot yet; failover decision deferred " ++
        "until the next observer tick") }
  else if 0 < input.maxSnapshotAge ∧ input.maxSnapshotAge < age then
    { reason := .staleSnapshot
      detail := .snapshotAge (roundSecond age) input.maxSnapshotAge }
  else if !primary.quorumOK then
    { reason := .noQuorum
      detail := .text ("CKQUORUM did not return OK; entering Degraded+QuorumLost rather than " ++
        "failing over") }
  else if (consensus : Int) < input.quorum then
    { reason := .noODownConsensus
      detail := .text ("only " ++ toString consensus ++ " sentinels report +odown (need quorum=" ++
        toString input.quorum ++ "); letting sentinel run its course") }
  else if input.podReady then
    { reason := .podReady
      detail := .text ("sentinels report the primary down, but kubelet says Pod.Ready=True; " ++
        "suppressing failover until kubelet agrees") }
  else { allow := true }

private theorem allow_iff {input : Inputs} (gated : 0 < input.maxSnapshotAge) :
    (evaluateTripleCheck input).allow = true ↔
      input.snapshot.present = true ∧
        (input.now : Int) ≤ input.snapshot.primary.updatedAt + input.maxSnapshotAge ∧
        input.snapshot.primary.quorumOK = true ∧
        input.quorum ≤ consensusODown input.snapshot.primary.odown input.now
          input.odownStaleness ∧
        input.podReady = false := by
  unfold evaluateTripleCheck
  dsimp only
  split_ifs with absent stale lost short ready
  · simpa using fun present => absurd present (by simpa using absent)
  · simp only [false_iff, not_and]
    omega
  · simpa using fun _ _ ok => absurd ok (by simpa using lost)
  · simp only [false_iff, not_and]
    omega
  · simp [ready]
  · refine iff_of_true rfl ⟨by simpa using absent, by omega, by simpa using lost, by omega, ?_⟩
    simpa using ready

/-- The frame is subscribed to, names the master and chains on. -/
def Heard (subscription : Nat) (frame : EventFrame) (observer : Observer) : Prop :=
  subscription < observer.subscriptions.length ∧
    match frame with
    | .switchMaster masterName oldAddr _ =>
        masterName = observer.masterName ∧
          (observer.snapshot.addr = "" ∨ oldAddr = observer.snapshot.addr)
    | .odown masterName | .odownClear masterName | .failoverEnd masterName _ =>
        masterName = observer.masterName
    | .other => False

instance (subscription : Nat) (frame : EventFrame) (observer : Observer) :
    Decidable (Heard subscription frame observer) := by
  unfold Heard
  cases frame <;> infer_instance

def time : ObserverAct → Nat
  | .poll _ now => now
  | .frame _ _ now => now

def Frame (line : ObserverAct × Observer) : Prop := line.1.isPoll = false

def EndsOK (line : ObserverAct × Observer) : Prop :=
  line.1.isPoll = true ∧ (Observer.step line.1 line.2).snapshot.quorum = .ok

/-- A frame that was heard. -/
def Republishes : ObserverAct × Observer → Prop
  | (.poll _ _, _) => False
  | (.frame subscription frame _, observer) => Heard subscription frame observer

/-- What happened, newest first. -/
def lines (start : Observer) (acts : List ObserverAct) : List (ObserverAct × Observer) :=
  Machine.lines Observer.step acts start

variable {subscription : Nat} {frame : EventFrame} {observer : Observer}

theorem step_of_heard (heard : Heard subscription frame observer) (now : Nat) :
    (Observer.step (.frame subscription frame now) observer).snapshot.updatedAt = now := by
  obtain ⟨known, heard⟩ := heard
  unfold Observer.step
  dsimp only
  rw [List.getElem?_eq_getElem known]
  unfold Observer.dispatch
  cases frame with
  | switchMaster masterName oldAddr newAddr =>
      dsimp only at heard ⊢
      obtain ⟨named, chains⟩ := heard
      have chained : ¬(observer.snapshot.addr ≠ "" ∧ oldAddr ≠ observer.snapshot.addr) := by
        tauto
      rw [if_neg (not_not.mpr named), if_neg chained]
      rfl
  | odown masterName | odownClear masterName | failoverEnd masterName addr =>
      dsimp only at heard ⊢
      rw [if_neg (not_not.mpr heard)]
      rfl
  | other => exact heard.elim

theorem step_of_not_heard (dropped : ¬Heard subscription frame observer) (now : Nat) :
    Observer.step (.frame subscription frame now) observer = observer := by
  unfold Observer.step
  dsimp only
  cases sends : observer.subscriptions[subscription]? with
  | none => rfl
  | some endpoint =>
      have known : subscription < observer.subscriptions.length :=
        (List.getElem?_eq_some_iff.mp sends).1
      unfold Observer.dispatch
      cases frame with
      | switchMaster masterName oldAddr newAddr =>
          dsimp only
          split_ifs with other unchained
          · rfl
          · rfl
          · refine absurd ⟨known, not_not.mp other, ?_⟩ dropped
            tauto
      | odown masterName | odownClear masterName | failoverEnd masterName addr =>
          dsimp only
          split_ifs with other
          · rfl
          · exact absurd ⟨known, not_not.mp other⟩ dropped
      | other => rfl

private theorem pollOnce_updatedAt (replies : Replies) (now : Nat) (observer : Observer) :
    (observer.pollOnce replies now).snapshot.updatedAt = now := by
  unfold Observer.pollOnce
  dsimp only
  split_ifs <;> rfl

section Runs

variable {start : Observer} {acts past : List ObserverAct} {recent : Nat → Prop}

/-- The clock does not go back. -/
def Clocked (acts : List ObserverAct) : Prop :=
  acts.Pairwise fun earlier later => time earlier ≤ time later

theorem Clocked.of_concat {act : ObserverAct} (clock : Clocked (past ++ [act])) :
    Clocked past ∧ ∀ line ∈ lines start past, time line.1 ≤ time act := by
  obtain ⟨sorted, -, later⟩ := List.pairwise_append.mp clock
  exact ⟨sorted, fun line mem => later line.1 (Machine.mem_of_mem_lines mem) act (by simp)⟩

theorem lines_concat (past : List ObserverAct) (act : ObserverAct) :
    lines start (past ++ [act]) = (act, start.run past) :: lines start past :=
  Machine.lines_concat past act start

private theorem quorum_iff (unknown : start.snapshot.quorum ≠ .ok) (acts : List ObserverAct) :
    (start.run acts).snapshot.quorum = .ok ↔ History.Since Frame EndsOK (lines start acts) := by
  refine Machine.run_history (fun past (observer : Observer) =>
    observer.snapshot.quorum = .ok ↔ History.Since Frame EndsOK (lines start past))
    (iff_of_false unknown History.not_since_nil) ?_ acts
  intro past act before
  rw [lines_concat, History.since_cons]
  cases act with
  | poll replies now => simp [EndsOK, Frame, ObserverAct.isPoll, Observer.run]
  | frame subscription frame now =>
      have same := (Observer.step_frame_pushed subscription frame now (start.run past)).quorum
      simp only [EndsOK, Frame, ObserverAct.isPoll, Bool.false_eq_true, false_and, false_or,
        true_and]
      exact (iff_of_eq (congrArg (· = QuorumStatus.ok) same)).trans before

/-- A recent snapshot over an old poll was published by a frame. -/
theorem republished_of_recent
    (stalled : History.Since Frame (fun line => EndsOK line ∧ ¬recent (time line.1))
      (lines start acts))
    (fresh : recent (start.run acts).snapshot.updatedAt) :
    History.Since Frame (fun line => Republishes line ∧ recent (time line.1))
      (lines start acts) := by
  revert stalled fresh
  refine Machine.run_history (fun past (observer : Observer) =>
    History.Since Frame (fun line => EndsOK line ∧ ¬recent (time line.1)) (lines start past) →
      recent observer.snapshot.updatedAt →
      History.Since Frame (fun line => Republishes line ∧ recent (time line.1))
        (lines start past)) nofun ?_ acts
  intro past act before stalled fresh
  rw [lines_concat, History.since_cons] at stalled ⊢
  cases act with
  | poll replies now =>
      rcases stalled with ⟨-, old⟩ | ⟨frame, -⟩
      · exact absurd ((pollOnce_updatedAt replies now _) ▸ fresh) old
      · cases frame
  | frame subscription frame now =>
      rcases stalled with ⟨⟨poll, -⟩, -⟩ | ⟨-, stalled⟩
      · cases poll
      by_cases heard : Heard subscription frame (start.run past)
      · exact .inl ⟨heard, (step_of_heard heard now) ▸ fresh⟩
      · exact .inr ⟨rfl, before stalled ((congrArg (recent ·.snapshot.updatedAt)
          (step_of_not_heard heard now)).mp fresh)⟩

private theorem recent_of_republished
    (up : ∀ earlier later, earlier ≤ later → recent earlier → recent later) (clock : Clocked acts)
    (republished : History.Since Frame (fun line => Republishes line ∧ recent (time line.1))
      (lines start acts)) :
    recent (start.run acts).snapshot.updatedAt := by
  revert clock republished
  refine Machine.run_history (fun past (observer : Observer) => Clocked past →
    History.Since Frame (fun line => Republishes line ∧ recent (time line.1)) (lines start past) →
      recent observer.snapshot.updatedAt) (fun _ => nofun) ?_ acts
  intro past act before clock republished
  rw [lines_concat, History.since_cons] at republished
  obtain ⟨sorted, later⟩ := @Clocked.of_concat start _ _ clock
  cases act with
  | poll replies now =>
      rcases republished with ⟨frame, -⟩ | ⟨frame, -⟩
      · exact frame.elim
      · cases frame
  | frame subscription frame now =>
      by_cases heard : Heard subscription frame (start.run past)
      · refine (congrArg recent (step_of_heard heard now)).mpr ?_
        rcases republished with ⟨-, here⟩ | ⟨-, republished⟩
        · exact here
        · obtain ⟨line, mem, -, there⟩ := republished.exists_start
          exact up _ _ (later line mem) there
      · refine (congrArg (recent ·.snapshot.updatedAt) (step_of_not_heard heard now)).mpr ?_
        rcases republished with ⟨here, -⟩ | ⟨-, republished⟩
        · exact absurd here heard
        · exact before sorted republished

private theorem old_of_stalled
    (up : ∀ earlier later, earlier ≤ later → recent earlier → recent later) (clock : Clocked acts)
    (stalled : History.Since Frame (fun line => EndsOK line ∧ ¬recent (time line.1))
      (lines start acts)) :
    ∀ line ∈ lines start acts, EndsOK line → ¬recent (time line.1) := by
  induction acts using List.reverseRecOn with
  | nil => exact nofun
  | append_singleton past act before =>
      intro line mem ok young
      obtain ⟨sorted, later⟩ := @Clocked.of_concat start _ _ clock
      rw [lines_concat, History.since_cons] at stalled
      rw [lines_concat] at mem
      rcases stalled with ⟨poll, old⟩ | ⟨frame, stalled⟩
      · rcases List.mem_cons.mp mem with rfl | earlier
        · exact old young
        · exact old (up _ _ (later line earlier) young)
      · rcases List.mem_cons.mp mem with rfl | earlier
        · rw [Frame, ok.1] at frame
          cases frame
        · exact before sorted stalled line earlier ok young

end Runs

section Stamps

variable {start : Observer}

theorem removeStamp_nodup (name : String) {stamps : Stamps}
    (nodup : (stamps.map Prod.fst).Nodup) : ((removeStamp name stamps).map Prod.fst).Nodup :=
  (List.filter_sublist.map Prod.fst).nodup nodup

private theorem setStamp_nodup (name : String) (now : Nat) {stamps : Stamps}
    (nodup : (stamps.map Prod.fst).Nodup) : ((setStamp name now stamps).map Prod.fst).Nodup := by
  refine List.nodup_cons.mpr ⟨fun mem => ?_, removeStamp_nodup name nodup⟩
  obtain ⟨entry, kept, named⟩ := List.mem_map.mp mem
  have other := (List.mem_filter.mp kept).2
  simp [named] at other

private theorem step_odown_nodup (act : ObserverAct) (observer : Observer)
    (nodup : (observer.odown.map Prod.fst).Nodup) :
    ((Observer.step act observer).odown.map Prod.fst).Nodup := by
  cases act with
  | poll replies now =>
      unfold Observer.step Observer.pollOnce
      dsimp only
      split_ifs <;> exact nodup
  | frame subscription frame now =>
      unfold Observer.step
      dsimp only
      cases observer.subscriptions[subscription]? with
      | none => exact nodup
      | some endpoint =>
          unfold Observer.dispatch
          cases frame with
          | switchMaster masterName oldAddr newAddr =>
              dsimp only
              split_ifs <;> exact nodup
          | odown masterName =>
              dsimp only
              split_ifs
              · exact nodup
              · exact setStamp_nodup endpoint.name now nodup
          | odownClear masterName =>
              dsimp only
              split_ifs
              · exact nodup
              · exact removeStamp_nodup endpoint.name nodup
          | failoverEnd masterName addr =>
              dsimp only
              split_ifs <;> exact nodup
          | other => exact nodup

/-- At least so many different subscribed sentinels have a recent stamp. -/
def Agreed (start : Observer) (odown : Stamps) (input : Inputs) : Prop :=
  ∃ names : List String, names.Nodup ∧ input.quorum ≤ names.length ∧
    ∀ name ∈ names, (∃ endpoint ∈ start.subscriptions, endpoint.name = name) ∧
      ∃ stamp, (name, stamp) ∈ odown ∧ withinStaleness input.now input.odownStaleness stamp = true

/-- Counting the stamps is counting sentinels. -/
theorem agreed_iff {odown : Stamps} (nodup : (odown.map Prod.fst).Nodup)
    (subscribed : ∀ entry ∈ odown, ∃ endpoint ∈ start.subscriptions, endpoint.name = entry.1)
    (input : Inputs) :
    Agreed start odown input ↔
      input.quorum ≤ consensusODown odown input.now input.odownStaleness := by
  unfold consensusODown
  rw [List.countP_eq_length_filter]
  set fresh := odown.filter fun entry =>
    withinStaleness input.now input.odownStaleness entry.2
  constructor
  · rintro ⟨names, distinct, enough, stamped⟩
    have listed : names ⊆ fresh.map Prod.fst := by
      intro name mem
      obtain ⟨-, stamp, entry, young⟩ := stamped name mem
      exact List.mem_map.mpr ⟨(name, stamp), List.mem_filter.mpr ⟨entry, young⟩, rfl⟩
    have fewer := (List.subperm_of_subset distinct listed).length_le
    rw [List.length_map] at fewer
    omega
  · intro enough
    refine ⟨fresh.map Prod.fst, (List.filter_sublist.map Prod.fst).nodup nodup,
      by rwa [List.length_map], fun name mem => ?_⟩
    obtain ⟨⟨_, stamp⟩, kept, rfl⟩ := List.mem_map.mp mem
    obtain ⟨entry, young⟩ := List.mem_filter.mp kept
    exact ⟨subscribed _ entry, stamp, entry, young⟩

end Stamps

/-- The stamp is no older than the greatest age allowed. -/
def Recent (input : Inputs) (stamp : Nat) : Prop :=
  (input.now : Int) ≤ stamp + input.maxSnapshotAge

/-- A recent poll ended with quorum OK, and so did every poll after it. -/
def RecentlyPolled (start : Observer) (acts : List ObserverAct) (input : Inputs) : Prop :=
  History.Since (fun line => line.1.isPoll = true → EndsOK line)
    (fun line => EndsOK line ∧ Recent input (time line.1)) (lines start acts)

/-- The last poll is OK but not recent; a frame since then is. -/
def Masked (start : Observer) (acts : List ObserverAct) (input : Inputs) : Prop :=
  History.Since Frame (fun line => EndsOK line ∧ ¬Recent input (time line.1)) (lines start acts) ∧
    History.Since Frame (fun line => Republishes line ∧ Recent input (time line.1))
      (lines start acts)

/-- Quorum is recently polled, unless frames alone keep coming and all else lets through. -/
theorem allow_recentlyPolled_iff (masterName password : String) (endpoints : List Endpoint)
    (started : Nat) {acts : List ObserverAct} (clock : Clocked acts) {input : Inputs}
    (gated : 0 < input.maxSnapshotAge) :
    let start := newObserver masterName password endpoints started
    input.snapshot.primary = (start.run acts).snapshot →
    (((evaluateTripleCheck input).allow = true →
        RecentlyPolled start acts input ∧
          Agreed start (start.run acts).snapshot.odown input ∧ input.podReady = false) ↔
      ¬(Masked start acts input ∧ input.snapshot.present = true ∧
        Agreed start (start.run acts).snapshot.odown input ∧ input.podReady = false)) := by
  intro start same
  have consistent := Observer.run_consistent
    (Observer.newObserver_consistent masterName password endpoints started) acts
  have nodup : ((start.run acts).snapshot.odown.map Prod.fst).Nodup := by
    rw [consistent.published]
    exact Machine.run_invariant (fun observer : Observer => (observer.odown.map Prod.fst).Nodup)
      step_odown_nodup acts .nil
  have subscribed : ∀ entry ∈ (start.run acts).snapshot.odown,
      ∃ endpoint ∈ start.subscriptions, endpoint.name = entry.1 := by
    rw [consistent.published]
    have names := consistent.odown
    rwa [Observer.subscriptions, Observer.run_endpoints] at names
  have up (earlier later : Nat) (order : earlier ≤ later) (young : Recent input earlier) :
      Recent input later := by
    unfold Recent at young ⊢
    omega
  rw [allow_iff gated, same, consistent.quorumOK, quorum_iff (by simp [newObserver]),
    ← agreed_iff nodup subscribed]
  constructor
  · rintro gate ⟨⟨stalled, republished⟩, present, agree, unready⟩
    have fresh := recent_of_republished up clock republished
    have polled := stalled.mono_start fun _ both => both.1
    obtain ⟨line, mem, ok, young⟩ := (gate ⟨present, fresh, polled, agree, unready⟩).1.exists_start
    exact old_of_stalled up clock stalled line mem ok young
  · rintro unmasked ⟨present, fresh, polled, agree, unready⟩
    refine ⟨?_, agree, unready⟩
    rcases polled.split fun line => Recent input (time line.1) with young | stalled
    · exact young.mono fun line frame poll => absurd (frame.symm.trans poll) (by decide)
    · have republished := republished_of_recent stalled fresh
      exact absurd ⟨⟨stalled, republished⟩, present, agree, unready⟩ unmasked

def agree : Replies := fun _ => some { addr := "10.0.0.1:6379", epoch := 1, quorumOK := true }

/-- All sentinels agree in one poll; later two push that it is down. -/
def pollThenODown (polledAt : Nat) : List ObserverAct :=
  [.poll agree polledAt, .frame 0 (.odown "m") (100 * second), .frame 1 (.odown "m") (100 * second)]

theorem eq_poll_of_mem {polledAt : Nat} {act : ObserverAct} (mem : act ∈ pollThenODown polledAt)
    (poll : act.isPoll = true) : act = .poll agree polledAt := by
  simp only [pollThenODown, List.mem_cons, List.not_mem_nil, or_false] at mem
  rcases mem with rfl | rfl | rfl
  · rfl
  · cases poll
  · cases poll

def inputAfter (polledAt : Nat) : Inputs where
  snapshot :=
    { present := true
      primary := ((newObserver "m" "" Observer.threeSentinels 0).run
        (pollThenODown polledAt)).snapshot }
  podReady := false
  quorum := 2
  odownStaleness := 30 * second
  maxSnapshotAge := 30 * second
  now := 101 * second

/-- The only poll is 101 seconds old, and the failover is let through. -/
theorem allow_stalled :
    (evaluateTripleCheck (inputAfter 0)).allow = true ∧
      ¬RecentlyPolled (newObserver "m" "" Observer.threeSentinels 0) (pollThenODown 0)
        (inputAfter 0) := by
  refine ⟨by decide, fun polled => ?_⟩
  obtain ⟨line, mem, ⟨poll, -⟩, young⟩ := polled.exists_start
  rw [Recent, eq_poll_of_mem (Machine.mem_of_mem_lines mem) poll] at young
  revert young
  decide

/-- A poll right before the frames. -/
theorem allow_recentlyPolled_polling :
    (evaluateTripleCheck (inputAfter (99 * second))).allow = true ∧
      RecentlyPolled (newObserver "m" "" Observer.threeSentinels 0) (pollThenODown (99 * second))
        (inputAfter (99 * second)) := by
  have allowed : (evaluateTripleCheck (inputAfter (99 * second))).allow = true := by decide
  have clock : Clocked (pollThenODown (99 * second)) := by
    unfold Clocked
    decide
  have property := (allow_recentlyPolled_iff "m" "" Observer.threeSentinels 0 clock
    (by decide) rfl).mpr ?_ allowed
  · exact ⟨allowed, property.1⟩
  · rintro ⟨⟨stalled, -⟩, -⟩
    obtain ⟨line, mem, ⟨poll, -⟩, old⟩ := stalled.exists_start
    rw [Recent, eq_poll_of_mem (Machine.mem_of_mem_lines mem) poll] at old
    exact old (by decide)

end Velkir.TripleCheck
