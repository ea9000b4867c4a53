import Velkir.Reconcile

/-!
# Armed watchdogs and reported stalls

Phase 9 arms the watchdog in the working copy, the base of the status patch, so that it is never
stored.
-/

namespace Velkir

open Crash Proc History MergePatch

/-- The pod a watchdog waits for and until when. -/
def armedFor : Option MasterAware → Option (String × Nat)
  | some ⟨pod, some deadline, _⟩ => some (pod, deadline)
  | _ => none

variable {pod : String} {watchdog : Option MasterAware} {deadline : Nat}

theorem armedFor_eq_some :
    armedFor watchdog = some (pod, deadline) ↔
      ∃ deletedAt, watchdog = some ⟨pod, some deadline, deletedAt⟩ := by
  rcases watchdog with _ | ⟨waiting, _ | held, deletedAt⟩ <;> simp [armedFor]

variable {now : Nat}

theorem arm_armed {existing : Option MasterAware} {timeoutSeconds : Int}
    (armed : armedFor existing = some (pod, deadline)) :
    some (arm now pod timeoutSeconds existing) = existing := by
  obtain ⟨deletedAt, rfl⟩ := armedFor_eq_some.mp armed
  simp [arm]

private theorem armedFor_arm (existing : Option MasterAware) (pod : String) (now : Nat)
    (timeoutSeconds : Int) :
    ∃ deadline, armedFor (some (arm now pod timeoutSeconds existing)) = some (pod, deadline) := by
  unfold arm
  rcases existing with _ | ⟨waiting, _ | held, deletedAt⟩
  · exact ⟨_, rfl⟩
  · exact ⟨_, by simp [armedFor]; rfl⟩
  · by_cases same : waiting = pod
    · exact ⟨held, by simp [same, armedFor]⟩
    · exact ⟨_, by simp [same, armedFor]; rfl⟩

theorem check_armed (now : Nat) (armed : armedFor watchdog = some (pod, deadline))
    (named : pod ≠ "") :
    check now watchdog =
      { active := true, expired := deadline ≤ now, podName := pod, deadline } := by
  obtain ⟨deletedAt, rfl⟩ := armedFor_eq_some.mp armed
  simp [check, named]

theorem check_expired_iff :
    (check now watchdog).active = true ∧ (check now watchdog).expired = true ↔
      ∃ pod deadline, armedFor watchdog = some (pod, deadline) ∧ pod ≠ "" ∧ deadline ≤ now := by
  rcases watchdog with _ | ⟨waiting, _ | held, deletedAt⟩
  · simp [check, armedFor]
  · by_cases empty : waiting = "" <;> simp [check, armedFor, empty]
  · by_cases empty : waiting = "" <;> simp +contextual [check, armedFor, empty]

private theorem check_active (expired : (check now watchdog).expired = true) :
    (check now watchdog).active = true := by
  rcases watchdog with _ | ⟨waiting, _ | held, deletedAt⟩
  · simp [check] at expired
  · by_cases empty : waiting = "" <;> simp [check, empty] at expired
  · by_cases empty : waiting = "" <;> simp [check, empty] at expired ⊢

private theorem armedFor_cleared {base stored : Status}
    (expired : (check now base.masterAware).expired = true) :
    armedFor (base.patched (statusAfter (check now base.masterAware) base) stored).masterAware =
      none := by
  obtain ⟨pod, deadline, armed, -⟩ := check_expired_iff.mp ⟨check_active expired, expired⟩
  obtain ⟨deletedAt, held⟩ := armedFor_eq_some.mp armed
  rw [statusAfter, if_pos ⟨check_active expired, expired⟩]
  simp [Status.patched, Status.wire, held, disarm, merge, mergeOption, replace, armedFor]

/-- The parts and lines of everything but Phase 9 and the status write. -/
def calmParts : List Part :=
  [.pods, .sts, .pvcs, .stored, .identity, .dispatch, .resize, .latch, .lastState]

private def calmKinds : List Kind := Kind.but [.rolled, .evaluated, .stalled]

/-- Phase 9 has not run: the pass holds the watchdog it fetched. -/
structure Unarmed (fetched : Option MasterAware) (before : List Entry) (w : World) : Prop where
  stored : w.cr.status.masterAware = fetched
  working : w.v.status.masterAware = fetched
  lines : ∃ lines, w.journal = lines ++ before ∧ ∀ line ∈ lines, line.kind ∈ calmKinds

/-- Phase 9 looked at pods that were all ready. -/
def FoundReady (lines : List Entry) : Prop :=
  ∃ view moment, .rolling view moment ∈ lines ∧ ∀ listed ∈ view.pods, podReady listed = true

variable {lines : List Entry}

theorem FoundReady.mono {more : List Entry} (ready : FoundReady lines) (among : lines ⊆ more) :
    FoundReady more := by
  obtain ⟨view, moment, seen, ready⟩ := ready
  exact ⟨view, moment, among seen, ready⟩

/-- The watchdog is the stored one or armed for the deleted pod. -/
structure Armable (fetched : Option MasterAware) (before : List Entry) (w : World) : Prop where
  stored : w.cr.status.masterAware = fetched
  working : ∃ lines, w.journal = lines ++ before ∧
    (∀ line ∈ lines, line.kind = .rolled ∨ line.kind ∈ calmKinds) ∧
    (w.v.status.masterAware = fetched ∨ ∃ time pod timeout,
      w.v.status.masterAware = some (arm time pod timeout fetched) ∧
        (∀ name moment, .rolled name moment ∈ lines → name = pod) ∧ FoundReady lines)

section Body

variable {fetched : Option MasterAware} {before : List Entry} {w : World}

theorem Unarmed.armable (unarmed : Unarmed fetched before w) : Armable fetched before w := by
  obtain ⟨lines, journal, kinds⟩ := unarmed.lines
  exact ⟨unarmed.stored, lines, journal, fun line mem => .inr (kinds line mem),
    .inl unarmed.working⟩

theorem unarmed_tolerates :
    Tolerates calmParts calmKinds (Keeps (Unarmed fetched before)) := by
  intro w after frame unarmed
  obtain ⟨lines, journal, kinds⟩ := unarmed.lines
  obtain ⟨new, journal', kinds'⟩ := frame.journal
  have kept : Carried (fun cr => cr.status.masterAware) w after := frame.kept .watchdog (by decide)
  refine ⟨kept.1.trans unarmed.stored,
    (kept.of_same (unarmed.working.trans unarmed.stored.symm)).trans unarmed.working,
    new ++ lines, by simp [journal, journal'], fun line mem => ?_⟩
  exact (List.mem_append.mp mem).elim (kinds' line) (kinds line)

theorem armable_tolerates :
    Tolerates calmParts calmKinds (Keeps (Armable fetched before)) := by
  intro w after frame armable
  obtain ⟨lines, journal, kinds, working⟩ := armable.working
  obtain ⟨new, journal', kinds'⟩ := frame.journal
  have kept : Carried (fun cr => cr.status.masterAware) w after := frame.kept .watchdog (by decide)
  have stored := kept.1.trans armable.stored
  refine ⟨stored, new ++ lines, by simp [journal, journal'], fun line mem => ?_, ?_⟩
  · exact (List.mem_append.mp mem).elim (fun mem => .inr (kinds' line mem)) (kinds line)
  rcases kept.2 with same | fresh
  · refine working.imp same.trans fun ⟨time, pod, timeout, armed, rolled, ready⟩ =>
      ⟨time, pod, timeout, same.trans armed, fun name moment mem => ?_, ready.mono (by simp)⟩
    rcases List.mem_append.mp mem with mem | mem
    · exact absurd (kinds' _ mem) (by simp [Entry.kind, calmKinds])
    · exact rolled name moment mem
  · exact .inl (fresh.trans stored)

private theorem World.armFor_armable {name : String} (stored : w.cr.status.masterAware = fetched)
    (working : w.v.status.masterAware = fetched) (journal : w.journal = lines ++ before)
    (kinds : ∀ line ∈ lines, line.kind = .rolled ∨ line.kind ∈ calmKinds)
    (rolled : ∀ other moment, .rolled other moment ∈ lines → other = name)
    (ready : FoundReady lines) : Armable fetched before (w.armFor name) :=
  ⟨stored, lines, journal, kinds, .inr ⟨w.now, name, rolloutTimeout w.v.spec,
    by simp [World.armFor, working], rolled, ready⟩⟩

private theorem rollPod_armable {victim : Pod} {sts : StatefulSet} {reply : Reply}
    (unarmed : Unarmed fetched before w) (journal : w.journal = lines ++ before)
    (kinds : ∀ line ∈ lines, line.kind ∈ calmKinds) (ready : FoundReady lines) :
    (rollPod victim sts reply).wp (Armable fetched before) (fun _ => Armable fetched before) w := by
  have quiet : ∀ name moment, .rolled name moment ∉ lines := fun name moment mem =>
    absurd (kinds _ mem) (by simp [Entry.kind, calmKinds])
  have journal' : (w.deletePod victim.name).journal =
      (.rolled victim.name w.now :: lines) ++ before := by simp [World.deletePod, journal]
  have wider : ∀ line ∈ .rolled victim.name w.now :: lines,
      line.kind = .rolled ∨ line.kind ∈ calmKinds := by
    simpa [Entry.kind] using fun line mem => Or.inr (kinds line mem)
  refine rollPod_wp (fun _ => unarmed.armable) (fun _ _ =>
    ⟨unarmed.stored, _, journal', wider, .inl unarmed.working⟩) fun middle deleted => ?_
  have armed : Armable fetched before (middle.armFor victim.name) := by
    rcases deleted with ⟨rfl, -⟩ | ⟨rfl, -⟩
    · refine World.armFor_armable unarmed.stored unarmed.working journal' wider
        (fun other moment mem => ?_) (ready.mono (by simp))
      rcases List.mem_cons.mp mem with same | mem
      · exact (Entry.rolled.inj same).1
      · exact absurd mem (quiet other moment)
    · exact World.armFor_armable unarmed.stored unarmed.working journal
        (fun line mem => .inr (kinds line mem))
        (fun other moment mem => absurd mem (quiet other moment)) ready
  have noted : Armable fetched before ((middle.armFor victim.name).note
      (.event (.podRolledForConfig victim.name sts.updateRevision sts.currentRevision))) :=
    armable_tolerates _ _ (World.note_frame (by simp [Entry.kind, calmKinds]) _) armed
  exact ⟨armed, noted, noted⟩

private theorem reconcilePodRollout_armable (quorumOK : Bool) (pods : List Pod)
    (sts : Option StatefulSet) (input : PodRolloutInput) (unarmed : Unarmed fetched before w) :
    (reconcilePodRollout quorumOK pods sts input).wp (Armable fetched before)
      (fun _ => Armable fetched before) w := by
  unfold reconcilePodRollout
  simp only [wp_bind, wp_read, wp_ite, wp_pure]
  refine ⟨fun _ => unarmed.armable, fun _ => ?_⟩
  cases sts with
  | none => exact wp_pure.mpr unarmed.armable
  | some sts =>
      have quiet : ∀ line : Entry, line.kind ∈ calmKinds → ∀ w, Unarmed fetched before w →
          Unarmed fetched before (w.note line) :=
        fun line kind w => unarmed_tolerates _ _ (World.note_frame kind w)
      simp only [logHere, wp_bind, wp_write]
      obtain ⟨lines, journal, kinds⟩ := unarmed.lines
      let line : Entry := .rolling ⟨w.v.spec.mode, w.v.name, pods, sts, quorumOK⟩ w.now
      have viewed := quiet line (by simp [line, Entry.kind, calmKinds]) w unarmed
      have journal' : (w.note line).journal = (line :: lines) ++ before := by
        rw [World.note_journal, journal, List.cons_append]
      have kinds' : ∀ other ∈ line :: lines, other.kind ∈ calmKinds := by
        simpa [line, Entry.kind, calmKinds] using kinds
      refine ⟨viewed.armable, rollView_wp (fun _ => viewed.armable) (fun _ quorum => ?_)
        fun victim takes => rollPod_armable viewed journal' kinds' ⟨_, _, List.mem_cons_self,
          fun listed mem => (takes.exposed.settled listed mem).2.1⟩⟩
      have deferred := quiet (.event (.rolloutDeferred quorum)) (by simp [Entry.kind, calmKinds])
        _ viewed
      exact ⟨deferred.armable, deferred.armable⟩

/-- A pass holds the watchdog it fetched or arms it for the deleted pod. -/
theorem armable_rules (fetched : Option MasterAware) (before : List Entry) (input : PassInput) :
    BodyRules (Armable fetched before) (Unarmed fetched before) (Unarmed fetched before)
      (Armable fetched before) input where
  early_along _ := Unarmed.armable
  late_along _ := Unarmed.armable
  done_along _ := id
  forget w := armable_tolerates _ _ w.forget_frame.mono
  plain_along _ _ frame := armable_tolerates _ _ frame.mono
  plain_early _ _ frame := unarmed_tolerates _ _ frame.mono
  plain_late _ _ frame := unarmed_tolerates _ _ frame.mono
  consult_early _ _ := unarmed_tolerates.within (isFailoverInFlight_frame _ _)
  consult_late _ _ := unarmed_tolerates.within (isFailoverInFlight_frame _ _)
  consult_done _ _ := armable_tolerates.within (isFailoverInFlight_frame _ _)
  observe _ _ := unarmed_tolerates.within (observeRolloutState_within _ _ _)
  resize := unarmed_tolerates.within (reconcilePVCResize_within _)
  statefulSet _ := unarmed_tolerates.within (reconcileStatefulSet_within _ _)
  labels w start := by
    have keeps : Within (Keeps (Unarmed fetched before))
        (reconcileRoleLabels input.labels) :=
      unarmed_tolerates.within (reconcileRoleLabels_within _)
    exact wp_mono (keeps.wp start) (fun _ => Unarmed.armable) fun _ _ here =>
      ⟨here.armable, fun _ => here⟩
  rollout _ _ _ _ start := wp_mono (reconcilePodRollout_armable _ _ _ _ start) (fun _ => id)
    fun _ _ here => ⟨here, fun _ => here⟩
  dispatch state _ start _ := by
    have keeps : Within (Keeps (Armable fetched before))
        (runPrimaryRolloutDispatch state input.orchestration.dispatch) :=
      armable_tolerates.within (runPrimaryRolloutDispatch_within _ _)
    exact keeps.wp start

end Body

/-- The verdict of a pass on its working copy. -/
def World.verdict (paused : Bool) (w : World) : WatchdogResult :=
  if paused then {} else check w.now w.v.status.masterAware

private def World.evaluating (paused : Bool) (w : World) : World :=
  w.note (.evaluated paused w.v.status.masterAware w.cr.status.masterAware w.now)

private def World.reported (paused : Bool) (w : World) : World :=
  if (w.verdict paused).active ∧ (w.verdict paused).expired then
    (w.evaluating paused).note
      (.event (.rolloutStalled (w.verdict paused).podName (w.verdict paused).deadline))
  else w.evaluating paused

/-- The world once the status has been written. -/
def World.finished (paused : Bool) (reply : Reply) (w : World) : World :=
  if w.gone = false ∧ reply = .ok then
    (w.reported paused).patchStatus (statusAfter (w.verdict paused)) .nothing []
  else w.reported paused

variable {input : PassInput} {post : World → Prop}

section Finish

variable {paused : Bool} {reply : Reply} {w : World}

@[simp]
theorem World.reported_gone : (w.reported paused).gone = w.gone := by
  unfold World.reported
  split <;> rfl

variable {along : World → Prop}

private theorem evaluateRolloutWatchdog_wp {post : WatchdogResult → World → Prop}
    (logged : along (w.evaluating paused)) (told : along (w.reported paused))
    (done : post (w.verdict paused) (w.reported paused)) :
    (evaluateRolloutWatchdog paused).wp along post w := by
  unfold evaluateRolloutWatchdog
  simp only [logHere, recordEvent, log, wp_bind, wp_write, wp_ite, wp_pure,
    wp_read, World.note_now, World.note_v]
  refine ⟨logged, fun skip => ?_, fun live => ?_⟩
  · simpa [World.verdict, World.reported, World.evaluating, skip] using done
  · have verdict : w.verdict paused = check w.now w.v.status.masterAware := if_neg live
    simp only [World.reported, verdict] at told done
    refine ⟨fun expired => ?_, fun pending => ?_⟩
    · rw [if_pos expired] at told done
      exact ⟨told, done⟩
    · rw [if_neg pending] at done
      exact done

private theorem updateStatus_wp {post : Reply → World → Prop} {verdict : WatchdogResult}
    (skip : ¬(w.gone = false ∧ reply = .ok) → ∀ answer, post answer w)
    (patch : w.gone = false ∧ reply = .ok →
      let done := w.patchStatus (statusAfter verdict) .nothing []
      along done ∧ post .ok done) : (updateStatus verdict reply).wp along post w := by
  unfold updateStatus patchStatus
  simp only [wp_bind, wp_read, wp_ite, wp_pure, wp_write]
  refine ⟨fun gone => skip (by simp [gone]) _, fun there => ⟨fun ok => ?_, fun refused => ?_⟩⟩
  · exact patch ⟨by simpa using there, ok⟩
  · exact skip (fun both => refused both.2) _

/-- The status write passes through these worlds. -/
theorem finishPass_wp (drifted : along (w.drift input.beforeStatus))
    (logged : along ((w.drift input.beforeStatus).evaluating paused))
    (told : along ((w.drift input.beforeStatus).reported paused))
    (done : let final := (w.drift input.beforeStatus).finished paused input.statusReply
      along final ∧ post final) : (finishPass paused input).wp along (fun _ => post) w := by
  unfold finishPass meanwhile
  simp only [wp_bind, wp_write, wp_pure]
  refine ⟨drifted, evaluateRolloutWatchdog_wp logged told (updateStatus_wp ?_ ?_)⟩
  · intro refused _
    rw [World.reported_gone] at refused
    simpa [World.finished, refused] using done.2
  · intro accepted
    rw [World.reported_gone] at accepted
    simpa [World.finished, accepted] using done

private theorem World.finished_armedFor (there : w.gone = false) :
    armedFor (w.finished false .ok).cr.status.masterAware =
      if (check w.now w.v.status.masterAware).expired then none
      else armedFor w.cr.status.masterAware := by
  have copy : (w.reported false).v = w.v ∧ (w.reported false).cr = w.cr := by
    unfold World.reported
    split <;> exact ⟨rfl, rfl⟩
  have verdict : w.verdict false = check w.now w.v.status.masterAware := rfl
  simp only [World.finished, there, and_self, if_true, World.patchStatus, copy, verdict]
  split
  · exact armedFor_cleared ‹_›
  · rw [Status.patched_masterAware]
    simp [statusAfter, *]

private theorem World.finished_now : (w.finished paused reply).now = w.now := by
  unfold World.finished World.reported
  split <;> split <;> rfl

private theorem World.finished_told :
    (w.finished paused reply).journal = (w.reported paused).journal := by
  unfold World.finished
  split <;> rfl

private theorem World.finished_gone : (w.finished paused reply).gone = w.gone := by
  unfold World.finished
  split <;> exact World.reported_gone

private theorem World.finished_journal (paused : Bool) (reply : Reply) (w : World) :
    ∃ new, (w.finished paused reply).journal = new ++ w.journal ∧
      ∀ pod time, .rolled pod time ∉ new := by
  unfold World.finished World.reported
  split <;> split
  · exact ⟨[_, _], rfl, by simp⟩
  · exact ⟨[_], rfl, by simp⟩
  · exact ⟨[_, _], rfl, by simp⟩
  · exact ⟨[_], rfl, by simp⟩

end Finish

/-- The stored watchdog waits exactly when it did before and has not expired. -/
def KeepsArming (w : World) (lines : List Entry) (final : World) : Prop :=
  ∀ pod time, .rolled pod time ∈ lines → ∀ deadline,
    armedFor final.cr.status.masterAware = some (pod, deadline) ↔
      armedFor w.cr.status.masterAware = some (pod, deadline) ∧
        (check final.now w.cr.status.masterAware).expired = false

/-- What a pass from `w` ends with. -/
def PassKeepsArming (input : PassInput) (w final : World) : Prop :=
  ∃ lines, final.journal = lines ++ w.journal ∧
    ((∃ line ∈ lines, line.kind = .evaluated) → input.statusReply = .ok → final.gone = false →
      KeepsArming w lines final)

variable {w middle : World}

private theorem Armable.written {time : Nat}
    (stored : middle.cr.status.masterAware = w.cr.status.masterAware)
    (working : middle.v.status.masterAware = w.cr.status.masterAware ∨ ∃ moment name timeout,
      middle.v.status.masterAware = some (arm moment name timeout w.cr.status.masterAware) ∧
        (∀ other moment, .rolled other moment ∈ lines → other = name) ∧ FoundReady lines)
    (there : middle.gone = false) (rolled : .rolled pod time ∈ lines) (deadline : Nat) :
    armedFor (middle.finished false .ok).cr.status.masterAware = some (pod, deadline) ↔
      armedFor w.cr.status.masterAware = some (pod, deadline) ∧
        (check middle.now w.cr.status.masterAware).expired = false := by
  -- Arming a watchdog for the pod it waits for does nothing.
  have same : armedFor w.cr.status.masterAware = some (pod, deadline) →
      middle.v.status.masterAware = w.cr.status.masterAware := by
    intro armed
    rcases working with same | ⟨moment, name, timeout, fresh, only, -⟩
    · exact same
    · rw [fresh, ← only pod time rolled, arm_armed armed]
  rw [World.finished_armedFor there, stored]
  constructor
  · intro armed
    split at armed
    · simp at armed
    · rename_i pending
      rw [same armed] at pending
      exact ⟨armed, by simpa using pending⟩
  · rintro ⟨armed, pending⟩
    rw [same armed, if_neg (by simp [pending])]
    exact armed

private theorem Armable.finished {paused : Bool}
    (armable : Armable w.cr.status.masterAware w.journal middle)
    (skipped : paused = true → Unarmed w.cr.status.masterAware w.journal middle) :
    PassKeepsArming input w (middle.finished paused input.statusReply) := by
  obtain ⟨new, journal', calm⟩ := World.finished_journal paused input.statusReply middle
  cases paused with
  | true =>
      obtain ⟨lines, journal, kinds⟩ := (skipped rfl).lines
      refine ⟨new ++ lines, by rw [journal', journal, List.append_assoc],
        fun _ _ _ pod time rolled => ?_⟩
      rcases List.mem_append.mp rolled with mem | mem
      · exact absurd mem (calm pod time)
      · exact absurd (kinds _ mem) (by simp [Entry.kind, calmKinds])
  | false =>
      obtain ⟨lines, journal, kinds, working⟩ := armable.working
      refine ⟨new ++ lines, by rw [journal', journal, List.append_assoc],
        fun _ accepted there pod time rolled deadline => ?_⟩
      have mem := (List.mem_append.mp rolled).resolve_left (calm pod time)
      rw [World.finished_gone] at there
      rw [World.finished_now, accepted]
      exact Armable.written armable.stored working there mem deadline

/-- The watchdog is evaluated at or after the deadline. -/
def Entry.evaluatesFrom (deadline : Nat) : Entry → Bool
  | .evaluated paused _ _ time => !paused && decide (deadline ≤ time)
  | _ => false

/-- Where Phase 9 looks at the pods, this one is not ready. -/
def Entry.findsPending (pod : String) : Entry → Bool
  | .rolling view _ => view.pods.any fun listed => listed.name = pod && !podReady listed
  | _ => true

/-- A pass with these lines runs late, with the pod not ready. -/
def Overdue (pod : String) (deadline : Nat) (lines : List Entry) : Prop :=
  (∃ line ∈ lines, line.evaluatesFrom deadline = true) ∧
    ∀ line ∈ lines, line.findsPending pod = true

instance (pod : String) (deadline : Nat) (lines : List Entry) :
    Decidable (Overdue pod deadline lines) :=
  inferInstanceAs (Decidable (_ ∧ _))

private theorem FoundReady.not_pending (ready : FoundReady lines) :
    ¬∀ line ∈ lines, line.findsPending pod = true := by
  intro pending
  obtain ⟨view, moment, seen, ready⟩ := ready
  have found := pending _ seen
  simp only [Entry.findsPending, List.any_eq_true, Bool.and_eq_true] at found
  obtain ⟨listed, mem, -, unready⟩ := found
  simp [ready listed mem] at unready

section Reports

variable {pod : String} {deadline : Nat} {input : PassInput} {w middle : World}

/-- What an overdue pass from `w` ends with. -/
def PassReports (pod : String) (deadline : Nat) (w final : World) : Prop :=
  ∃ lines, final.journal = lines ++ w.journal ∧
    (Overdue pod deadline lines → .event (.rolloutStalled pod deadline) ∈ lines)

theorem Entry.not_evaluatesFrom {line : Entry}
    (kind : line.kind = .rolled ∨ line.kind ∈ calmKinds) : ¬line.evaluatesFrom deadline = true := by
  intro evaluates
  cases line <;> simp [Entry.evaluatesFrom, Entry.kind, calmKinds] at evaluates kind

private theorem Armable.reports (armable : Armable w.cr.status.masterAware w.journal middle)
    (armed : armedFor w.cr.status.masterAware = some (pod, deadline)) (named : pod ≠ "")
    (paused : Bool) (reply : Reply) :
    PassReports pod deadline w (middle.finished paused reply) := by
  obtain ⟨lines, journal, kinds, working⟩ := armable.working
  have verdict : (∀ line ∈ lines, line.findsPending pod = true) → paused = false →
      middle.verdict paused =
        { active := true, expired := deadline ≤ middle.now, podName := pod, deadline } := by
    rintro pending rfl
    have same : middle.v.status.masterAware = w.cr.status.masterAware :=
      working.resolve_right fun armed => by
        obtain ⟨-, -, -, -, -, ready⟩ := armed
        exact ready.not_pending pending
    rw [World.verdict, if_neg Bool.false_ne_true, same, check_armed middle.now armed named]
  let line : Entry :=
    .evaluated paused middle.v.status.masterAware middle.cr.status.masterAware middle.now
  have evaluated : (middle.evaluating paused).journal = line :: lines ++ w.journal := by
    rw [World.evaluating, World.note_journal, journal, List.cons_append]
  by_cases expired : (middle.verdict paused).active ∧ (middle.verdict paused).expired
  · refine ⟨.event (.rolloutStalled (middle.verdict paused).podName
      (middle.verdict paused).deadline) :: line :: lines, ?_, fun overdue => ?_⟩
    · rw [World.finished_told, World.reported, if_pos expired, World.note_journal, evaluated]
      rfl
    · have live : paused = false := by
        cases paused
        · rfl
        · simp [World.verdict] at expired
      rw [verdict (fun line mem => overdue.2 line (by simp [mem])) live]
      exact List.mem_cons_self
  · refine ⟨line :: lines, ?_, fun overdue => ?_⟩
    · rw [World.finished_told, World.reported, if_neg expired, evaluated]
    obtain ⟨⟨other, mem, evaluates⟩, pending⟩ := overdue
    rcases List.mem_cons.mp mem with rfl | mem
    · simp only [line, Entry.evaluatesFrom, Bool.and_eq_true, Bool.not_eq_true'] at evaluates
      rw [verdict (fun line mem => pending line (by simp [mem])) evaluates.1] at expired
      exact absurd ⟨rfl, evaluates.2⟩ expired
    · exact absurd evaluates (Entry.not_evaluatesFrom (kinds other mem))

end Reports

/-- A replica behind the new revision, with this stored watchdog. -/
def rollingWorld (watchdog : Option MasterAware) : World :=
  let ready : List PodCondition := [{ type := .ready, status := .true }]
  let cr : CR := { name := "vk", finalizer := true, spec := { mode := .replication, replicas := 2 }
                   status := { masterAware := watchdog } }
  let sts : StatefulSet := { replicas := some 2, updateRevision := "b", currentRevision := "a"
                             containers := [⟨"valkey", "valkey/valkey:8.1.6-alpine"⟩] }
  let primary : Pod := { name := "vk-0", podIP := "10.0.0.1", role := .primary, revision := "b",
                         conditions := ready }
  let replica : Pod := { name := "vk-1", podIP := "10.0.0.2", role := .replica, revision := "a",
                         conditions := ready }
  { now := 100, cr, v := cr, sts := some sts, pods := ⟨[primary, replica], by decide, by decide⟩ }

/-- A stall follows an evaluation that found the watchdog expired. -/
def StallsExpired (line : Entry) (before : List Entry) : Prop :=
  ∀ pod deadline, line = .event (.rolloutStalled pod deadline) →
    ∃ working stored time earlier, before = .evaluated false working stored time :: earlier ∧
      armedFor working = some (pod, deadline) ∧ deadline ≤ time ∧
      ∀ held, armedFor stored = some (pod, held) → working = stored

theorem stallsExpired_of_kind {line : Entry} (kind : line.kind ≠ .stalled) (before : List Entry) :
    StallsExpired line before := by
  rintro pod deadline rfl
  exact absurd rfl kind

variable {fetched : Option MasterAware} {before : List Entry}

theorem Armable.stallsExpired (right : Always StallsExpired before)
    (armable : Armable fetched before w) : Always StallsExpired w.journal := by
  obtain ⟨lines, journal, kinds, -⟩ := armable.working
  rw [journal]
  refine right.append fun line mem earlier => stallsExpired_of_kind (fun stalled => ?_) earlier
  rcases kinds line mem with rolled | calm
  · simp [stalled] at rolled
  · simp [stalled, calmKinds] at calm

/-- Armed for the same pod, the working watchdog is the stored one. -/
theorem Armable.working_eq (armable : Armable fetched before w) {held : Nat}
    (working : armedFor w.v.status.masterAware = some (pod, deadline))
    (stored : armedFor w.cr.status.masterAware = some (pod, held)) :
    w.v.status.masterAware = w.cr.status.masterAware := by
  rw [armable.stored] at stored ⊢
  obtain ⟨-, -, -, same | ⟨time, name, timeout, fresh, -⟩⟩ := armable.working
  · exact same
  · obtain ⟨limit, armed⟩ := armedFor_arm fetched name time timeout
    rw [fresh, armed] at working
    obtain ⟨rfl, rfl⟩ := Prod.mk.inj (Option.some.inj working)
    rw [fresh, arm_armed stored]

private theorem Armable.reported_stallsExpired (paused : Bool) (right : Always StallsExpired before)
    (armable : Armable fetched before w) :
    Always StallsExpired (w.evaluating paused).journal ∧
      Always StallsExpired (w.reported paused).journal := by
  have evaluating : Always StallsExpired (w.evaluating paused).journal :=
    .cons (stallsExpired_of_kind (by simp [Entry.kind]) _) (armable.stallsExpired right)
  refine ⟨evaluating, ?_⟩
  unfold World.reported
  split
  · rename_i expired
    refine .cons (fun pod deadline reported => ?_) evaluating
    cases paused with
    | true => simp [World.verdict] at expired
    | false =>
        obtain ⟨name, limit, armed, named, past⟩ := check_expired_iff.mp expired
        have verdict := check_armed w.now armed named
        simp only [World.verdict, Bool.false_eq_true, if_false, verdict, Entry.event.injEq,
          Event.rolloutStalled.injEq] at reported
        obtain ⟨rfl, rfl⟩ := reported
        exact ⟨_, _, _, _, rfl, armed, past, fun held stored => armable.working_eq armed stored⟩
  · exact evaluating

private theorem reconcile_stallsExpired (right : Always StallsExpired w.journal) :
    (reconcile input).wp (fun w => Always StallsExpired w.journal)
      (fun _ w => Always StallsExpired w.journal) w := by
  have fetched : Unarmed w.cr.status.masterAware w.journal w.fetch :=
    ⟨rfl, rfl, [], rfl, by simp⟩
  have forget : Always StallsExpired w.forget.journal :=
    .cons (stallsExpired_of_kind (by simp [Entry.kind]) _) right
  refine (armable_rules w.cr.status.masterAware w.journal input).reconcile_wp
    (fun _ => Armable.stallsExpired right) right ⟨forget, forget⟩ fetched
    (unarmed_tolerates.within (detectPVCLossAndGate_within _ _))
    (fun _ => Armable.stallsExpired right) fun paused middle armable _ => ?_
  have drifted := armable_tolerates _ _ (middle.drift_frame input.beforeStatus).mono armable
  obtain ⟨evaluating, reported⟩ := drifted.reported_stallsExpired paused right
  have finished : Always StallsExpired
      ((middle.drift input.beforeStatus).finished paused input.statusReply).journal := by
    rw [World.finished_told]
    exact reported
  exact finishPass_wp (drifted.stallsExpired right) evaluating reported ⟨finished, finished⟩

/-- Every reported stall comes from an evaluation after the deadline. -/
theorem operator_stallsExpired (acts : List (Act PassInput Drift)) (start : w.journal = []) :
    Always StallsExpired (operator.run acts w).journal := by
  let inv (w : World) : Prop := Always StallsExpired w.journal
  have begins : inv w := by
    simp only [inv, start]
    exact .nil
  have call : ∀ input w, inv w → (operator.call input).wp inv (fun _ => inv) w :=
    fun _ _ => reconcile_stallsExpired
  have restart : ∀ w, inv w → inv (operator.restart w) := fun _ =>
    .cons (stallsExpired_of_kind (by simp [Entry.kind]) _)
  exact System.run_invariant call restart (fun _ _ => id) acts begins

/-- The evaluation does not find the given stored watchdog expired. -/
def ExpiryWithheld (pod : String) (deadline : Nat) : Entry → Prop
  | .evaluated paused working stored time =>
      armedFor stored = some (pod, deadline) →
        paused = true ∨ time < deadline ∨ working ≠ stored
  | _ => True

instance (pod : String) (deadline : Nat) : DecidablePred (ExpiryWithheld pod deadline)
  | .evaluated .. => inferInstanceAs (Decidable (_ → _))
  | .memoryLost | .observed .. | .consulted .. | .maintained | .persisted | .stripped ..
  | .failoverIssued .. | .rolledBack | .relabelling .. | .stamped .. | .rolling .. | .rolled ..
  | .culled .. | .orphaned .. | .grown .. | .sizing .. | .patched .. | .driving .. | .resized ..
  | .applying .. | .created .. | .finalized | .refused | .rotating .. | .event _ => isTrue trivial

/-- A stall is reported for this arming while it is the stored one. -/
def ReportsArming (pod : String) (deadline : Nat) (line : Entry) (before : List Entry) : Prop :=
  line = .event (.rolloutStalled pod deadline) ∧
    ∃ paused working stored time earlier,
      before = .evaluated paused working stored time :: earlier ∧
      armedFor stored = some (pod, deadline)

/-- If stored watchdogs are evaluated only in time, paused or rearmed, no stall is reported. -/
theorem operator_reportsExpired (acts : List (Act PassInput Drift)) {w : World}
    (start : w.journal = []) {pod : String} {deadline : Nat}
    (withheld : ∀ line ∈ (operator.run acts w).journal, ExpiryWithheld pod deadline line) :
    Always (fun line before => ¬ReportsArming pod deadline line before)
      (operator.run acts w).journal := by
  refine always_iff.mpr fun later line before split => ?_
  rintro ⟨reported, paused, working, stored, time, earlier, evaluated, armed⟩
  obtain ⟨working', stored', time', earlier', evaluated', -, past, same⟩ :=
    always_iff.mp (operator_stallsExpired acts start) later line before split pod deadline reported
  rw [evaluated] at evaluated'
  obtain ⟨evaluation, rfl⟩ := List.cons.inj evaluated'
  obtain ⟨rfl, rfl, rfl, rfl⟩ := Entry.evaluated.inj evaluation
  have mem : .evaluated false working stored time ∈ (operator.run acts w).journal := by
    simp [split, evaluated]
  rcases withheld _ mem armed with rest | early | other
  · simp at rest
  · omega
  · exact other (same deadline armed)

/-- Both pods are ready and new; the stored watchdog waits for one. -/
def recoveredWorld : World :=
  let pod (ordinal : Nat) (role : Role) : Pod :=
    { name := s!"vk-{ordinal}", podIP := s!"10.0.0.{ordinal + 1}", role, revision := "b"
      conditions := [{ type := .ready, status := .true }] }
  let w := rollingWorld (some { waitingForPod := "vk-1", deadline := some (60 * second) })
  { w with pods := ⟨[pod 0 .primary, pod 1 .replica], by decide, by decide⟩ }

/-- A pass before the deadline, and one after it. -/
def recoveredActs : List (Act PassInput Drift) :=
  [.call {}, .drift { elapsed := 120 * second }, .call {}]

/-- The first pass withholds its report, the second makes it. -/
theorem recoveredActs_run :
    let first := operator.run (recoveredActs.take 1) recoveredWorld
    let stalled := (operator.run recoveredActs recoveredWorld).journal.dropWhile (·.kind ≠ .stalled)
    let armed : Option MasterAware :=
      some { waitingForPod := "vk-1", deadline := some (60 * second) }
    (∀ passes ≤ 3, ∃ pod ∈ (operator.run (recoveredActs.take passes) recoveredWorld).pods.items,
        pod.name = "vk-1" ∧ pod.settled = true ∧ pod.revision = "b") ∧
      first.now < 60 * second ∧
      (∀ line ∈ first.journal, ExpiryWithheld "vk-1" (60 * second) line) ∧
      stalled.head? = some (.event (.rolloutStalled "vk-1" (60 * second))) ∧
      stalled.tail = .evaluated false armed armed (100 + 120 * second) :: stalled.tail.tail := by
  decide

/-- A pod that is healthy throughout is reported as stalled. -/
theorem operator_stalls_recovered :
    (∀ passes ≤ 3, ∃ pod ∈ (operator.run (recoveredActs.take passes) recoveredWorld).pods.items,
      pod.name = "vk-1" ∧ pod.settled = true ∧ pod.revision = "b") ∧
    (operator.run (recoveredActs.take 1) recoveredWorld).now < 60 * second ∧
    ∃ later before, (operator.run recoveredActs recoveredWorld).journal =
        later ++ .event (.rolloutStalled "vk-1" (60 * second)) :: before ∧
      ReportsArming "vk-1" (60 * second)
        (.event (.rolloutStalled "vk-1" (60 * second))) before := by
  obtain ⟨settled, early, -, front, evaluated⟩ := recoveredActs_run
  exact ⟨settled, early, _, _, split_dropWhile front, rfl, false, _, _, _, _, evaluated, rfl⟩

/-- Nothing is reported by a pass before the deadline. -/
theorem operator_stalls_none_early :
    armedFor recoveredWorld.cr.status.masterAware = some ("vk-1", 60 * second) ∧
      Always (fun line before => ¬ReportsArming "vk-1" (60 * second) line before)
        (operator.run (recoveredActs.take 1) recoveredWorld).journal := by
  obtain ⟨-, -, withheld, -⟩ := recoveredActs_run
  have start : recoveredWorld.journal = [] := rfl
  exact ⟨rfl, operator_reportsExpired _ start withheld⟩

end Velkir
