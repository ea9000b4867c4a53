import Velkir.RotationOutcome

/-!
# Rotating again after a failure

A failed rotation keeps the hash last acted on, so the next pass rotates again unless something
holds it back.
-/

namespace Velkir

open Crash Proc MergePatch

/-- One pass: the hash of the Secret it reads, and its other inputs. -/
structure AuthPass where
  hash : String
  input : AuthInput := {}

/-- Fetch the resource and let the driver act on the Secret. -/
def rotatePass (pass : AuthPass) : Proc World Unit := do
  if ← .read World.gone then return
  .write World.fetch
  maybeRotateAuth pass.input pass.hash

/-- The driver, its deaths and its surroundings. -/
def rotationDriver : System World AuthPass Drift Unit where
  call := rotatePass
  restart := World.forget
  drift := World.drift

/-- An act of a living process, with the Secret's hash as given. -/
def Act.repeats (hash : String) : Act AuthPass Drift → Prop
  | .call pass => pass.hash = hash
  | .crash .. => False
  | .drift _ => True

/-- The answer `isFailoverInFlight` gives. -/
def World.failoverInFlight (obs : Obs) (w : World) : Bool :=
  (w.observe obs).latchActive obs.snap.addr obs.snap.epoch ||
    w.mem.lastState == some .failoverInFlight

/-- The driver cannot start a rotation now. -/
def Act.deferred : Act AuthPass Drift → World → Prop
  | .call pass, w => w.gone = true ∨ w.failoverInFlight pass.input.obs = true ∨
      pass.input.listFails = true ∨ splitDataPlaneEndpoints w.pods.items = none
  | _, _ => True

/-- The number of rotations so far. -/
def rotations (journal : List Entry) : Nat :=
  journal.countP fun line => line.kind = .rotating

theorem rotations_cons {line : Entry} {journal : List Entry} (other : line.kind ≠ .rotating) :
    rotations (line :: journal) = rotations journal := by
  simp only [rotations, List.countP_cons, other, decide_false, Bool.false_eq_true, if_false,
    Nat.add_zero]

/-- A rotation to this hash failed; the cache is of the recorded one. -/
structure Poisoned (hash : String) (w : World) : Prop where
  present : hash ≠ ""
  record : ∃ rotation, w.cr.status.authRotation = some rotation ∧ rotation.phase = .failed ∧
    rotation.observedSecretHash ≠ "" ∧ rotation.observedSecretHash ≠ hash ∧
    w.mem.authPasswordHash = some rotation.observedSecretHash

/-- A patch on a status that is up to date stores what it asks for. -/
theorem Status.patched_authRotation {status target : Status} {rotation : AuthRotation}
    (asked : target.authRotation = some rotation) :
    ∃ stored, (status.patched target status).authRotation = some stored ∧
      stored.phase = rotation.phase ∧ stored.observedSecretHash = rotation.observedSecretHash := by
  simp only [Status.patched, Status.wire, asked, Option.map_some]
  cases held : status.authRotation with
  | none => exact ⟨_, rfl, replace_base _ _, replace_base _ _⟩
  | some stored =>
      simp only [Option.map_some, merge, mergeOption]
      split
      · rename_i same
        obtain ⟨phase, hash, -⟩ := AuthRotation.mk.inj same
        exact ⟨stored, rfl, phase, hash⟩
      · exact ⟨_, rfl, replace_base _ _, replace_base _ _⟩

/-- The working copy has the stored status. -/
def World.Synced (w : World) : Prop :=
  w.v.status = w.cr.status

/-- What a write of the rotation record does, and whether it is stored. -/
structure RecordWritten (phase : AuthRotationPhase) (hash : String) (before : World) (stored : Bool)
    (after : World) : Prop where
  synced : after.Synced
  mem : after.mem = before.mem
  journal : after.journal = before.journal
  record : stored = true → ∃ rotation, after.cr.status.authRotation = some rotation ∧
    rotation.phase = phase ∧ rotation.observedSecretHash = hash

variable {w : World} {hash message : String} {reply : Reply}

theorem writeAuthRotationStatus_written {phase : AuthRotationPhase} (synced : w.Synced) :
    (writeAuthRotationStatus phase hash message reply).wp (fun _ => True)
      (fun stored final => RecordWritten phase hash w stored final) w := by
  have refused : ∀ reply : Reply, reply ≠ .ok →
      RecordWritten phase hash w (decide (reply = .ok)) w := fun reply refused =>
    ⟨synced, rfl, rfl, fun stored => absurd (of_decide_eq_true stored) refused⟩
  unfold writeAuthRotationStatus patchStatus
  simp only [wp_bind, wp_read, wp_ite, wp_pure, wp_write]
  refine ⟨fun matching => ⟨synced, rfl, rfl, fun _ => ?_⟩, fun _ => ⟨fun _ => refused _ (by decide),
    fun _ => ⟨fun _ => ⟨trivial, rfl, rfl, rfl, fun _ => ?_⟩, refused _⟩⟩⟩
  · rw [show w.v.status = w.cr.status from synced] at matching
    cases held : w.cr.status.authRotation with
    | none => simp [held] at matching
    | some rotation =>
        rw [held, Option.any_some] at matching
        obtain ⟨phase, hash, -⟩ := of_decide_eq_true matching
        exact ⟨rotation, rfl, phase, hash⟩
  · simp only [World.patchStatus, show w.v.status = w.cr.status from synced]
    exact @Status.patched_authRotation w.cr.status _
      (nextRotation w.now phase hash message w.cr.status.authRotation) rfl

/-- The pass ends by recording that its rotation failed. -/
def RecordsFailed (before after : List Entry) : Prop :=
  ∃ message added, after = .event (.secretRotationFailed message) :: added ++ before

private theorem not_recordsFailed_self (journal : List Entry) : ¬RecordsFailed journal journal := by
  rintro ⟨message, added, eq⟩
  have lengths := congrArg List.length eq
  rw [List.cons_append, List.length_cons, List.length_append] at lengths
  omega

theorem not_recordsFailed_cons {line : Entry} {before rest : List Entry}
    (other : ∀ message, line ≠ .event (.secretRotationFailed message)) :
    ¬RecordsFailed before (line :: rest) := by
  rintro ⟨message, added, eq⟩
  exact other message (List.cons.inj eq).1

section Quiet

variable {lines : List Entry}

theorem cacheAuthPassword_quiet {hash : Option String} :
    Within (Keeps fun w => w.journal = lines) (cacheAuthPassword hash) :=
  .write fun _ kept => kept

private theorem adoptAuthSecret_quiet :
    Within (Keeps fun w => w.journal = lines) (adoptAuthSecret hash message reply) :=
  .bind writeAuthRotationStatus_quiet fun _ => .ite cacheAuthPassword_quiet (.pure _)

private theorem clearAuthRotationStatus_quiet :
    Within (Keeps fun w => w.journal = lines) (clearAuthRotationStatus reply) := by
  refine .bind (.read _) fun _ => .ite (.pure _) (.bind ?_ fun _ => .pure _)
  exact .bind (.read _) fun _ => .ite (.pure _) (.ite (.bind (.write fun _ kept => kept) fun _ =>
    .pure _) (.pure _))

end Quiet

section Poisons

variable {input : AuthInput} {currentHash observedHash : String} {w : World} {before : List Entry}
  (present : currentHash ≠ "") (observed : observedHash ≠ "")
  (changed : observedHash ≠ currentHash) (cached : w.mem.authPasswordHash = some observedHash)
  (synced : w.Synced) (unrecorded : ¬RecordsFailed before w.journal)

include present observed changed cached synced unrecorded

private theorem finishAuthRotation_poisons {replicas : Nat} {endpoints : List String} :
    (finishAuthRotation input replicas endpoints currentHash observedHash).wp (fun _ => True)
      (fun _ final => RecordsFailed before final.journal → Poisoned currentHash final) w := by
  unfold finishAuthRotation
  simp only [wp_ite, wp_bind, wp_pure, recordEvent, log, cacheAuthPassword,
    wp_write, true_and]
  -- Without a stored record the journal is the one before.
  have unstored : ∀ {phase hash stored middle}, RecordWritten phase hash w stored middle →
      RecordsFailed before middle.journal → Poisoned currentHash middle :=
    fun written recorded => absurd (written.journal ▸ recorded) unrecorded
  refine ⟨fun _ => ?_, fun _ => ⟨fun _ => ?_, fun _ => ?_⟩⟩ <;>
    refine wp_mono (writeAuthRotationStatus_written synced) (fun _ => id)
      fun _ middle written => ⟨fun stored recorded => ?_, fun _ => unstored written⟩
  · exact absurd recorded (not_recordsFailed_cons (by simp))
  · obtain ⟨rotation, held, phase, rfl⟩ := written.record stored
    refine ⟨present, rotation, held, phase, observed, changed, ?_⟩
    rw [World.note_mem, written.mem, cached]
  · exact absurd recorded (not_recordsFailed_cons (by simp))

private theorem driveAuthRotation_poisons :
    (driveAuthRotation input currentHash observedHash).wp (fun _ => True)
      (fun _ final => RecordsFailed before final.journal → Poisoned currentHash final) w := by
  unfold driveAuthRotation
  simp only [wp_ite, wp_bind, wp_read]
  refine ⟨fun _ => wp_pure.mpr fun recorded => absurd recorded unrecorded, fun _ => ?_⟩
  cases splitDataPlaneEndpoints w.pods.items with
  | none => exact wp_pure.mpr fun recorded => absurd recorded unrecorded
  | some endpoints =>
      simp only [wp_bind]
      refine wp_mono (writeAuthRotationStatus_written synced) (fun _ => id)
        fun _ middle started => ?_
      simp only [log, wp_write, true_and]
      have unfinished : ¬RecordsFailed before
          (.rotating observedHash currentHash :: middle.journal) :=
        not_recordsFailed_cons (by simp)
      refine finishAuthRotation_poisons (w := middle.note (.rotating observedHash currentHash))
        present observed changed ?_ started.synced unfinished
      rw [World.note_mem, started.mem, cached]

end Poisons

theorem isFailoverInFlight_wp {site : Site} {obs : Obs} {post : Bool → World → Prop}
    (holds : ∀ middle, middle.cr = w.cr → middle.v = w.v → middle.mem = w.mem →
      middle.pods = w.pods → (∃ line, middle.journal =
        line :: .observed obs.snap.addr obs.snap.epoch :: w.journal ∧ line.kind = .consulted) →
      post (w.failoverInFlight obs) middle) :
    (isFailoverInFlight site obs).wp (fun _ => True) post w := by
  simp only [isFailoverInFlight, readSnapshot, logHere, wp_bind, wp_read, wp_write,
    wp_pure, true_and]
  exact holds _ rfl rfl rfl rfl ⟨_, rfl, rfl⟩

private theorem rotatePass_poisons (pass : AuthPass) :
    (rotatePass pass).wp (fun _ => True)
      (fun _ final => RecordsFailed w.journal final.journal → Poisoned pass.hash final) w := by
  have quiet : ∀ {lines : List Entry} {proc : Proc World Unit} {middle : World},
      Within (Keeps fun w => w.journal = lines) proc → middle.journal = lines →
      ¬RecordsFailed w.journal lines → proc.wp (fun _ => True)
        (fun _ final => RecordsFailed w.journal final.journal → Poisoned pass.hash final)
        middle := fun within start unrecorded =>
    wp_mono (within.wp start) (fun _ _ => trivial) fun _ _ kept recorded =>
      absurd (kept ▸ recorded) unrecorded
  have same := not_recordsFailed_self w.journal
  unfold rotatePass maybeRotateAuth
  simp only [wp_bind, wp_read, wp_ite, wp_pure, wp_write, true_and]
  refine ⟨fun _ recorded => absurd recorded same, fun _ => ⟨fun _ => ?_, fun present =>
    ⟨fun _ recorded => absurd recorded same, fun _ => ⟨fun _ => ?_, fun observed =>
      ⟨fun _ => ?_, fun _ => ⟨fun _ => ?_, fun changed => ?_⟩⟩⟩⟩⟩⟩
  · refine wp_mono (cacheAuthPassword_quiet.wp rfl) (fun _ _ => trivial)
      fun _ middle kept => ?_
    exact quiet clearAuthRotationStatus_quiet kept same
  · exact quiet adoptAuthSecret_quiet rfl same
  · exact wp_mono (writeAuthRotationStatus_quiet.wp rfl) (fun _ _ => trivial)
      fun _ _ kept recorded => absurd (kept ▸ recorded) same
  · exact quiet cacheAuthPassword_quiet rfl same
  · refine isFailoverInFlight_wp fun middle cr v mem _ consults => ?_
    obtain ⟨line, journal, kind⟩ := consults
    have consulted : ¬RecordsFailed w.journal middle.journal := by
      rw [journal]
      refine not_recordsFailed_cons fun message eq => ?_
      rw [eq] at kind
      cases kind
    refine ⟨fun _ recorded => absurd recorded consulted, fun _ => ⟨fun _ => ?_, fun cached => ?_⟩⟩
    · exact quiet adoptAuthSecret_quiet rfl consulted
    · have synced : middle.Synced := by
        rw [World.Synced, v, cr]
        rfl
      exact driveAuthRotation_poisons present observed (Ne.symm changed) (not_not.mp cached) synced
        consulted

private theorem Poisoned.drift (poisoned : Poisoned hash w) (change : Drift) :
    Poisoned hash (w.drift change) :=
  ⟨poisoned.present, poisoned.record⟩

variable {pass : AuthPass}

/-- A pass over poisoned content only asks and lists. -/
theorem rotatePass_poisoned {post : World → Prop} (poisoned : Poisoned pass.hash w)
    (gone : w.gone = true → post w)
    (consulted : w.gone ≠ true → ∀ middle, Poisoned pass.hash middle → middle.pods = w.pods →
      rotations middle.journal = rotations w.journal →
      (w.failoverInFlight pass.input.obs = true → post middle) ∧
      (w.failoverInFlight pass.input.obs = false → ∀ observed,
        (driveAuthRotation pass.input pass.hash observed).wp (fun _ => True) (fun _ => post)
          middle)) : (rotatePass pass).wp (fun _ => True) (fun _ => post) w := by
  obtain ⟨present, rotation, held, phase, observed, changed, cached⟩ := poisoned
  have known : observedAuthSecretHash w.fetch.v = rotation.observedSecretHash := by
    simp [observedAuthSecretHash, World.fetch, CR.normalized, held]
  have failed : currentAuthRotationPhase w.fetch.v = .failed := by
    simp [currentAuthRotationPhase, World.fetch, CR.normalized, held, phase]
  unfold rotatePass maybeRotateAuth
  simp only [wp_bind, wp_read, wp_ite, wp_pure, wp_write, true_and, known,
    failed, present, observed, Ne.symm changed, false_implies, not_false_eq_true, true_implies,
    reduceCtorEq]
  refine ⟨gone, fun found => isFailoverInFlight_wp fun middle cr v mem pods consults => ?_⟩
  obtain ⟨line, journal, kind⟩ := consults
  have quiet : rotations middle.journal = rotations w.journal := by
    rw [journal, rotations_cons (by simp [kind]), rotations_cons (by simp [Entry.kind])]
    rfl
  have kept : Poisoned pass.hash middle :=
    ⟨present, rotation, cr ▸ held, phase, observed, changed, mem ▸ cached⟩
  obtain ⟨deferred, drives⟩ := consulted found middle kept pods quiet
  refine ⟨deferred, fun settled => ⟨fun uncached => ?_, fun _ => ?_⟩⟩
  · exact absurd (mem ▸ cached) uncached
  · exact drives ((Bool.not_eq_true _).mp settled) _

private theorem rotatePass_deferred (poisoned : Poisoned pass.hash w)
    (deferred : Act.deferred (.call pass) w) :
    (rotatePass pass).wp (fun _ => True) (fun _ final =>
      Poisoned pass.hash final ∧ rotations final.journal = rotations w.journal) w := by
  refine rotatePass_poisoned poisoned (fun _ => ⟨poisoned, rfl⟩) fun found middle kept pods quiet =>
    ⟨fun _ => ⟨kept, quiet⟩, fun settled observed => ?_⟩
  unfold driveAuthRotation
  simp only [wp_ite, wp_bind, wp_read]
  refine ⟨fun _ => wp_pure.mpr ⟨kept, quiet⟩, fun listed => ?_⟩
  have unsplit : splitDataPlaneEndpoints middle.pods.items = none := by
    rcases deferred with gone | inFlight | fails | unsplit
    · exact absurd gone found
    · rw [settled] at inFlight
      cases inFlight
    · exact absurd fails listed
    · rwa [pods]
  simp only [unsplit, wp_pure]
  exact ⟨kept, quiet⟩

private theorem rotatePass_rotates (poisoned : Poisoned pass.hash w)
    (free : ¬Act.deferred (.call pass) w) : (rotatePass pass).wp (fun _ => True) (fun _ final =>
      rotations w.journal < rotations final.journal) w := by
  simp only [Act.deferred, not_or] at free
  obtain ⟨found, settled, listed, split⟩ := free
  refine rotatePass_poisoned poisoned (fun gone => absurd gone found) fun _ middle _ pods quiet =>
    ⟨fun inFlight => absurd inFlight settled, fun _ observed => ?_⟩
  obtain ⟨endpoints, split⟩ := Option.ne_none_iff_exists'.mp split
  unfold driveAuthRotation
  simp only [wp_ite, wp_bind, wp_read, pods, split]
  refine ⟨fun fails => absurd fails listed, fun _ => ?_⟩
  refine wp_mono (writeAuthRotationStatus_quiet.wp rfl) (fun _ _ => trivial)
    fun _ started kept => ?_
  simp only [log, wp_write, true_and]
  refine wp_mono finishAuthRotation_ended (fun _ => id) fun _ final ended => ?_
  obtain ⟨phase, ended⟩ := ended
  have counted : rotations (started.note (.rotating observed pass.hash)).journal =
      rotations w.journal + 1 := by
    rw [← quiet, ← kept]
    simp [rotations, Entry.kind]
  have after : rotations final.journal = rotations w.journal + 1 := by
    rcases ended.journal with same | ⟨event, -, reported⟩
    · rw [same, counted]
    · rw [reported, rotations_cons (by cases event <;> simp [Entry.kind]), counted]
  omega

/-- The second world has seen at least as many rotations. -/
def RotatesOn (before after : World) : Prop :=
  rotations before.journal ≤ rotations after.journal

instance : Std.Refl RotatesOn where
  refl _ := Nat.le_refl _

instance : IsTrans World RotatesOn where
  trans _ _ _ := Nat.le_trans

private theorem rotatesOn_tolerates {touched : List Part} {kinds : List Kind} :
    Tolerates touched kinds RotatesOn := by
  intro before after frame
  obtain ⟨added, eq, -⟩ := frame.journal
  rw [RotatesOn, eq, rotations, rotations, List.countP_append]
  omega

private theorem rotatePass_within (pass : AuthPass) : Within RotatesOn (rotatePass pass) :=
  .bind (.read _) fun _ => .ite (.pure _) (.bind
    (.write fun _ => rotatesOn_tolerates _ _ (World.fetch_frame _)) fun _ =>
      maybeRotateAuth_within rotatesOn_tolerates fun site obs =>
        (isFailoverInFlight_frame site obs).mono fun _ _ frame => rotatesOn_tolerates _ _ frame)

private theorem rotationDriver_rotatesOn {acts : List (Act AuthPass Drift)}
    (repeats : ∀ act ∈ acts, Act.repeats hash act) : RotatesOn w (rotationDriver.run acts w) := by
  induction acts generalizing w with
  | nil => exact Nat.le_refl _
  | cons act acts ih =>
      have later := ih (w := rotationDriver.exec act w) fun act mem =>
        repeats act (List.mem_cons_of_mem _ mem)
      cases act with
      | call pass => exact Nat.le_trans (rotatePass_within pass w).2 later
      | crash pass writes => exact absurd (repeats _ (List.mem_cons_self ..)) id
      | drift change => exact later

/-- While the Secret keeps its content, no pass rotates exactly as long as each is held back. -/
theorem rotationDriver_rests_iff (first : AuthPass) (acts : List (Act AuthPass Drift)) (w : World)
    (recorded : RecordsFailed w.journal (rotationDriver.exec (.call first) w).journal)
    (repeats : ∀ act ∈ acts, Act.repeats first.hash act) :
    rotations (rotationDriver.run (.call first :: acts) w).journal =
        rotations (rotationDriver.exec (.call first) w).journal ↔
      rotationDriver.Meets Act.deferred acts (rotationDriver.exec (.call first) w) := by
  have poisoned : Poisoned first.hash (rotationDriver.exec (.call first) w) :=
    (rotatePass_poisons first).2 recorded
  rw [System.run]
  generalize rotationDriver.exec (.call first) w = start at poisoned
  clear recorded
  induction acts generalizing start with
  | nil => exact iff_of_true rfl trivial
  | cons act acts ih =>
      have rest : ∀ act ∈ acts, Act.repeats first.hash act := fun act mem =>
        repeats act (List.mem_cons_of_mem _ mem)
      rw [System.run, System.Meets]
      cases act with
      | call pass =>
          have same : pass.hash = first.hash := repeats _ (List.mem_cons_self ..)
          rw [← same] at poisoned
          by_cases deferred : Act.deferred (.call pass) start
          · obtain ⟨-, kept, quiet⟩ := rotatePass_deferred poisoned deferred
            rw [same] at kept
            rw [← show rotations (rotationDriver.exec (.call pass) start).journal =
              rotations start.journal from quiet]
            exact (ih rest _ kept).trans ⟨fun meets => ⟨deferred, meets⟩, And.right⟩
          · have rotated : rotations start.journal <
                rotations (rotationDriver.exec (.call pass) start).journal :=
              (rotatePass_rotates poisoned deferred).2
            have later : rotations (rotationDriver.exec (.call pass) start).journal ≤ _ :=
              rotationDriver_rotatesOn rest
            refine iff_of_false (fun rests => ?_) fun meets => deferred meets.1
            omega
      | crash pass writes => exact absurd (repeats _ (List.mem_cons_self ..)) id
      | drift change =>
          exact (ih rest _ (poisoned.drift change)).trans (iff_of_eq (true_and _).symm)

/-- The replica cannot be reached. -/
def unreachableInput : AuthInput :=
  AuthInput.under {} (rotationWorld.rotation "old" "new" unreachable oldPlane)

/-- The old password is recorded and cached. -/
def settledWorld : World :=
  { rotationWorld with
    cr.status.authRotation := some { phase := .idle, observedSecretHash := "old#" }
    mem.authPasswordHash := some "old#" }

/-- The world after a pass over the new Secret. -/
def failedWorld : World :=
  rotationDriver.exec (.call ⟨"new#", unreachableInput⟩) settledWorld

private theorem failedWorld_head :
    failedWorld.journal.head? = some (.event (.secretRotationFailed
      "rotation failed on 1 endpoint(s) [vk-1]; cluster reverted to previous credential")) := by
  decide +kernel

/-- The second pass over the same Secret rotates once more. -/
theorem rotationDriver_rotates_again :
    failedWorld.journal.head? = some (.event (.secretRotationFailed
      "rotation failed on 1 endpoint(s) [vk-1]; cluster reverted to previous credential")) ∧
    rotations failedWorld.journal = 1 ∧ rotations (rotationDriver.exec
      (.call ⟨"new#", unreachableInput⟩) failedWorld).journal = 2 :=
  ⟨failedWorld_head, by decide, by decide⟩

/-- A pass that cannot list the pods does not. -/
theorem rotationDriver_rests_unlisted :
    RecordsFailed settledWorld.journal failedWorld.journal ∧
    rotations (rotationDriver.run
      [.call ⟨"new#", unreachableInput⟩, .call ⟨"new#", { listFails := true }⟩]
      settledWorld).journal = rotations failedWorld.journal := by
  have recorded : RecordsFailed settledWorld.journal failedWorld.journal :=
    ⟨"rotation failed on 1 endpoint(s) [vk-1]; cluster reverted to previous credential",
      failedWorld.journal.tail, by
        rw [show settledWorld.journal = [] from rfl, List.append_nil]
        exact (List.cons_head?_tail failedWorld_head).symm⟩
  have repeats : ∀ act ∈ [Act.call ⟨"new#", { listFails := true }⟩],
      Act.repeats "new#" act := by
    intro act mem
    rw [List.mem_singleton.mp mem]
    rfl
  exact ⟨recorded, (rotationDriver_rests_iff ⟨"new#", unreachableInput⟩ _ settledWorld recorded
    repeats).mpr ⟨.inr (.inr (.inl rfl)), trivial⟩⟩

end Velkir
