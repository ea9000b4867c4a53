import Mathlib.Order.Nat
import Velkir.LatchRules
import Velkir.RolloutSafety

/-!
# The window between strip and relabel

From the strip on, latch or marker keep Phase 7 from stamping a primary. Without a snapshot it looks
at neither.
-/

namespace Velkir

open Crash Proc History

/-- The latch under which the line strips a label. -/
def Entry.stripLatch : Entry → Option Latch
  | .stripped _ latch _ => some latch
  | _ => none

/-- The line ends the window: a superseding observation or a failed failover. -/
def Entry.endsStrip (latch : Latch) : Entry → Bool
  | .observed addr epoch => latch.Superseded addr epoch
  | .rolledBack => true
  | _ => false

example (pod : String) (latch : Latch) (stored : Option FailoverDispatch) :
    let line := Entry.stripped pod latch stored
    line.stripLatch = some latch ∧ line.endsStrip latch = false := by
  simp [Entry.stripLatch, Entry.endsStrip]

/-- The label was stripped under this latch, and nothing has ended the window. -/
def StripPending (latch : Latch) : List Entry → Prop :=
  Since (fun line => line.endsStrip latch = false) (fun line => line.stripLatch = some latch)

/-- A pending strip that the process has not forgotten. -/
def StripRemembered (latch : Latch) : List Entry → Prop :=
  Since (fun line => line.endsStrip latch = false ∧ line ≠ .memoryLost)
    (fun line => line.stripLatch = some latch)

instance (latch : Latch) : DecidablePred (StripPending latch) :=
  inferInstanceAs (DecidablePred (Since _ _))

/-- While a strip is pending, Phase 7 relabels in time, with a snapshot or over labelled pods. -/
def RelabelsCarefully (line : Entry) (before : List Entry) : Prop :=
  ∀ snap pods time, line = .relabelling snap pods time → ∀ latch, StripPending latch before →
    time ≤ latch.deadline → (snap ≠ none ∨ anyValkeyPodLabelled pods.items = true) ∧
      (StripRemembered latch before ∨ time < wire latch.deadline)

/-- A primary is stamped only when no strip is pending before its deadline. -/
def StampsSettled (line : Entry) (before : List Entry) : Prop :=
  ∀ pod time, line = .stamped pod time → ∀ latch, StripPending latch before → latch.deadline < time

/-- The one latch outlasts the other up to a time. -/
structure Latch.Guards (held latch : Latch) (limit : Nat) : Prop where
  deadline : limit ≤ held.deadline
  superseded : ∀ addr epoch, held.Superseded addr epoch → latch.Superseded addr epoch

/-- The marker stands for a latch that outlasts this one to its deadline. -/
def FailoverDispatch.Guards (marker : FailoverDispatch) (latch : Latch) : Prop :=
  ∃ held, marker.latch = some held ∧ held.Guards latch (wire latch.deadline)

/-- The label is stripped only under a stored marker. -/
def StripsMarked (line : Entry) (_ : List Entry) : Prop :=
  ∀ pod latch stored, line = .stripped pod latch stored →
    ∃ marker, stored = some marker ∧ marker.Guards latch

/-- What keeps the label off while a strip under this latch is pending. -/
structure StripProtected (w : World) (latch : Latch) : Prop where
  remembered : StripRemembered latch w.journal → w.now ≤ latch.deadline →
    ∃ held, w.mem.failoverLatch = some held ∧ held.Guards latch latch.deadline
  marked : StripPending latch w.journal → w.now < wire latch.deadline →
    ∃ marker, w.cr.status.failoverDispatch = some marker ∧ marker.Guards latch
  held : StripPending latch w.journal → w.now < wire latch.deadline →
    ∀ held, w.mem.failoverLatch = some held → held.Guards latch (wire latch.deadline)

/-- Every stamp so far is settled, unless some relabelling was not careful. -/
def StampsHold (w : World) : Prop :=
  Always RelabelsCarefully w.journal → Always StampsSettled w.journal

/-- The journal is right so far, and only sentinel resources strip labels. -/
structure WindowLines (w : World) : Prop where
  stamps : StampsHold w
  strips : Always StripsMarked w.journal
  sentinel : ∀ latch, StripPending latch w.journal → w.cr.spec.mode = .sentinel

/-- The journal is right and every pending strip is protected. -/
structure FailoverWindow (w : World) : Prop extends WindowLines w where
  pending : ∀ latch, StripProtected w latch

/-- No strip is pending that something would have to protect. -/
def StripsOver (w : World) : Prop :=
  ∀ latch, (StripRemembered latch w.journal → latch.deadline < w.now) ∧
    (StripPending latch w.journal → wire latch.deadline ≤ w.now)

/-- The lines other than strips and stamps. -/
def unlabellingKinds : List Kind := Kind.but [.stripped, .stamped]

variable {w : World}

theorem FailoverWindow.of_over (lines : WindowLines w) (ended : StripsOver w) :
    FailoverWindow w := by
  refine ⟨lines, fun latch => ⟨fun remembered intime => ?_, fun pending intime => ?_,
    fun pending intime => ?_⟩⟩
  · exact absurd ((ended latch).1 remembered) (by omega)
  · exact absurd ((ended latch).2 pending) (by omega)
  · exact absurd ((ended latch).2 pending) (by omega)

variable {line : Entry}

section Frames

variable {before after : World} {touched : List Part}

theorem stripLatch_eq_none (kind : line.kind ≠ .stripped) : line.stripLatch = none := by
  cases line <;> first | rfl | exact absurd rfl kind

theorem stripPending_of_frame (frame : Frame touched (.stamped :: unlabellingKinds) before after)
    {latch : Latch} (pending : StripPending latch after.journal) :
    StripPending latch before.journal := by
  obtain ⟨lines, journal, kinds⟩ := frame.journal
  rw [journal] at pending
  refine pending.of_append fun line mem => ?_
  simp [stripLatch_eq_none fun kind => absurd (kinds line mem) (by rw [kind]; decide)]

theorem stripRemembered_of_frame (frame : Frame touched (.stamped :: unlabellingKinds) before after)
    {latch : Latch} (remembered : StripRemembered latch after.journal) :
    StripRemembered latch before.journal := by
  obtain ⟨lines, journal, kinds⟩ := frame.journal
  rw [journal] at remembered
  refine remembered.of_append fun line mem => ?_
  simp [stripLatch_eq_none fun kind => absurd (kinds line mem) (by rw [kind]; decide)]

theorem stampsSettled_of_kind (kind : line.kind ≠ .stamped) (before : List Entry) :
    StampsSettled line before := by
  rintro pod time rfl
  exact absurd rfl kind

private theorem stripsMarked_of_kind (kind : line.kind ≠ .stripped) (before : List Entry) :
    StripsMarked line before := by
  rintro pod latch stored rfl
  exact absurd rfl kind

theorem StampsHold.of_frame (stamps : StampsHold before)
    (frame : Frame touched unlabellingKinds before after) : StampsHold after := by
  obtain ⟨lines, journal, kinds⟩ := frame.journal
  rw [StampsHold, journal]
  exact fun careful => (stamps careful.of_append).append fun line mem =>
    stampsSettled_of_kind fun kind => absurd (kinds line mem) (by rw [kind]; decide)

theorem WindowLines.of_frame (lines : WindowLines before)
    (frame : Frame touched (.stamped :: unlabellingKinds) before after)
    (identity : .identity ∉ touched) (stamps : StampsHold after) : WindowLines after := by
  have mode : after.cr.identity = before.cr.identity := (frame.kept .identity identity).1
  refine ⟨stamps, ?_, fun latch pending => ?_⟩
  · obtain ⟨new, journal, kinds⟩ := frame.journal
    rw [journal]
    exact lines.strips.append fun line mem =>
      stripsMarked_of_kind fun kind => absurd (kinds line mem) (by rw [kind]; decide)
  · rw [(Prod.mk.inj mode).2]
    exact lines.sentinel latch (stripPending_of_frame frame pending)

theorem StripsOver.of_frame (ended : StripsOver before)
    (frame : Frame touched (.stamped :: unlabellingKinds) before after) : StripsOver after := by
  intro latch
  have clock := frame.clock
  refine ⟨fun remembered => ?_, fun pending => ?_⟩
  · have passed := (ended latch).1 (stripRemembered_of_frame frame remembered)
    omega
  · have passed := (ended latch).2 (stripPending_of_frame frame pending)
    omega

theorem FailoverWindow.of_frame (window : FailoverWindow before)
    (frame : Frame quietParts (.stamped :: unlabellingKinds) before after)
    (stamps : StampsHold after) : FailoverWindow after := by
  refine ⟨window.toWindowLines.of_frame frame (by decide) stamps, fun latch => ?_⟩
  have clock := frame.clock
  have latch_eq : after.mem.failoverLatch = before.mem.failoverLatch :=
    frame.kept .latch (by decide)
  have marker_eq : after.cr.status.failoverDispatch = before.cr.status.failoverDispatch :=
    (frame.kept .dispatch (by decide)).1
  obtain ⟨remembered, marked, held⟩ := window.pending latch
  refine ⟨fun strip intime => ?_, fun strip intime => ?_, fun strip intime => ?_⟩
  · rw [latch_eq]
    exact remembered (stripRemembered_of_frame frame strip) (by omega)
  · rw [marker_eq]
    exact marked (stripPending_of_frame frame strip) (by omega)
  · rw [latch_eq]
    exact held (stripPending_of_frame frame strip) (by omega)

theorem fetched_of_frame {kinds : List Kind} (fetched : before.Fetched)
    (frame : Frame touched kinds before after) (identity : .identity ∉ touched) :
    after.Fetched := by
  have carried : Carried CR.identity before after := frame.kept .identity identity
  exact (carried.of_same fetched).trans (fetched.trans carried.1.symm)

end Frames

/-- Until Phase 7 the working copy has the stored marker. -/
structure EarlyWindow (w : World) : Prop extends FailoverWindow w where
  fetched : w.Fetched
  copy : w.v.status.failoverDispatch = w.cr.status.failoverDispatch

/-- After the maintenance every pending strip has a latch. -/
structure LateWindow (w : World) : Prop extends FailoverWindow w where
  fetched : w.Fetched
  copy : w.v.status.failoverDispatch = none ∨
    w.v.status.failoverDispatch = w.cr.status.failoverDispatch
  latched : ∀ latch, StripPending latch w.journal → w.now < wire latch.deadline →
    w.mem.failoverLatch ≠ none

/-- After the maintenance in Phase 7, with no strip left to protect. -/
structure OverWindow (w : World) : Prop extends WindowLines w where
  fetched : w.Fetched
  copy : w.v.status.failoverDispatch = none ∨
    w.v.status.failoverDispatch = w.cr.status.failoverDispatch
  ended : StripsOver w

theorem OverWindow.late (window : OverWindow w) : LateWindow w :=
  ⟨.of_over window.toWindowLines window.ended, window.fetched, window.copy,
    fun latch pending intime =>
    absurd ((window.ended latch).2 pending) (by omega)⟩

theorem LateWindow.ended (window : LateWindow w) (absent : w.mem.failoverLatch = none) :
    OverWindow w := by
  refine ⟨window.toWindowLines, window.fetched, window.copy, fun latch => ⟨fun remembered => ?_,
    fun pending => ?_⟩⟩
  · by_contra intime
    obtain ⟨held, present, -⟩ := (window.pending latch).remembered remembered (by omega)
    simp [absent] at present
  · by_contra intime
    exact window.latched latch pending (by omega) absent

theorem LateWindow.of_frame {before after : World} (window : LateWindow before)
    (frame : Frame quietParts (.stamped :: unlabellingKinds) before after)
    (stamps : StampsHold after) : LateWindow after := by
  have carried : Carried (fun cr => cr.status.failoverDispatch) before after :=
    frame.kept .dispatch (by decide)
  have latch_eq : after.mem.failoverLatch = before.mem.failoverLatch :=
    frame.kept .latch (by decide)
  have clock := frame.clock
  refine ⟨window.toFailoverWindow.of_frame frame stamps,
    fetched_of_frame window.fetched frame (by decide), ?_, fun latch pending intime => ?_⟩
  · rcases carried.2 with kept | fresh
    · exact window.copy.imp kept.trans fun same => kept.trans (same.trans carried.1.symm)
    · exact .inr fresh
  · rw [latch_eq]
    exact window.latched latch (stripPending_of_frame frame pending) (by omega)

theorem failoverWindow_tolerates :
    Tolerates quietParts unlabellingKinds (Keeps FailoverWindow) :=
  fun _ _ frame window => window.of_frame frame.mono (window.stamps.of_frame frame)

theorem lateWindow_tolerates : Tolerates quietParts unlabellingKinds (Keeps LateWindow) :=
  fun _ _ frame window => window.of_frame frame.mono (window.stamps.of_frame frame)

theorem earlyWindow_tolerates :
    Tolerates quietParts unlabellingKinds (Keeps EarlyWindow) := by
  intro before after frame window
  have carried : Carried (fun cr => cr.status.failoverDispatch) before after :=
    frame.kept .dispatch (by decide)
  exact ⟨failoverWindow_tolerates _ _ frame window.toFailoverWindow,
    fetched_of_frame window.fetched frame (by decide),
    (carried.of_same window.copy).trans (window.copy.trans carried.1.symm)⟩

variable {history : List Entry}

private theorem StripRemembered.pending {latch : Latch}
    (remembered : StripRemembered latch history) : StripPending latch history :=
  remembered.mono fun _ => And.left

theorem StripPending.unsuperseded {latch : Latch} {addr : String} {epoch : Int}
    (pending : StripPending latch history) (seen : Seen addr epoch history) :
    ¬latch.Superseded addr epoch := by
  refine seen.unsuperseded pending (fun line kept => ?_) fun line start kind => ?_
  · cases line <;> simp_all [Entry.supersedes, Entry.endsStrip]
  · cases line <;> simp_all [Entry.stripLatch, Entry.kind]

theorem Latch.Guards.active {held latch : Latch} {limit now : Nat} {addr : String} {epoch : Int}
    (guards : held.Guards latch limit) (intime : now ≤ limit)
    (unmoved : ¬latch.Superseded addr epoch) : held.active now addr epoch = true :=
  Latch.active_iff.mpr ⟨intime.trans guards.deadline, fun moved =>
    unmoved (guards.superseded addr epoch moved)⟩

theorem failoverWindow_drop : DropsLatch FailoverWindow := by
  intro w addr epoch seen ended window
  refine ⟨⟨window.stamps, window.strips, window.sentinel⟩,
    fun latch => ⟨fun remembered intime => ?_,
    (window.pending latch).marked, fun _ _ _ absent => by cases absent⟩⟩
  obtain ⟨held, present, guards⟩ := (window.pending latch).remembered remembered intime
  have active : held.active w.now addr epoch = true :=
    guards.active intime (remembered.pending.unsuperseded seen)
  simp [World.latchActive, present, active] at ended

theorem lateWindow_drop : DropsLatch LateWindow := by
  intro w addr epoch seen ended window
  refine ⟨failoverWindow_drop w addr epoch seen ended window.toFailoverWindow, window.fetched,
    window.copy, fun latch pending intime => ?_⟩
  obtain ⟨held, present⟩ := Option.ne_none_iff_exists'.mp (window.latched latch pending intime)
  have guards := (window.pending latch).held pending intime held present
  have active : held.active w.now addr epoch = true :=
    guards.active (Nat.le_of_lt intime) (pending.unsuperseded seen)
  simp [World.latchActive, present, active] at ended

theorem clearFailoverDispatch_over (reply : Reply) :
    Within (Keeps OverWindow) (clearFailoverDispatch reply) := by
  have frame : Within (Frame [.dispatch] unlabellingKinds) (clearFailoverDispatch reply) :=
    clearFailoverDispatch_within (by decide)
  have step : ∀ before after, Frame [.dispatch] unlabellingKinds before after →
      MarkerCleared before after → Keeps OverWindow before after :=
    fun before after frame cleared window =>
      ⟨window.toWindowLines.of_frame frame.lines (by decide) (window.stamps.of_frame frame),
        fetched_of_frame window.fetched frame (by decide), .inl cleared.working,
        window.ended.of_frame frame.lines⟩
  intro w
  have framed := frame w
  have cleared := clearFailoverDispatch_cleared reply w
  exact ⟨fun middle mem => step w middle (framed.1 middle mem) (cleared.1 middle mem),
    step w _ framed.2 cleared.2⟩

private theorem EarlyWindow.rehydrate (window : EarlyWindow w) {marker : FailoverDispatch}
    (present : w.v.status.failoverDispatch = some marker) : LateWindow (w.rehydrate marker) := by
  have frame : Frame [.latch] (.stamped :: unlabellingKinds) w (w.rehydrate marker) :=
    (w.rehydrate_frame marker).lines
  have stamps : StampsHold (w.rehydrate marker) :=
    window.stamps.of_frame (w.rehydrate_frame marker).lines
  have guards : ∀ {latch}, StripPending latch w.journal → w.now < wire latch.deadline →
      marker.Guards latch := by
    intro latch pending intime
    obtain ⟨stored, stored_eq, guards⟩ := (window.pending latch).marked pending intime
    rw [← window.copy, present] at stored_eq
    exact Option.some.inj stored_eq ▸ guards
  have rebuilt : (w.rehydrate marker).mem.failoverLatch = (w.mem.failoverLatch <|>
      marker.latch.filter fun latch => w.now < latch.deadline) := rfl
  refine ⟨⟨window.toWindowLines.of_frame frame (by decide) stamps,
    fun latch => ⟨fun remembered intime => ?_,
      fun pending => (window.pending latch).marked (stripPending_of_frame frame pending),
    fun pending intime held eq => ?_⟩⟩, fetched_of_frame window.fetched frame (by decide),
    .inr window.copy, fun latch pending intime => ?_⟩
  · obtain ⟨held, found, guards⟩ := (window.pending latch).remembered
      (stripRemembered_of_frame frame remembered) intime
    exact ⟨held, by simp [rebuilt, found], guards⟩
  · have pending := stripPending_of_frame frame pending
    cases known : w.mem.failoverLatch with
    | some kept =>
        rw [rebuilt, known] at eq
        exact (window.pending latch).held pending intime held (known.trans eq)
    | none =>
        obtain ⟨stands, stands_eq, guards⟩ := guards pending intime
        have same : stands = held := by
          simp only [rebuilt, known, stands_eq, Option.filter] at eq
          split at eq
          · exact Option.some.inj eq
          · cases eq
        exact same ▸ guards
  · obtain ⟨stands, stands_eq, guards⟩ := guards (stripPending_of_frame frame pending) intime
    have alive : w.now < stands.deadline := Nat.lt_of_lt_of_le intime guards.deadline
    cases known : w.mem.failoverLatch <;> simp [rebuilt, known, stands_eq, Option.filter, alive]

variable {obs : Obs} {reply : Reply}

/-- Phase 7 gives every pending strip its latch. -/
theorem maintainFailoverDispatchMarker_window (start : EarlyWindow w) :
    (maintainFailoverDispatchMarker obs reply).wp FailoverWindow (fun _ => LateWindow) w := by
  refine maintainFailoverDispatchMarker_wp (fun absent => ?_) fun marker present => ?_
  · have done : EarlyWindow (w.note .maintained) :=
      earlyWindow_tolerates _ _ (World.note_frame (by decide) w) start
    refine ⟨done.toFailoverWindow, done.toFailoverWindow, done.fetched, .inl absent, ?_⟩
    intro latch pending intime
    obtain ⟨marker, stored, -⟩ := (done.pending latch).marked pending intime
    rw [← done.copy] at stored
    cases absent.symm.trans stored
  · have observed : EarlyWindow (w.observe obs) :=
      earlyWindow_tolerates _ _ (w.observe_frame obs).mono start
    have seen : LateWindow ((w.observe obs).rehydrate marker) := observed.rehydrate present
    refine ⟨observed.toFailoverWindow, seen.toFailoverWindow, fun _ => seen, fun ended => ?_⟩
    have dropped : LateWindow (((w.observe obs).rehydrate marker).setLatch none) :=
      lateWindow_drop _ _ _ ((seen_observe obs w).cons (by decide)) ended seen
    refine ⟨dropped.toFailoverWindow, ?_⟩
    exact wp_mono ((clearFailoverDispatch_over reply).wp (dropped.ended rfl))
      (fun _ window => window.late.toFailoverWindow) fun _ _ => OverWindow.late

/-- A primary may be stamped now, unless some relabelling was not careful. -/
def StampsClear (w : World) : Prop :=
  Always RelabelsCarefully w.journal → ∀ latch, StripPending latch w.journal →
    latch.deadline < w.now

private theorem StampsClear.of_frame {before after : World} {touched : List Part}
    (clear : StampsClear before)
    (frame : Frame touched (.stamped :: unlabellingKinds) before after) : StampsClear after := by
  intro careful latch pending
  obtain ⟨lines, journal, -⟩ := frame.journal
  rw [journal] at careful
  exact (clear careful.of_append latch (stripPending_of_frame frame pending)).trans_le frame.clock

theorem Entry.OfPatch.kind_mem {mayStamp : Prop} {time : Nat} (patch : line.OfPatch mayStamp time) :
    line.kind ∈ .stamped :: unlabellingKinds := by
  rcases patch with event | ⟨-, pod, rfl⟩
  · rw [event]
    decide
  · simp [Entry.kind]

private theorem LateWindow.patchPod {mayStamp : Prop} (window : LateWindow w)
    (clear : mayStamp → StampsClear w) (name : String) (update : Pod → Pod) {notes : List Entry}
    (lines : ∀ line ∈ notes, line.OfPatch mayStamp w.now) :
    LateWindow (w.patchPod name update notes) := by
  refine window.of_frame (World.patchPod_frame (by decide) (fun line mem =>
    (lines line mem).kind_mem) w) fun careful => ?_
  refine (window.stamps careful.of_append).extend fun line mem others sub => ?_
  rcases lines line mem with event | ⟨may, pod, rfl⟩
  · exact stampsSettled_of_kind (by simp [event]) _
  · intro pod' time stamped latch pending
    obtain ⟨rfl, rfl⟩ := Entry.stamped.inj stamped
    refine clear may careful.of_append latch (pending.of_append fun other mem => ?_)
    rcases lines other (sub mem) with event | ⟨-, pod, rfl⟩
    · simp [stripLatch_eq_none (show other.kind ≠ .stripped by simp [event])]
    · simp [Entry.stripLatch]

private theorem writeRoles_window {input : RoleLabelsInput} {roles : Option Roles}
    (window : LateWindow w)
    (stamps : ∀ assigned ∈ roles, ∀ pod, assigned pod = some .primary → StampsClear w)
    (pods : Pods) :
    (writeRoles input pods roles).wp LateWindow (fun _ => LateWindow) w := by
  have patch : ∀ middle name update notes,
      (∀ line ∈ notes, line.OfPatch (StampsClear w) middle.now) →
      Keeps (fun middle => LateWindow middle ∧ (StampsClear w → StampsClear middle)) middle
        (World.patchPod name update notes middle) := by
    rintro middle name update notes lines ⟨here, clear⟩
    have frame : Frame [.pods] (.stamped :: unlabellingKinds) middle
        (middle.patchPod name update notes) :=
      World.patchPod_frame (by decide) (fun line mem => (lines line mem).kind_mem) middle
    exact ⟨here.patchPod clear name update lines, fun may => (clear may).of_frame frame⟩
  have plain : Tolerates [] [.event]
      (Keeps fun middle => LateWindow middle ∧ (StampsClear w → StampsClear middle)) :=
    fun _ _ frame here => ⟨lateWindow_tolerates _ _ frame.mono here.1,
      fun may => (here.2 may).of_frame frame.lines⟩
  exact wp_mono ((writeRoles_keeps patch plain stamps pods).wp ⟨window, id⟩)
    (fun _ => And.left) fun _ _ => And.left

/-- Phase 7 assigns the primary role only when a primary may be stamped. -/
theorem Relabelled.stampsClear {pods : Pods} {before : World} {roles : Option Roles}
    (relabelled : Relabelled pods obs before roles w) (window : LateWindow w) {assigned : Roles}
    (mem : assigned ∈ roles) {pod : Pod} (primary : assigned pod = some .primary) :
    StampsClear w := by
  intro careful latch pending
  by_contra late
  obtain ⟨lines, journal, events⟩ := relabelled.journal
  have quiet : ∀ line ∈ lines, line.stripLatch ≠ some latch := by
    intro line mem
    simp [stripLatch_eq_none (show line.kind ≠ .stripped by simp [events line mem])]
  have pending_before : StripPending latch (before.observe obs).journal := by
    rw [journal] at pending
    simpa [StripPending, Entry.stripLatch, Entry.endsStrip] using pending.of_append quiet
  rw [journal] at careful
  obtain ⟨shown, intime⟩ := (always_cons.mp careful.of_append).1 _ _ _ rfl latch pending_before
    (Nat.le_of_not_lt late)
  rcases relabelled.decided with none | absent | ⟨unseen, bootstrap⟩
  · simp [none] at mem
  · have ended := (window.ended absent).ended latch
    rcases intime with remembered | early
    · refine late (ended.1 ?_)
      rw [journal]
      refine Since.append (fun line mem => ?_) (.later (by simp [Entry.endsStrip]) remembered)
      have kind := events line mem
      cases line <;> simp_all [Entry.endsStrip, Entry.kind]
    · have passed := ended.2 pending
      omega
  · have labelled := shown.resolve_left (not_not.mpr unseen)
    obtain rfl : rolesWithoutSnapshot before.v.name pods.items = assigned := by
      simpa [bootstrap] using mem
    simp [rolesWithoutSnapshot, labelled] at primary

/-- A blank field of a new marker can survive from the old one. -/
theorem FailoverDispatch.Guards.of_fields {marker : FailoverDispatch} {latch : Latch}
    {deadline : Nat}
    (addr : marker.preStripAddr = latch.preStripAddr ∨ latch.preStripAddr = "")
    (expires : marker.deadline = some deadline) (limit : wire latch.deadline ≤ deadline)
    (epoch : marker.preStripEpoch = latch.preStripEpoch ∨ latch.preStripEpoch = 0) :
    marker.Guards latch := by
  refine ⟨_, by rw [FailoverDispatch.latch, expires]; rfl, limit, ?_⟩
  rintro seen at_epoch ⟨named, moved, fence⟩
  refine ⟨named, ?_, ?_⟩
  · rcases addr with same | blank
    · exact same ▸ moved
    · exact blank ▸ named
  · rcases epoch with same | blank
    · exact same ▸ fence
    · simp [blank]

private def Latch.marker (latch : Latch) : FailoverDispatch :=
  { preStripAddr := latch.preStripAddr, deadline := some (wire latch.deadline)
    preStripEpoch := latch.preStripEpoch }

private theorem merge_blank_guards (latch : Latch) (stored : FailoverDispatch) :
    (MergePatch.merge MergePatch.blank latch.marker stored).Guards latch :=
  .of_fields (MergePatch.replace_eq_or "" latch.preStripAddr _) rfl (Nat.le_refl _)
    (MergePatch.replace_eq_or 0 latch.preStripEpoch _)

private theorem merge_copy_guards (latch : Latch) (stored : FailoverDispatch) :
    (MergePatch.merge { stored with deadline := stored.deadline.map wire } latch.marker
      stored).Guards latch := by
  have addr : MergePatch.replace stored.preStripAddr latch.preStripAddr stored.preStripAddr =
      latch.preStripAddr := MergePatch.replace_base _ _
  have epoch : MergePatch.replace stored.preStripEpoch latch.preStripEpoch stored.preStripEpoch =
      latch.preStripEpoch := MergePatch.replace_base _ _
  rcases MergePatch.replace_eq_or (stored.deadline.map wire) (some (wire latch.deadline))
    stored.deadline with sent | unchanged
  · exact .of_fields (.inl addr) sent (Nat.le_refl _) (.inl epoch)
  · -- the stored deadline agrees with the new one in whole seconds, and is the later one
    obtain ⟨deadline, kept, same⟩ := Option.map_eq_some_iff.mp unchanged.symm
    have expires : MergePatch.replace (stored.deadline.map wire) (some (wire latch.deadline))
        stored.deadline = some deadline := (if_pos unchanged.symm).trans kept
    exact .of_fields (.inl addr) expires (same ▸ wire_le deadline) (.inl epoch)

/-- A marker written over an absent or an up-to-date one guards its dispatch. -/
theorem dispatching_guards (latch : Latch) (copy : w.v.status.failoverDispatch = none ∨
      w.v.status.failoverDispatch = w.cr.status.failoverDispatch) :
    ∃ marker, (w.patchStatus (.dispatching latch.preStripAddr latch.preStripEpoch latch.deadline)
        .object [.persisted]).cr.status.failoverDispatch = some marker ∧ marker.Guards latch := by
  have merged : (w.patchStatus (.dispatching latch.preStripAddr latch.preStripEpoch latch.deadline)
      .object [.persisted]).cr.status.failoverDispatch = MergePatch.mergeOption
        (w.v.status.failoverDispatch.map fun marker =>
          { marker with deadline := marker.deadline.map wire })
        (some latch.marker) w.cr.status.failoverDispatch := rfl
  rw [merged]
  cases known : w.v.status.failoverDispatch with
  | none => exact ⟨_, rfl, merge_blank_guards latch _⟩
  | some base =>
      have stored : w.cr.status.failoverDispatch = some base := by
        simpa [known, eq_comm] using copy
      refine ⟨_, ?_, merge_copy_guards latch base⟩
      rw [stored]
      simp only [Option.map_some, MergePatch.mergeOption, Option.getD_some]
      split
      · rename_i same
        rw [same, MergePatch.merge_self]
      · rfl

/-- The marker of a dispatch is stored, and no other strip is left to protect. -/
structure DispatchWindow (latch : Latch) (w : World) : Prop extends OverWindow w where
  mode : w.cr.spec.mode = .sentinel
  marked : ∃ marker, w.cr.status.failoverDispatch = some marker ∧ marker.Guards latch

theorem OverWindow.setLatch (window : OverWindow w) (latch : Option Latch) :
    OverWindow (w.setLatch latch) :=
  ⟨window.toWindowLines.of_frame (w.setLatch_frame latch).lines (by decide)
    (window.stamps.of_frame (w.setLatch_frame latch).lines), window.fetched, window.copy,
    window.ended.of_frame (w.setLatch_frame latch).lines⟩

private theorem OverWindow.persist (window : OverWindow w) (latch : Latch)
    (mode : w.v.spec.mode = .sentinel) :
    DispatchWindow latch (w.patchStatus
      (.dispatching latch.preStripAddr latch.preStripEpoch latch.deadline) .object
      [.persisted]) := by
  have frame : Frame [.dispatch] [.persisted] w (w.patchStatus
      (.dispatching latch.preStripAddr latch.preStripEpoch latch.deadline) .object
      [.persisted]) := by
    refine World.patchStatus_frame ?_ ?_ ?_ ?_ w
    · exact fun untouched => absurd (List.mem_singleton_self _) untouched
    · exact fun _ _ => rfl
    · exact fun _ _ => rfl
    · simp [Entry.kind]
  refine ⟨⟨window.toWindowLines.of_frame frame.lines (by decide)
    (window.stamps.of_frame frame.lines),
    rfl, .inr rfl, window.ended.of_frame frame.lines⟩, ?_, dispatching_guards latch window.copy⟩
  exact (Prod.mk.inj window.fetched).2.symm.trans mode

/-- The strip opens a window that the latch and the marker protect. -/
theorem DispatchWindow.strip {latch : Latch} (window : DispatchWindow latch w)
    (held : w.mem.failoverLatch = some latch) (name : String) (update : Pod → Pod) :
    LateWindow (w.patchPod name update [.stripped name latch w.cr.status.failoverDispatch]) := by
  have lines : WindowLines
      (w.patchPod name update [.stripped name latch w.cr.status.failoverDispatch]) := by
    refine ⟨fun careful => .cons (stampsSettled_of_kind (by simp [Entry.kind]) _)
      (window.stamps (always_cons.mp careful).2), .cons ?_ window.strips, fun _ _ => window.mode⟩
    intro pod other stored eq
    obtain ⟨rfl, rfl, rfl⟩ := Entry.stripped.inj eq
    exact window.marked
  -- other strips are over, so only the new one has to be protected
  have ended : ∀ {other}, latch ≠ other → StripProtected
      (w.patchPod name update [.stripped name latch w.cr.status.failoverDispatch]) other := by
    intro other apart
    have remembered : StripRemembered other
        (.stripped name latch w.cr.status.failoverDispatch :: w.journal) →
          other.deadline < w.now := by
      simp only [StripRemembered, since_cons, Entry.stripLatch, Option.some.injEq, apart,
        false_or]
      exact fun strip => (window.ended other).1 strip.2
    have pending : StripPending other
        (.stripped name latch w.cr.status.failoverDispatch :: w.journal) →
          wire other.deadline ≤ w.now := by
      simp only [StripPending, since_cons, Entry.stripLatch, Option.some.injEq, apart,
        false_or]
      exact fun strip => (window.ended other).2 strip.2
    exact ⟨fun strip intime => absurd intime (Nat.not_le_of_lt (remembered strip)),
      fun strip intime => absurd intime (Nat.not_lt_of_le (pending strip)),
      fun strip intime => absurd intime (Nat.not_lt_of_le (pending strip))⟩
  refine ⟨⟨lines, fun other => ?_⟩, window.fetched, window.copy, fun _ _ _ absent => ?_⟩
  · by_cases same : latch = other
    · subst same
      refine ⟨fun _ _ => ⟨latch, held, Nat.le_refl _, fun _ _ => id⟩, fun _ _ => window.marked,
        fun _ _ known eq => ?_⟩
      obtain rfl : latch = known := Option.some.inj (held.symm.trans eq)
      exact ⟨wire_le _, fun _ _ => id⟩
    · exact ended same
  · cases held.symm.trans absent

private theorem LateWindow.rollBack {before after : World} (window : LateWindow before)
    (frame : Frame [.pods] [.rolledBack] before after)
    (journal : after.journal = .rolledBack :: before.journal) : OverWindow after := by
  have late : LateWindow after := lateWindow_tolerates _ _ frame.mono window
  refine ⟨late.toWindowLines, late.fetched, late.copy, fun latch => ?_⟩
  simp [journal, StripRemembered, StripPending, Entry.stripLatch, Entry.endsStrip]

private theorem restorePrimaryLabel_window {name : String} (start : LateWindow w) :
    (restorePrimaryLabel name reply).wp LateWindow (fun _ => OverWindow) w := by
  have noted : OverWindow (w.note .rolledBack) :=
    start.rollBack (World.note_frame (by decide) w) rfl
  have restored : OverWindow (w.patchPod name (fun pod => { pod with role := .primary })
      [.rolledBack]) :=
    start.rollBack (World.patchPod_frame (by decide) (by simp [Entry.kind]) w) rfl
  unfold restorePrimaryLabel relabelPod
  simp only [wp_bind, wp_ite, wp_read, wp_pure, wp_write, log]
  exact ⟨fun _ => ⟨fun _ => ⟨noted.late, noted⟩, by simp⟩, fun _ => ⟨restored.late, by simp,
    fun _ => restored⟩⟩

private theorem issueFailover_window {name : String} {latch : Latch} {input : DispatchInput}
    (start : LateWindow w) :
    (issueFailover name latch input).wp LateWindow (fun _ => LateWindow) w := by
  unfold issueFailover
  simp only [wp_ite, wp_bind]
  refine ⟨fun _ => ?_, fun _ => ?_⟩
  · refine wp_mono (restorePrimaryLabel_window start) (fun _ => id) fun _ w ended => ?_
    refine wp_mono ((clearFailoverDispatch_over _).wp ended) (fun _ => OverWindow.late)
      fun _ w ended => ?_
    exact wp_write.mpr ⟨(ended.setLatch _).late, (ended.setLatch _).late⟩
  · have issued : Within (Frame [] [.failoverIssued, .event])
        (do log (.failoverIssued name latch); recordEvent .failoverInitiated) :=
      .bind (log_within (by simp [Entry.kind])) fun _ => log_within (by decide)
    simpa [wp_bind] using (lateWindow_tolerates.within issued).wp start

private theorem dispatchFailover_window {name : String} {latch : Latch} {input : DispatchInput}
    (start : OverWindow w) (mode : w.v.spec.mode = .sentinel) :
    (dispatchFailover name latch input).wp LateWindow (fun _ => LateWindow) w := by
  unfold dispatchFailover stripAndFailOver stripPrimaryLabel relabelPod
  rw [wp_bind]
  have persisted := start.persist latch mode
  refine persistFailoverDispatch_wp (by simpa using start.late) ⟨persisted.toOverWindow.late, ?_⟩
  simp only [wp_bind, wp_ite, wp_read, wp_pure, wp_write]
  have latched := persisted.toOverWindow.setLatch (some latch)
  have prepared : DispatchWindow latch _ := ⟨latched, persisted.mode, persisted.marked⟩
  have stripped := prepared.strip rfl name fun pod => { pod with role := .unset }
  refine ⟨fun _ => ⟨latched.late, fun refused => ⟨by simp, fun _ => ?_⟩,
    fun _ => ⟨stripped, fun _ =>
    issueFailover_window stripped, by simp⟩⟩, by simp⟩
  have unlatched := latched.setLatch none
  exact ⟨unlatched.late, wp_mono ((clearFailoverDispatch_over _).wp unlatched)
    (fun _ => OverWindow.late) fun _ _ => OverWindow.late⟩

private theorem failoverWindow_forget (window : FailoverWindow w) : FailoverWindow w.forget := by
  have frame : Frame [.latch, .lastState] unlabellingKinds w w.forget := w.forget_frame.lines
  refine ⟨window.toWindowLines.of_frame frame.lines (by decide) (window.stamps.of_frame frame),
    fun latch => ⟨fun remembered => ?_, fun pending =>
      (window.pending latch).marked (stripPending_of_frame frame.lines pending),
      fun _ _ _ absent => by cases absent⟩⟩
  simp [World.forget, StripRemembered, Entry.stripLatch] at remembered

private theorem failoverWindow_rules (input : PassInput) :
    LatchRules FailoverWindow EarlyWindow LateWindow input where
  early_along _ := EarlyWindow.toFailoverWindow
  late_along _ := LateWindow.toFailoverWindow
  fetch w start := ⟨failoverWindow_tolerates _ _ w.fetch_frame.mono start, rfl, rfl⟩
  forget _ := failoverWindow_forget
  quiet_along _ _ frame := failoverWindow_tolerates _ _ frame.mono
  quiet_early _ _ frame := earlyWindow_tolerates _ _ frame.mono
  quiet_late _ _ frame := lateWindow_tolerates _ _ frame.mono
  consult_early site obs := earlyWindow_tolerates.within (isFailoverInFlight_frame site obs)
  consult_late site obs := lateWindow_tolerates.within (isFailoverInFlight_frame site obs)
  drop_early w addr epoch seen ended start :=
    ⟨failoverWindow_drop w addr epoch seen ended start.toFailoverWindow, start.fetched, start.copy⟩
  drop_late := lateWindow_drop
  remember w state _ start := ⟨⟨⟨start.stamps, start.strips, start.sentinel⟩, fun latch =>
    ⟨(start.pending latch).remembered, (start.pending latch).marked, (start.pending latch).held⟩⟩,
    start.fetched, start.copy⟩
  maintain _ start := maintainFailoverDispatchMarker_window start
  write pods roles before w early start relabelled same := by
    refine writeRoles_window start (fun assigned mem pod primary => ?_) pods
    by_cases sentinel : before.v.spec.mode = .sentinel
    · exact (relabelled sentinel).stampsClear start mem primary
    · intro _ latch pending
      obtain rfl := same sentinel
      have mode := (Prod.mk.inj start.fetched).2
      exact absurd (mode.trans (start.sentinel latch pending)) sentinel
  handOver w _ _ start sentinel absent := by
    refine dispatchFailover_window (start.ended absent) ?_
    simp only [Spec.hasSentinel, decide_eq_true_eq] at sentinel
    exact sentinel.1

/-- The label is stripped only under a marker, and none is stamped while a strip is pending. -/
theorem operator_stampsSettled (acts : List (Act PassInput Drift)) {w : World}
    (start : w.journal = [])
    (careful : Always RelabelsCarefully (operator.run acts w).journal) :
    Always StripsMarked (operator.run acts w).journal ∧
      Always StampsSettled (operator.run acts w).journal := by
  have none : ∀ latch, ¬StripPending latch w.journal ∧ ¬StripRemembered latch w.journal := by
    rw [start]
    exact fun _ => ⟨not_since_nil, not_since_nil⟩
  have window : FailoverWindow w := by
    refine .of_over ⟨fun _ => ?_, ?_, fun latch pending => absurd pending (none latch).1⟩
      fun latch =>
      ⟨fun remembered => absurd remembered (none latch).2,
        fun pending => absurd pending (none latch).1⟩ <;>
    · rw [start]
      exact .nil
  have final : FailoverWindow (operator.run acts w) :=
    operator_invariant (fun input => .of_latch (failoverWindow_rules input)) window
  exact ⟨final.strips, final.stamps careful⟩

/-- A crash after the strip, unlabelled pods, and one more pass. -/
def strippedActs (pass : PassInput) : List (Act PassInput Drift) :=
  let pod (ordinal : Nat) (revision : String) : Pod :=
    { name := s!"vk-{ordinal}", podIP := s!"10.0.0.{ordinal + 1}", revision
      conditions := [{ type := .ready, status := .true }] }
  let pods : Pods := ⟨[pod 0 "a", pod 1 "b", pod 2 "b"], by decide, by decide⟩
  [.crash (handoverPass true) writesToStrip, .drift { pods := some pods }, .call pass]

private def Entry.relabel : Entry → Option (Snapshot × Nat)
  | .relabelling snap _ time => some (snap, time)
  | _ => none

/-- Without a snapshot the pod is labelled again, with one in time. -/
theorem strippedActs_run :
    let stamped := (operator.run (strippedActs {}) lastStaleWorld).journal.dropWhile
      (· ≠ .stamped "vk-0" 100)
    let seen := (operator.run (strippedActs (handoverPass true)) lastStaleWorld).journal
    (stamped.head? = some (.stamped "vk-0" 100) ∧ StripPending handoverLatch stamped.tail) ∧
      StripPending handoverLatch seen ∧
      (∀ line ∈ seen, ∀ latch ∈ line.stripLatch, 100 < wire latch.deadline) ∧
      ∀ line ∈ seen, ∀ relabel ∈ line.relabel, relabel.1 ≠ none ∧ relabel.2 ≤ 100 := by
  decide

/-- Without a snapshot the bootstrap rule labels the stripped pod again. -/
theorem operator_stamps_pending :
    ∃ later earlier, (operator.run (strippedActs {}) lastStaleWorld).journal =
        later ++ .stamped "vk-0" 100 :: earlier ∧
      StripPending handoverLatch earlier ∧ 100 ≤ handoverLatch.deadline := by
  obtain ⟨stamped, pending⟩ := strippedActs_run.1
  exact ⟨_, _, split_dropWhile stamped, pending, by decide⟩

private theorem StripPending.exists_mem {latch : Latch} (pending : StripPending latch history) :
    ∃ line ∈ history, line.stripLatch = some latch := by
  induction pending with
  | start here => exact ⟨_, List.mem_cons_self, here⟩
  | later _ _ ih =>
      obtain ⟨line, mem, strips⟩ := ih
      exact ⟨line, List.mem_cons_of_mem _ mem, strips⟩

/-- Relabelling with a snapshot, before any stored deadline, is careful. -/
theorem relabelsCarefully_of_seen {journal : List Entry} {limit : Nat}
    (strips : ∀ line ∈ journal, ∀ latch ∈ line.stripLatch, limit < wire latch.deadline)
    (relabels : ∀ line ∈ journal, ∀ relabel ∈ line.relabel, relabel.1 ≠ none ∧ relabel.2 ≤ limit) :
    Always RelabelsCarefully journal := by
  refine always_iff.mpr ?_
  rintro later line before rfl snap pods time rfl latch pending -
  obtain ⟨seen, bounded⟩ := relabels (.relabelling snap pods time) (by simp) (snap, time) rfl
  obtain ⟨strip, mem, strips_eq⟩ := pending.exists_mem
  have stored := strips strip (by simp [mem]) latch strips_eq
  exact ⟨.inl seen, .inr (Nat.lt_of_le_of_lt bounded stored)⟩

/-- With a snapshot the fresh process leaves the labels alone. -/
theorem operator_stamps_none_seen :
    StripPending handoverLatch
        (operator.run (strippedActs (handoverPass true)) lastStaleWorld).journal ∧
      Always StripsMarked (operator.run (strippedActs (handoverPass true)) lastStaleWorld).journal ∧
      Always StampsSettled
        (operator.run (strippedActs (handoverPass true)) lastStaleWorld).journal := by
  obtain ⟨pending, strips, relabels⟩ := strippedActs_run.2
  exact ⟨pending, operator_stampsSettled _ rfl (relabelsCarefully_of_seen strips relabels)⟩

end Velkir
