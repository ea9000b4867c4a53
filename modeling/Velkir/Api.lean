import Velkir.World

/-!
# Requests and their footprint

The requests the phases are built from, and for each the parts of the world it may touch.
-/

namespace Velkir

open Crash Proc

/-- Write one line into the journal. -/
def World.note (line : Entry) (w : World) : World :=
  { w with journal := line :: w.journal }

section Note

variable (line : Entry) (w : World)

@[simp] theorem World.note_now : (w.note line).now = w.now := rfl
@[simp] theorem World.note_cr : (w.note line).cr = w.cr := rfl
@[simp] theorem World.note_gone : (w.note line).gone = w.gone := rfl
@[simp] theorem World.note_v : (w.note line).v = w.v := rfl
@[simp] theorem World.note_sts : (w.note line).sts = w.sts := rfl
@[simp] theorem World.note_pods : (w.note line).pods = w.pods := rfl
@[simp] theorem World.note_pvcs : (w.note line).pvcs = w.pvcs := rfl
@[simp] theorem World.note_mem : (w.note line).mem = w.mem := rfl
@[simp] theorem World.note_journal : (w.note line).journal = line :: w.journal := rfl

end Note

/-- Journal a line. -/
def log (line : Entry) : Proc World Unit :=
  .write (World.note line)

/-- Add a line about the current world to the journal. -/
def logHere (line : World → Entry) : Proc World Unit :=
  .write fun w => w.note (line w)

/-- Emit an event. -/
def recordEvent (event : Event) : Proc World Unit :=
  log (.event event)

/-- A read of the observer, some time after the preceding step. -/
structure Obs where
  elapsed : Nat := 0
  snap : Snapshot := none
  deriving DecidableEq

/-- The world when the observer is read. -/
def World.observe (obs : Obs) (w : World) : World :=
  { w with
    now := w.now + obs.elapsed
    journal := .observed obs.snap.addr obs.snap.epoch :: w.journal }

/-- Read the observer's snapshot. -/
def readSnapshot (obs : Obs) : Proc World Snapshot := do
  .write (World.observe obs)
  return obs.snap

/-- How much of the working copy the reply to a patch replaces. -/
inductive Refresh
  | nothing
  | status
  | object
  deriving DecidableEq

/-- The working copy after a successful reply. -/
def Refresh.apply : Refresh → CR → CR → CR
  | .nothing, v, _ => v
  | .status, v, cr => { v with status := cr.status }
  | .object, _, cr => cr

/-- The world after a status patch from the working copy to `update` of it. -/
def World.patchStatus (update : Status → Status) (refresh : Refresh) (notes : List Entry)
    (w : World) : World :=
  let cr := { w.cr with status := w.v.status.patched (update w.v.status) w.cr.status }
  { w with cr, v := refresh.apply w.v cr, journal := notes ++ w.journal }

/-- Patch the status. `notes` is journalled with a patch that took effect. -/
def patchStatus (update : Status → Status) (refresh : Refresh) (reply : Reply)
    (notes : List Entry) : Proc World Reply := do
  if ← .read World.gone then return .notFound
  if reply = .ok then
    .write (World.patchStatus update refresh notes)
    return .ok
  return reply

/-- What others change: not status, finalizer, mode or the StatefulSet's existence. -/
structure Drift where
  elapsed : Nat := 0
  pods : Option Pods := none
  pvcs : Option (List PVC) := none
  spec : Option Spec := none
  annotations : Option Annotations := none
  delete : Bool := false
  /-- The StatefulSet's update revision, current revision and ready replicas. -/
  stsStatus : Option (String × String × Int) := none
  deriving DecidableEq

/-- The status that the controller reports. -/
def StatefulSet.withStatus (sts : StatefulSet) (status : String × String × Int) : StatefulSet :=
  { sts with
    updateRevision := status.1
    currentRevision := status.2.1
    readyReplicas := status.2.2 }

/-- The StatefulSet without its status. -/
def StatefulSet.template (sts : StatefulSet) : StatefulSet :=
  sts.withStatus ("", "", 0)

/-- The world after a change by others. -/
def World.drift (change : Drift) (w : World) : World :=
  { w with
    now := w.now + change.elapsed
    cr := { w.cr with
      spec := { change.spec.getD w.cr.spec with mode := w.cr.spec.mode }
      annotations := change.annotations.getD w.cr.annotations
      deleting := w.cr.deleting || change.delete }
    gone := w.gone || (change.delete && !w.cr.finalizer)
    sts := match change.stsStatus with
      | some status => w.sts.map fun sts => sts.withStatus status
      | none => w.sts
    pods := change.pods.getD w.pods
    pvcs := change.pvcs.getD w.pvcs }

/-- Others act while the pass runs. -/
def meanwhile (change : Drift) : Proc World Unit :=
  .write (World.drift change)

/-- The parts of the world that invariants speak about. -/
inductive Part
  | pods
  | sts
  | pvcs
  | stored
  | identity
  | dispatch
  | watchdog
  | resize
  | latch
  | lastState
  deriving DecidableEq

/-- The stored field is unchanged; the copy's is unchanged or read back from it. -/
def Carried {β : Type} (field : CR → β) (before after : World) : Prop :=
  field after.cr = field before.cr ∧
    (field after.v = field before.v ∨ field after.v = field after.cr)

/-- The working copy is a copy of the stored resource. -/
def World.Fetched (w : World) : Prop :=
  w.v.identity = w.cr.identity

/-- What it means that a part is kept. -/
def Part.Kept (before after : World) : Part → Prop
  | .pods => after.pods = before.pods
  | .sts => after.sts.map StatefulSet.template = before.sts.map StatefulSet.template
  | .pvcs => after.pvcs = before.pvcs
  | .stored => after.cr.finalizer = before.cr.finalizer ∧ after.gone = before.gone ∧
      Carried CR.spec before after
  | .identity => Carried CR.identity before after
  | .dispatch => Carried (fun cr => cr.status.failoverDispatch) before after
  | .watchdog => Carried (fun cr => cr.status.masterAware) before after
  | .resize => Carried (fun cr => cr.status.pvcResize) before after
  | .latch => after.mem.failoverLatch = before.mem.failoverLatch
  | .lastState => after.mem.lastState = before.mem.lastState

/-- Only the listed parts are touched, and only lines of the listed kinds written. -/
structure Frame (touched : List Part) (kinds : List Kind) (before after : World) : Prop where
  kept : ∀ part ∉ touched, part.Kept before after
  journal : ∃ lines, after.journal = lines ++ before.journal ∧ ∀ line ∈ lines, line.kind ∈ kinds
  clock : before.now ≤ after.now

variable {before middle : World}

theorem Carried.trans {β : Type} {field : CR → β} {after : World}
    (first : Carried field before middle) (second : Carried field middle after) :
    Carried field before after := by
  refine ⟨second.1.trans first.1, ?_⟩
  rcases second.2 with same | fresh
  · rcases first.2 with same' | fresh
    · exact .inl (same.trans same')
    · exact .inr (same.trans (fresh.trans second.1.symm))
  · exact .inr fresh

/-- A carried field that agreed with the stored one is unchanged. -/
theorem Carried.of_same {β : Type} {field : CR → β} {after : World}
    (carried : Carried field before after) (same : field before.v = field before.cr) :
    field after.v = field before.v := by
  rcases carried.2 with kept | fresh
  · exact kept
  · rw [fresh, carried.1, same]

private theorem Part.Kept.refl (w : World) (part : Part) : part.Kept w w := by
  cases part <;> simp [Part.Kept, Carried]

private theorem Part.Kept.trans {after : World} {part : Part} (first : part.Kept before middle)
    (second : part.Kept middle after) : part.Kept before after := by
  cases part with
  | pods | sts | pvcs | latch | lastState => exact Eq.trans second first
  | stored =>
      exact ⟨second.1.trans first.1, second.2.1.trans first.2.1, first.2.2.trans second.2.2⟩
  | identity | dispatch | watchdog | resize =>
      simp only [Part.Kept] at first second ⊢
      exact first.trans second

namespace Frame

variable {touched touched' : List Part} {kinds kinds' : List Kind}

instance : Std.Refl (Frame touched kinds) where
  refl w := ⟨fun part _ => .refl w part, ⟨[], rfl, by simp⟩, Nat.le_refl _⟩

instance : IsTrans World (Frame touched kinds) where
  trans := by
    rintro before middle after first second
    obtain ⟨lines, lines_eq, lines_kind⟩ := first.journal
    obtain ⟨lines', lines_eq', lines_kind'⟩ := second.journal
    refine ⟨fun part untouched => (first.kept part untouched).trans (second.kept part untouched),
      ⟨lines' ++ lines, by simp [lines_eq, lines_eq'], ?_⟩, Nat.le_trans first.clock second.clock⟩
    intro line mem
    rcases List.mem_append.mp mem with mem | mem
    · exact lines_kind' line mem
    · exact lines_kind line mem

theorem mono {after : World} (frame : Frame touched kinds before after)
    (parts : touched ⊆ touched' := by decide) (lines : kinds ⊆ kinds' := by decide) :
    Frame touched' kinds' before after where
  kept part untouched := frame.kept part fun mem => untouched (parts mem)
  journal := by
    obtain ⟨new, eq, kind⟩ := frame.journal
    exact ⟨new, eq, fun line mem => lines (kind line mem)⟩
  clock := frame.clock

theorem lines {after : World} (frame : Frame touched kinds before after)
    (sub : kinds ⊆ kinds' := by decide) : Frame touched kinds' before after :=
  frame.mono (List.Subset.refl _) sub

end Frame

/-- Whatever stays within this footprint is related. -/
def Tolerates (touched : List Part) (kinds : List Kind) (relation : World → World → Prop) : Prop :=
  ∀ before after, Frame touched kinds before after → relation before after

theorem Tolerates.within {touched touched' : List Part} {kinds kinds' : List Kind}
    {relation : World → World → Prop} {α : Type} {proc : Proc World α}
    (tolerates : Tolerates touched' kinds' relation)
    (within : Within (Frame touched kinds) proc) (parts : touched ⊆ touched' := by decide)
    (lines : kinds ⊆ kinds' := by decide) : Within relation proc :=
  within.mono fun before after frame => tolerates before after (frame.mono parts lines)

section Requests

variable {touched : List Part} {kinds : List Kind}

theorem World.memory_frame (w : World) (mem : Memory)
    (latch : mem.failoverLatch = w.mem.failoverLatch) (state : mem.lastState = w.mem.lastState) :
    Frame touched kinds w { w with mem } := by
  refine ⟨fun part _ => ?_, ⟨[], rfl, by simp⟩, Nat.le_refl _⟩
  cases part with
  | latch => exact latch
  | lastState => exact state
  | _ => simp [Part.Kept, Carried]

theorem World.note_frame {line : Entry} (kind : line.kind ∈ kinds) (w : World) :
    Frame touched kinds w (w.note line) := by
  refine ⟨fun part _ => ?_, ⟨[line], rfl, by simpa using kind⟩, Nat.le_refl _⟩
  cases part <;> simp [Part.Kept, Carried]

theorem logHere_within {line : World → Entry} (kind : ∀ w, (line w).kind ∈ kinds) :
    Within (Frame touched kinds) (logHere line) :=
  .write fun w => w.note_frame (kind w)

theorem log_within {line : Entry} (kind : line.kind ∈ kinds) :
    Within (Frame touched kinds) (log line) :=
  logHere_within fun _ => kind

theorem World.observe_frame (obs : Obs) (w : World) : Frame [] [.observed] w (w.observe obs) := by
  refine ⟨fun part _ => ?_, ⟨[_], rfl, by simp [Entry.kind]⟩, Nat.le_add_right _ _⟩
  cases part <;> simp [Part.Kept, Carried, World.observe]

theorem readSnapshot_within {obs : Obs} (kind : .observed ∈ kinds) :
    Within (Frame touched kinds) (readSnapshot obs) :=
  .bind (.write fun w => (w.observe_frame obs).mono (List.nil_subset _) (by simpa using kind))
    fun _ => .pure _

private theorem Status.patched_failoverDispatch {base target stored : Status}
    (same : target.failoverDispatch = base.failoverDispatch) :
    (base.patched target stored).failoverDispatch = stored.failoverDispatch := by
  simp [Status.patched, Status.wire, same]

theorem Status.patched_masterAware {base target stored : Status}
    (same : target.masterAware = base.masterAware) :
    (base.patched target stored).masterAware = stored.masterAware := by
  simp [Status.patched, Status.wire, same]

private theorem Status.patched_pvcResize {base target stored : Status}
    (same : target.pvcResize = base.pvcResize) :
    (base.patched target stored).pvcResize = stored.pvcResize := by
  simp [Status.patched, Status.wire, same]

section Patch

variable {update : Status → Status} {refresh : Refresh} {reply : Reply} {notes : List Entry}
  (dispatch : .dispatch ∉ touched →
    ∀ status, (update status).failoverDispatch = status.failoverDispatch)
  (watchdog : .watchdog ∉ touched → ∀ status, (update status).masterAware = status.masterAware)
  (resize : .resize ∉ touched → ∀ status, (update status).pvcResize = status.pvcResize)
  (lines : ∀ line ∈ notes, line.kind ∈ kinds)

include dispatch watchdog resize lines

/-- A patch touches the status fields its update changes and no others. -/
theorem World.patchStatus_frame (w : World) :
    Frame touched kinds w (w.patchStatus update refresh notes) := by
  refine ⟨fun part untouched => ?_, ⟨notes, rfl, lines⟩, Nat.le_refl _⟩
  cases part with
  | pods | sts | pvcs | latch | lastState => rfl
  | stored | identity =>
      cases refresh <;> simp [Part.Kept, Carried, World.patchStatus, Refresh.apply, CR.identity]
  | dispatch =>
      cases refresh <;>
        simp [Part.Kept, Carried, World.patchStatus, Refresh.apply,
          Status.patched_failoverDispatch (dispatch untouched _)]
  | watchdog =>
      cases refresh <;>
        simp [Part.Kept, Carried, World.patchStatus, Refresh.apply,
          Status.patched_masterAware (watchdog untouched _)]
  | resize =>
      cases refresh <;>
        simp [Part.Kept, Carried, World.patchStatus, Refresh.apply,
          Status.patched_pvcResize (resize untouched _)]

theorem patchStatus_within :
    Within (Frame touched kinds) (patchStatus update refresh reply notes) :=
  .bind (.read _) fun _ => .ite (.pure _) (.ite (.bind
    (.write (World.patchStatus_frame dispatch watchdog resize lines)) fun _ => .pure _) (.pure _))

end Patch

@[simp]
theorem StatefulSet.template_withStatus (sts : StatefulSet) (status : String × String × Int) :
    (sts.withStatus status).template = sts.template := rfl

theorem World.drift_frame (change : Drift) (w : World) :
    Frame [.pods, .pvcs, .stored] [] w (w.drift change) := by
  refine ⟨fun part untouched => ?_, ⟨[], rfl, by simp⟩, Nat.le_add_right _ _⟩
  cases part with
  | pods | pvcs | stored => simp at untouched
  | latch | lastState => rfl
  | identity | dispatch | watchdog | resize => exact ⟨rfl, .inl rfl⟩
  | sts =>
      simp only [Part.Kept, World.drift]
      split
      · simp [Function.comp_def]
      · rfl

theorem meanwhile_within {change : Drift} (parts : [.pods, .pvcs, .stored] ⊆ touched) :
    Within (Frame touched kinds) (meanwhile change) :=
  .write fun w => (w.drift_frame change).mono parts (List.nil_subset _)

end Requests

end Velkir
