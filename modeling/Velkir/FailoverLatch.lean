import Velkir.Api

/-!
# The failover latch and its durable marker

A dispatched failover is remembered by a latch in memory and by a marker in the status, from which
Phase 7 rebuilds it.
-/

namespace Velkir

open Crash Proc

/-- How long a latch holds. -/
def failoverInFlightLatchTTL : Nat := 210 * second

/-- How long a rejected failover is held off. -/
def nogoodslaveCooldownTTL : Nat := 15 * second

/-- The latch still holds the critical section against an observed primary. -/
def Latch.active (latch : Latch) (now : Nat) (observedAddr : String) (observedEpoch : Int) :
    Bool :=
  if latch.deadline < now then false
  else if observedAddr ≠ "" ∧ observedAddr ≠ latch.preStripAddr then
    0 < latch.preStripEpoch ∧ observedEpoch < latch.preStripEpoch
  else true

theorem Latch.active_iff {latch : Latch} {now : Nat} {addr : String} {epoch : Int} :
    latch.active now addr epoch = true ↔ now ≤ latch.deadline ∧ ¬latch.Superseded addr epoch := by
  unfold Latch.active Latch.Superseded
  split
  · simp only [Bool.false_eq_true, false_iff]
    omega
  · have intime : now ≤ latch.deadline := by omega
    split
    · rename_i moved
      simp [intime, moved.1, moved.2]
    · rename_i unmoved
      simp only [true_iff]
      exact ⟨intime, fun superseded => unmoved ⟨superseded.1, superseded.2.1⟩⟩

/-- The line records an observation that ends the latch. -/
def Entry.supersedes (latch : Latch) : Entry → Bool
  | .observed addr epoch => latch.Superseded addr epoch
  | _ => false

/-- The latch the marker stands for, if it has a deadline. -/
def FailoverDispatch.latch (marker : FailoverDispatch) : Option Latch :=
  marker.deadline.map fun deadline =>
    { preStripAddr := marker.preStripAddr, deadline, preStripEpoch := marker.preStripEpoch }

/-- The latch in memory holds against an observed primary. -/
def World.latchActive (w : World) (observedAddr : String) (observedEpoch : Int) : Bool :=
  match w.mem.failoverLatch with
  | some latch => latch.active w.now observedAddr observedEpoch
  | none => false

@[simp]
theorem World.latchActive_note (line : Entry) (w : World) :
    (w.note line).latchActive = w.latchActive := rfl

/-- The world with this latch. -/
def World.setLatch (latch : Option Latch) (w : World) : World :=
  { w with mem.failoverLatch := latch }

/-- Whether the latch holds; a latch that no longer does is dropped. -/
def failoverLatchActive (observedAddr : String) (observedEpoch : Int) : Proc World Bool := do
  match ← .read fun w => w.mem.failoverLatch with
  | none => return false
  | some _ =>
      if ← .read fun w => w.latchActive observedAddr observedEpoch then return true
      .write (World.setLatch none)
      return false

/-- The latch holds, or the last pass derived a failover; nothing is dropped. -/
def isFailoverInFlight (site : Site) (obs : Obs) : Proc World Bool := do
  let snap ← readSnapshot obs
  let answer ← .read fun w =>
    w.latchActive snap.addr snap.epoch || w.mem.lastState == some .failoverInFlight
  logHere fun w => .consulted site answer w.cr.status.failoverDispatch w.now
  return answer

/-- Patch the status through the working copy, which keeps even a failed change. -/
def patchInPlace (update : Status → Status) (reply : Reply) : Proc World Unit := do
  let answer ← patchStatus update .object reply []
  if answer ≠ .ok then .write fun w => { w with v.status := update w.v.status }

/-- The status with a dispatch record. -/
def Status.dispatching (preStripAddr : String) (preStripEpoch : Int) (deadline : Nat)
    (status : Status) : Status :=
  { status with
    failoverDispatch := some { preStripAddr, preStripEpoch, deadline := some deadline } }

/-- Write the durable marker; a refused one leaves the working copy. -/
def persistFailoverDispatch (preStripAddr : String) (preStripEpoch : Int) (deadline : Nat)
    (reply : Reply) : Proc World Bool := do
  let answer ← patchStatus (.dispatching preStripAddr preStripEpoch deadline) .object reply
    [.persisted]
  return answer = .ok

/-- Drop the durable marker, best effort. -/
def clearFailoverDispatch (reply : Reply) : Proc World Unit := do
  match ← .read fun w => w.v.status.failoverDispatch with
  | none => return
  | some _ => patchInPlace (fun status => { status with failoverDispatch := none }) reply

/-- The world with a latch rebuilt from an unexpired marker, if it has none. -/
def World.rehydrate (marker : FailoverDispatch) (w : World) : World :=
  { w with
    mem.failoverLatch := w.mem.failoverLatch <|>
      marker.latch.filter fun latch => w.now < latch.deadline
    journal := .maintained :: w.journal }

/-- Rebuild the latch after a restart; drop the marker once it is over. -/
def maintainFailoverDispatchMarker (obs : Obs) (reply : Reply) : Proc World Unit := do
  match ← .read fun w => w.v.status.failoverDispatch with
  | none => log .maintained
  | some marker =>
      let snap ← readSnapshot obs
      .write (World.rehydrate marker)
      if !(← failoverLatchActive snap.addr snap.epoch) then clearFailoverDispatch reply

variable {reply : Reply} {obs : Obs} {deadline : Nat}

section Rules

variable {along : World → Prop} {w : World}

@[simp]
theorem World.setLatch_self (w : World) (empty : w.mem.failoverLatch = none) :
    w.setLatch none = w := by
  simp only [World.setLatch, ← empty]

variable {post : Bool → World → Prop}

/-- The latch test keeps the world, or drops the latch when it fails. -/
theorem failoverLatchActive_wp {addr : String} {epoch : Int}
    (holds : w.latchActive addr epoch = true → post true w)
    (ended : w.latchActive addr epoch = false →
      along (w.setLatch none) ∧ post false (w.setLatch none)) :
    (failoverLatchActive addr epoch).wp along post w := by
  unfold failoverLatchActive
  simp only [wp_bind, wp_read]
  cases latch : w.mem.failoverLatch with
  | none =>
      have inactive : w.latchActive addr epoch = false := by simp [World.latchActive, latch]
      have result := (ended inactive).2
      rw [w.setLatch_self latch] at result
      simpa using result
  | some held =>
      cases active : w.latchActive addr epoch with
      | true => simpa [active] using holds active
      | false => simpa [active] using ended active

theorem persistFailoverDispatch_wp {addr : String} {epoch : Int} (refused : post false w)
    (written : let done := w.patchStatus (.dispatching addr epoch deadline) .object [.persisted]
      along done ∧ post true done) :
    (persistFailoverDispatch addr epoch deadline reply).wp along post w := by
  unfold persistFailoverDispatch patchStatus
  simp only [wp_bind, wp_read, wp_ite, wp_pure, wp_write]
  refine ⟨fun _ => refused, fun _ => ⟨fun _ => written, fun failed => ?_⟩⟩
  simpa [failed] using refused

/-- With a marker, maintenance rebuilds the latch, or drops both. -/
theorem maintainFailoverDispatchMarker_wp {post : Unit → World → Prop}
    (absent : w.v.status.failoverDispatch = none →
      along (w.note .maintained) ∧ post () (w.note .maintained))
    (present : ∀ marker, w.v.status.failoverDispatch = some marker →
      let seen := (w.observe obs).rehydrate marker
      along (w.observe obs) ∧ along seen ∧
        (seen.latchActive obs.snap.addr obs.snap.epoch = true → post () seen) ∧
        (seen.latchActive obs.snap.addr obs.snap.epoch = false → along (seen.setLatch none) ∧
          (clearFailoverDispatch reply).wp along post (seen.setLatch none))) :
    (maintainFailoverDispatchMarker obs reply).wp along post w := by
  unfold maintainFailoverDispatchMarker
  simp only [wp_bind, wp_read]
  cases found : w.v.status.failoverDispatch with
  | none => simpa [log] using absent found
  | some marker =>
      obtain ⟨observed, rebuilt, active, ended⟩ := present marker found
      simp only [readSnapshot, wp_bind, wp_write, wp_pure]
      refine ⟨observed, rebuilt, failoverLatchActive_wp (fun holds => ?_) fun inactive => ?_⟩
      · simpa using active holds
      · simpa using ended inactive

theorem failoverLatchActive_value (addr : String) (epoch : Int) (w : World) :
    ((failoverLatchActive addr epoch).run w).value = w.latchActive addr epoch :=
  have holds : (failoverLatchActive addr epoch).wp (fun _ => True)
      (fun value _ => value = w.latchActive addr epoch) w :=
    failoverLatchActive_wp Eq.symm fun ended => ⟨trivial, ended.symm⟩
  holds.2

end Rules

/-- The world's clock and latch after the marker was reconciled. -/
def World.maintained (obs : Obs) (w : World) : World :=
  match w.v.status.failoverDispatch with
  | none => w
  | some marker =>
      let seen := (w.observe obs).rehydrate marker
      if seen.latchActive obs.snap.addr obs.snap.epoch then seen else seen.setLatch none

/-- Apart from the journal and the resource's status, nothing changed. -/
structure StatusOnly (before after : World) : Prop where
  now : after.now = before.now
  mem : after.mem = before.mem
  pods : after.pods = before.pods
  identity : Carried CR.identity before after

instance : Std.Refl StatusOnly where
  refl _ := ⟨rfl, rfl, rfl, ⟨rfl, .inl rfl⟩⟩

instance : IsTrans World StatusOnly where
  trans _ _ _ first second :=
    ⟨second.now.trans first.now, second.mem.trans first.mem, second.pods.trans first.pods,
      first.identity.trans second.identity⟩

/-- The marker is dropped or left alone, and otherwise nothing changed. -/
structure MarkerCleared (before after : World) : Prop extends StatusOnly before after where
  journal : after.journal = before.journal
  stored : after.cr.status.failoverDispatch = none ∨
    after.cr.status.failoverDispatch = before.cr.status.failoverDispatch
  working : after.v.status.failoverDispatch = none

theorem clearFailoverDispatch_cleared (reply : Reply) :
    Within MarkerCleared (clearFailoverDispatch reply) := by
  intro w
  have dropped : ∀ {marker}, w.v.status.failoverDispatch = some marker → MarkerCleared w
      (w.patchStatus (fun status => { status with failoverDispatch := none }) .object []) := by
    intro marker found
    have gone : (w.patchStatus (fun status => { status with failoverDispatch := none }) .object
        []).cr.status.failoverDispatch = none := by
      simp [World.patchStatus, Status.patched, Status.wire, found, MergePatch.merge,
        MergePatch.mergeOption]
    exact ⟨⟨rfl, rfl, rfl, ⟨rfl, .inr rfl⟩⟩, rfl, .inl gone, gone⟩
  have kept : MarkerCleared w { w with v.status.failoverDispatch := none } :=
    ⟨⟨rfl, rfl, rfl, ⟨rfl, .inl rfl⟩⟩, rfl, .inr rfl, rfl⟩
  unfold clearFailoverDispatch patchInPlace patchStatus
  simp only [wp_bind, wp_read]
  cases found : w.v.status.failoverDispatch with
  | none => exact wp_pure.mpr ⟨Std.Refl.refl w, rfl, .inr rfl, found⟩
  | some marker =>
      simp only [wp_bind, wp_read, wp_ite, wp_write, wp_pure]
      exact ⟨fun _ => ⟨fun _ => ⟨kept, kept⟩, by simp⟩, fun _ => ⟨fun _ =>
        ⟨dropped found, by simp, fun _ => dropped found⟩, fun failed =>
          ⟨fun _ => ⟨kept, kept⟩, fun ok => absurd (not_not.mp ok) failed⟩⟩⟩

/-- Maintenance leaves the latch of `World.maintained` and touches the status. -/
theorem maintainFailoverDispatchMarker_final (obs : Obs) (reply : Reply) (w : World) :
    (maintainFailoverDispatchMarker obs reply).wp (fun _ => True)
      (fun _ final => StatusOnly (w.maintained obs) final) w := by
  have same : ∀ line, StatusOnly w (w.note line) := fun _ => ⟨rfl, rfl, rfl, ⟨rfl, .inl rfl⟩⟩
  refine maintainFailoverDispatchMarker_wp (fun absent => ⟨trivial, ?_⟩) fun marker present =>
    ⟨trivial, trivial, fun holds => ?_, fun ended => ⟨trivial, ?_⟩⟩
  · simpa [World.maintained, absent] using same _
  · simpa [World.maintained, present, holds] using Std.Refl.refl _
  · simpa [World.maintained, present, ended] using wp_mono
      (clearFailoverDispatch_cleared reply _) (fun _ _ => trivial) fun _ _ kept => kept.toStatusOnly

section Footprint

variable {touched : List Part} {kinds : List Kind}

theorem World.setLatch_frame (latch : Option Latch) (w : World) :
    Frame [.latch] [] w (w.setLatch latch) := by
  refine ⟨fun part untouched => ?_, ⟨[], rfl, by simp⟩, Nat.le_refl _⟩
  cases part with
  | latch => simp at untouched
  | _ => simp [Part.Kept, Carried, World.setLatch]

theorem World.rehydrate_frame (marker : FailoverDispatch) (w : World) :
    Frame [.latch] [.maintained] w (w.rehydrate marker) := by
  refine ⟨fun part untouched => ?_, ⟨[.maintained], rfl, by decide⟩, Nat.le_refl _⟩
  cases part with
  | latch => simp at untouched
  | _ => simp [Part.Kept, Carried, World.rehydrate]

theorem failoverLatchActive_within {addr : String} {epoch : Int} (latch : .latch ∈ touched) :
    Within (Frame touched kinds) (failoverLatchActive addr epoch) := by
  intro w
  have frame : Frame touched kinds w (w.setLatch none) :=
    (w.setLatch_frame none).mono (by simpa using latch) (List.nil_subset _)
  exact failoverLatchActive_wp (fun _ => Std.Refl.refl w) fun _ => ⟨frame, frame⟩

private theorem isFailoverInFlight_within {site : Site} (observed : .observed ∈ kinds)
    (consulted : .consulted ∈ kinds) :
    Within (Frame touched kinds) (isFailoverInFlight site obs) := by
  exact .bind (readSnapshot_within observed) fun snap => .bind (.read _) fun answer =>
    .bind (logHere_within fun _ => consulted) fun _ => .pure _

theorem isFailoverInFlight_frame (site : Site) (obs : Obs) :
    Within (Frame [] [.observed, .consulted]) (isFailoverInFlight site obs) :=
  isFailoverInFlight_within (by decide) (by decide)

theorem patchInPlace_within {update : Status → Status} (dispatch : .dispatch ∉ touched →
      ∀ status, (update status).failoverDispatch = status.failoverDispatch)
    (watchdog : .watchdog ∉ touched → ∀ status, (update status).masterAware = status.masterAware)
    (resize : .resize ∉ touched → ∀ status, (update status).pvcResize = status.pvcResize) :
    Within (Frame touched kinds) (patchInPlace update reply) := by
  refine .bind (patchStatus_within dispatch watchdog resize (by simp)) fun _ =>
    .ite (.write fun w => ⟨fun part untouched => ?_, ⟨[], rfl, by simp⟩, Nat.le_refl _⟩) (.pure _)
  cases part with
  | dispatch => simp [Part.Kept, Carried, dispatch untouched]
  | watchdog => simp [Part.Kept, Carried, watchdog untouched]
  | resize => simp [Part.Kept, Carried, resize untouched]
  | _ => simp [Part.Kept, Carried, CR.identity]

theorem persistFailoverDispatch_within {addr : String} {epoch : Int}
    (dispatch : .dispatch ∈ touched) (persisted : .persisted ∈ kinds) :
    Within (Frame touched kinds) (persistFailoverDispatch addr epoch deadline reply) :=
  .bind (patchStatus_within (fun untouched => absurd dispatch untouched) (fun _ _ => rfl)
    (fun _ _ => rfl) (by simpa [Entry.kind] using persisted)) fun _ => .pure _

theorem clearFailoverDispatch_within (dispatch : .dispatch ∈ touched) :
    Within (Frame touched kinds) (clearFailoverDispatch reply) := by
  refine .bind (.read _) fun marker => ?_
  cases marker with
  | none => exact .pure _
  | some _ =>
      exact patchInPlace_within (fun untouched => absurd dispatch untouched) (fun _ _ => rfl)
        fun _ _ => rfl

theorem maintainFailoverDispatchMarker_within (dispatch : .dispatch ∈ touched)
    (latch : .latch ∈ touched) (observed : .observed ∈ kinds) (maintained : .maintained ∈ kinds) :
    Within (Frame touched kinds) (maintainFailoverDispatchMarker obs reply) := by
  refine .bind (.read _) fun marker => ?_
  cases marker with
  | none => exact log_within maintained
  | some marker =>
      exact .bind (readSnapshot_within observed) fun snap => .bind (.write fun w =>
        (w.rehydrate_frame marker).mono (by simpa using latch) (by simpa using maintained)) fun _ =>
          .bind (failoverLatchActive_within latch) fun _ =>
            .ite (clearFailoverDispatch_within dispatch) (.pure _)

end Footprint

end Velkir
