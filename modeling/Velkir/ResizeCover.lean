import Velkir.ResizeAbort

/-!
# Growing again while a resize is under way

The size in the spec is read anew in every pass, while the record remembers how far the claims got
for an earlier one.
-/

namespace Velkir

open Crash Proc History

/-- The phases after the claims were patched. -/
def isPastPatch : PVCResizePhase → Bool
  | .pvcsPatched | .stsRecreated | .verified => true
  | _ => false

/-- Every claim requests at least this size. -/
def Covers (size : Nat) (pvcs : List PVC) : Prop :=
  ∀ pvc ∈ pvcs, size ≤ pvc.request

/-- Phase 4 last started with this size in the spec and these claims. -/
def Found (desired : Nat) (pvcs : List PVC) : List Entry → Prop :=
  Since (fun line => line.kind ≠ .sizing) fun line => line = .sizing (some desired) pvcs

/-- The last patch was to this size. -/
def PatchedTo (size : Nat) (pvcs : List PVC) : List Entry → Prop :=
  Since (fun line => line.kind ≠ .patched) fun line => line = .patched size pvcs

/-- Every claim is one of the earlier ones and requests no less than it did. -/
def Descends (earlier later : List PVC) : Prop :=
  ∀ pvc ∈ later, ∃ old ∈ earlier, old.name = pvc.name ∧ old.request ≤ pvc.request

/-- Since the patch the size was not raised, and no claim was added or shrank. -/
def Undisturbed (desired : Nat) (pvcs : List PVC) (journal : List Entry) : Prop :=
  ∀ size patched, PatchedTo size patched journal → desired ≤ size ∧ Descends patched pvcs

/-- Past its patch a resize goes on over claims that cover the size. -/
structure DrivesCovered (line : Entry) (before : List Entry) : Prop where
  driving : ∀ phase, line = .driving phase → isPastPatch phase = true →
    ∃ desired pvcs, Found desired pvcs before ∧
      (Undisturbed desired pvcs before → Covers desired pvcs)
  complete : ∀ size, line = .event (.pvcResizeComplete size) →
    ∃ pvcs, Found size pvcs before ∧ (Undisturbed size pvcs before → Covers size pvcs)

private def PatchCovers (line : Entry) (_ : List Entry) : Prop :=
  ∀ size pvcs, line = .patched size pvcs → Covers size pvcs

/-- The claims have been patched at some time. -/
def WasPatched (journal : List Entry) : Prop :=
  ∃ size pvcs, PatchedTo size pvcs journal

/-- The phase in the record. -/
def Status.resizePhase (status : Status) : PVCResizePhase :=
  (status.pvcResize.map PVCResize.phase).getD .unset

/-- A stored record past the patch was preceded by one. -/
structure Traced (w : World) : Prop where
  drives : Always DrivesCovered w.journal
  covers : Always PatchCovers w.journal
  stored : isPastPatch w.cr.status.resizePhase = true → WasPatched w.journal

/-- So was that of the working copy. -/
structure TracedCopy (w : World) : Prop extends Traced w where
  working : isPastPatch w.v.status.resizePhase = true → WasPatched w.journal

section History

variable {journal : List Entry} {desired : Nat} {pvcs : List PVC}

theorem WasPatched.cons (patched : WasPatched journal) (line : Entry) :
    WasPatched (line :: journal) := by
  obtain ⟨size, pvcs, since⟩ := patched
  by_cases kind : line.kind = .patched
  · cases line with
    | patched size pvcs => exact ⟨size, pvcs, .start rfl⟩
    | event event => cases event <;> simp [Entry.kind] at kind
    | _ => simp [Entry.kind] at kind
  · exact ⟨size, pvcs, .later kind since⟩

theorem WasPatched.append (patched : WasPatched journal) (lines : List Entry) :
    WasPatched (lines ++ journal) := by
  induction lines with
  | nil => exact patched
  | cons line lines ih => exact ih.cons line

variable {touched : List Part} {kinds : List Kind}

theorem WasPatched.of_frame {before after : World} (frame : Frame touched kinds before after)
    (patched : WasPatched before.journal) : WasPatched after.journal := by
  obtain ⟨lines, journal, -⟩ := frame.journal
  exact journal ▸ patched.append lines

private theorem PatchedTo.covers {size : Nat} (patched : PatchedTo size pvcs journal)
    (covers : Always PatchCovers journal) : Covers size pvcs := by
  induction patched with
  | start here => exact (always_cons.mp covers).1 _ _ here
  | later _ _ ih => exact ih (always_cons.mp covers).2

private theorem WasPatched.covers_of_undisturbed (patched : WasPatched journal)
    (covers : Always PatchCovers journal) (undisturbed : Undisturbed desired pvcs journal) :
    Covers desired pvcs := by
  obtain ⟨size, earlier, since⟩ := patched
  obtain ⟨kept, descends⟩ := undisturbed size earlier since
  intro pvc mem
  obtain ⟨old, listed, -, grew⟩ := descends pvc mem
  exact Nat.le_trans kept (Nat.le_trans (since.covers covers old listed) grew)

theorem Found.of_frame {before after : World} (frame : Frame touched kinds before after)
    (lines : .sizing ∉ kinds) (found : Found desired pvcs before.journal) :
    Found desired pvcs after.journal := by
  obtain ⟨new, journal, kind⟩ := frame.journal
  rw [journal]
  exact Since.append (fun line mem sizing => lines (sizing ▸ kind line mem)) found

theorem drivesCovered_of_kind {line : Entry} (kind : line.kind ≠ .driving ∧ line.kind ≠ .completed)
    (before : List Entry) : DrivesCovered line before := by
  constructor
  · rintro phase rfl
    exact absurd rfl kind.1
  · rintro size rfl
    exact absurd rfl kind.2

theorem patchCovers_of_kind {line : Entry} (kind : line.kind ≠ .patched) (before : List Entry) :
    PatchCovers line before := by
  rintro size pvcs rfl
  exact absurd rfl kind

end History

section Frames

variable {touched : List Part} {kinds : List Kind}

theorem traced_tolerates (record : .resize ∉ touched := by decide)
    (lines : .driving ∉ kinds ∧ .completed ∉ kinds ∧ .patched ∉ kinds := by decide) :
    Tolerates touched kinds (Keeps Traced) := by
  intro before after frame traced
  obtain ⟨same, -⟩ : Carried (fun cr => cr.status.pvcResize) before after :=
    frame.kept .resize record
  have phase : after.cr.status.resizePhase = before.cr.status.resizePhase := by
    simp only at same
    rw [Status.resizePhase, same, Status.resizePhase]
  refine ⟨always_tolerates (fun line mem => drivesCovered_of_kind ?_) _ _ frame traced.drives,
    always_tolerates (fun line mem => patchCovers_of_kind ?_) _ _ frame traced.covers,
    fun past => (traced.stored (phase ▸ past)).of_frame frame⟩
  · exact ⟨fun kind => lines.1 (kind ▸ mem), fun kind => lines.2.1 (kind ▸ mem)⟩
  · exact fun kind => lines.2.2 (kind ▸ mem)

theorem tracedCopy_tolerates (record : .resize ∉ touched := by decide)
    (lines : .driving ∉ kinds ∧ .completed ∉ kinds ∧ .patched ∉ kinds := by decide) :
    Tolerates touched kinds (Keeps TracedCopy) := by
  intro before after frame traced
  obtain ⟨same, copy⟩ : Carried (fun cr => cr.status.pvcResize) before after :=
    frame.kept .resize record
  refine ⟨traced_tolerates record lines _ _ frame traced.toTraced, fun past => ?_⟩
  simp only at same copy
  rcases copy with copy | copy
  · refine (traced.working ?_).of_frame frame
    rwa [Status.resizePhase, copy] at past
  · refine (traced.stored ?_).of_frame frame
    rwa [Status.resizePhase, copy, same] at past

end Frames

private theorem merge_phase (base target stored : Option PVCResize) :
    let phase := fun record : Option PVCResize => (record.map PVCResize.phase).getD .unset
    phase (MergePatch.merge base target stored) = phase target ∨
      phase (MergePatch.merge base target stored) = phase stored := by
  rcases base with _ | base <;> rcases target with _ | target
  · exact .inr rfl
  · cases stored <;> exact MergePatch.replace_eq_target_or_stored _ _ _
  · exact .inl rfl
  · simp only [MergePatch.merge, MergePatch.mergeOption]
    split
    · exact .inr rfl
    · cases stored <;> exact MergePatch.replace_eq_target_or_stored _ _ _

private theorem Status.patched_resizePhase (base target stored : Status) :
    (base.patched target stored).resizePhase = target.resizePhase ∨
      (base.patched target stored).resizePhase = stored.resizePhase := by
  have wire : target.wire.resizePhase = target.resizePhase := by
    simp [Status.wire, Status.resizePhase, Function.comp_def]
  rw [← wire]
  exact merge_phase _ _ _

section Record

variable {w : World} (traced : TracedCopy w)

include traced

theorem TracedCopy.note {line : Entry}
    (kind : line.kind ≠ .driving ∧ line.kind ≠ .completed ∧ line.kind ≠ .patched) :
    TracedCopy (w.note line) := by
  refine tracedCopy_tolerates (by decide) ?_ _ _
    (World.note_frame List.mem_cons_self w : Frame [] [line.kind] _ _) traced
  exact ⟨by simpa using kind.1.symm, by simpa using kind.2.1.symm, by simpa using kind.2.2.symm⟩

/-- The record may be given a phase past the patch once there was a patch. -/
theorem TracedCopy.patchStatus {update : Status → Status}
    {notes : List Entry} (lines : ∀ line ∈ notes, line.kind = .resized)
    (sets : isPastPatch (update w.v.status).resizePhase = true → WasPatched w.journal) :
    TracedCopy (w.patchStatus update .status notes) := by
  have past : isPastPatch (w.v.status.patched (update w.v.status) w.cr.status).resizePhase = true →
      WasPatched (notes ++ w.journal) := by
    intro past
    refine .append ?_ notes
    rcases Status.patched_resizePhase w.v.status (update w.v.status) w.cr.status with same | same
    · exact sets (same ▸ past)
    · exact traced.stored (same ▸ past)
  refine ⟨⟨traced.drives.append fun line mem => drivesCovered_of_kind ?_,
    traced.covers.append fun line mem => patchCovers_of_kind ?_, past⟩, past⟩
  · simp [lines line mem]
  · simp [lines line mem]

theorem writePVCResizeStatus_traced {phase : PVCResizePhase} {reply : Reply}
    (sets : isPastPatch phase = true → WasPatched w.journal) :
    (writePVCResizeStatus phase reply).wp TracedCopy (fun _ => TracedCopy) w := by
  have entered : TracedCopy
      (w.patchStatus (Status.enterResize w.now phase) .status [.resized phase]) := by
    refine traced.patchStatus (by simp [Entry.kind]) fun past => sets ?_
    simpa [Status.enterResize, Status.resizePhase, nextResize_phase] using past
  exact writePVCResizeStatus_wp (fun _ => traced) (fun _ _ => ⟨entered, entered⟩)
    fun _ _ _ => traced

theorem clearPVCResizeStatus_traced {reply : Reply} :
    (clearPVCResizeStatus reply).wp TracedCopy (fun _ => TracedCopy) w := by
  have cleared : TracedCopy (w.patchStatus (fun status => { status with pvcResize := none })
      .status [.resized .unset]) := by
    refine traced.patchStatus (by simp [Entry.kind]) fun past => ?_
    simp [Status.resizePhase, isPastPatch] at past
  exact clearPVCResizeStatus_wp (fun _ => traced) (fun _ _ _ _ => ⟨cleared, cleared⟩)
    fun _ _ _ => traced

private theorem maybeEmitPVCStuckEvent_traced {reply : Reply} :
    (maybeEmitPVCStuckEvent reply).wp TracedCopy (fun _ => TracedCopy) w := by
  refine maybeEmitPVCStuckEvent_wp (fun _ _ => traced) fun resize held _ _ _ => ?_
  have stamped : TracedCopy (w.patchStatus (Status.stampStuck w.now) .status []) := by
    refine traced.patchStatus (by simp) fun past => traced.working ?_
    simpa [Status.resizePhase, Status.stampStuck, held] using past
  have reported := @TracedCopy.note _ stamped (.event (.pvcExpansionStuck resize.phase))
    (by simp [Entry.kind])
  exact ⟨stamped, reported, reported⟩

end Record

section Transitions

variable {w : World} {desired : Nat} {input : PVCResizeInput}

private theorem patchClaims_covers (todo : List PVC)
    (left : ∀ pvc ∈ w.pvcs, desired ≤ pvc.request ∨ input.patchReply pvc.name = .notFound ∨
      pvc ∈ todo) :
    (patchClaims input desired todo).wp (fun _ => True)
      (fun transition final => transition = .advance .pvcsPatched →
        Covers desired (remainingClaims input desired final.pvcs)) w := by
  induction todo generalizing w with
  | nil =>
      refine wp_pure.mpr fun _ pvc mem => ?_
      obtain ⟨listed, kept⟩ := List.mem_filter.mp mem
      rcases left pvc listed with enough | gone | pending
      · exact enough
      · simpa [gone] using kept
      · simp at pending
  | cons pvc todo ih =>
      have rest : ∀ stored ∈ w.pvcs, stored = pvc ∨ desired ≤ stored.request ∨
          input.patchReply stored.name = .notFound ∨ stored ∈ todo := by
        intro stored listed
        rcases left stored listed with enough | gone | pending
        · exact .inr (.inl enough)
        · exact .inr (.inr (.inl gone))
        · exact (List.mem_cons.mp pending).imp_right fun later => .inr (.inr later)
      refine wp_ite.mpr ⟨fun enough => ih fun stored listed => ?_, fun small => ?_⟩
      · rcases rest stored listed with rfl | done
        · exact .inl enough
        · exact done
      · cases reply : input.patchReply pvc.name with
        | ok =>
            refine wp_bind.mpr (wp_write.mpr ⟨trivial, ih fun stored listed => ?_⟩)
            obtain ⟨old, present, rfl⟩ := List.mem_map.mp listed
            by_cases same : old.name = pvc.name
            · simp [same]
            · rw [if_neg same]
              exact (rest old present).resolve_left fun eq => same (eq ▸ rfl)
        | notFound =>
            refine ih fun stored listed => ?_
            rcases rest stored listed with rfl | done
            · exact .inr (.inl reply)
            · exact done
        | rejected | conflict | failed => exact wp_pure.mpr nofun

private theorem patchClaims_ends (todo : List PVC) :
    (patchClaims input desired todo).wp (fun _ => True)
      (fun transition _ => transition = .advance .pvcsPatched ∨ transition = .requeue ∨
        ∃ rejected, transition = .abort rejected) w := by
  induction todo generalizing w with
  | nil => exact wp_pure.mpr (.inl rfl)
  | cons pvc todo ih =>
      refine wp_ite.mpr ⟨fun _ => ih, fun _ => ?_⟩
      cases input.patchReply pvc.name with
      | ok => exact wp_bind.mpr (wp_write.mpr ⟨trivial, ih⟩)
      | notFound => exact ih
      | rejected => exact wp_pure.mpr (.inr (.inr ⟨_, rfl⟩))
      | conflict | failed => exact wp_pure.mpr (.inr (.inl rfl))

/-- A transition past the patch, or to the end, follows a patch. -/
structure Leads (transition : Transition) (w : World) : Prop extends TracedCopy w where
  advance : ∀ next, transition = .advance next → isPastPatch next = true → WasPatched w.journal
  complete : transition = .complete → WasPatched w.journal

variable (traced : TracedCopy w)

include traced

theorem leads_requeue : Leads .requeue w :=
  ⟨traced, nofun, nofun⟩

theorem leads_abort (rejected : Option String) : Leads (.abort rejected) w :=
  ⟨traced, nofun, nofun⟩

theorem leads_advance {next : PVCResizePhase}
    (patched : isPastPatch next = true → WasPatched w.journal) : Leads (.advance next) w :=
  ⟨traced, by rintro _ ⟨⟩; exact patched, nofun⟩

private theorem fromValidated_leads : (fromValidated input).wp TracedCopy Leads w := by
  have advance : ∀ {w}, TracedCopy w → Leads (.advance .stsOrphaned) w :=
    fun traced => leads_advance traced nofun
  refine fromValidated_wp (leads_requeue traced) (advance traced) fun sts => ?_
  have orphaned : TracedCopy { w with sts := none, journal := .orphaned sts :: w.journal } := by
    have noted := @TracedCopy.note _ traced (.orphaned sts) (by simp [Entry.kind])
    exact ⟨⟨noted.drives, noted.covers, noted.stored⟩, noted.working⟩
  exact ⟨orphaned, advance orphaned⟩

/-- The patch itself is recorded with claims that cover the size. -/
theorem fromStsOrphaned_leads : (fromStsOrphaned input desired).wp TracedCopy Leads w := by
  unfold fromStsOrphaned logHere
  simp only [wp_bind, wp_read, wp_ite, wp_pure, wp_write]
  refine ⟨fun _ => leads_requeue traced, fun _ => ⟨fun _ => leads_requeue traced, fun _ =>
    ⟨fun _ => leads_requeue traced, fun _ => ?_⟩⟩⟩
  have keeps : Within (Keeps TracedCopy) (patchClaims input desired w.pvcs) :=
    (patchClaims_within List.mem_cons_self w.pvcs : Within (Frame [.pvcs] []) _).mono
      tracedCopy_tolerates
  have ends := wp_and (keeps.wp traced) (wp_and
    (@patchClaims_covers w desired input w.pvcs fun _ listed => .inr (.inr listed))
    (patchClaims_ends w.pvcs))
  refine wp_mono ends (fun _ => And.left) ?_
  rintro transition middle ⟨traced, covers, rfl | rfl | ⟨rejected, rfl⟩⟩
  · refine ⟨fun _ => ?_, fun other => absurd rfl other⟩
    let line : Entry := .patched desired (remainingClaims input desired middle.pvcs)
    have patched : WasPatched (line :: middle.journal) := ⟨_, _, .start rfl⟩
    have noted : TracedCopy (middle.note line) := by
      refine ⟨⟨.cons (drivesCovered_of_kind (by simp [line, Entry.kind]) _) traced.drives,
        .cons ?_ traced.covers, fun _ => patched⟩, fun _ => patched⟩
      intro size pvcs eq
      obtain ⟨rfl, rfl⟩ := Entry.patched.inj eq
      exact covers rfl
    exact ⟨noted, leads_advance noted fun _ => patched⟩
  · exact ⟨by simp, fun _ => leads_requeue traced⟩
  · exact ⟨by simp, fun _ => leads_abort traced rejected⟩

private theorem fromPVCsPatched_leads (patched : WasPatched w.journal) :
    (fromPVCsPatched input desired).wp TracedCopy Leads w := by
  have noted : TracedCopy (w.note (.grown desired w.pvcs)) := traced.note (by simp [Entry.kind])
  exact fromPVCsPatched_wp (leads_requeue traced) (leads_abort traced _) fun _ _ =>
    ⟨noted, leads_advance noted fun _ => patched.cons _⟩

private theorem fromStsRecreated_leads (patched : WasPatched w.journal) :
    (fromStsRecreated input desired).wp TracedCopy Leads w :=
  fromStsRecreated_wp (leads_requeue traced) (leads_advance traced fun _ => patched)

private theorem fromVerified_leads (patched : WasPatched w.journal) :
    (fromVerified input).wp TracedCopy Leads w :=
  fromVerified_wp (leads_requeue traced) ⟨traced, nofun, fun _ => patched⟩

private theorem transitionFrom_leads {phase : PVCResizePhase}
    (patched : isPastPatch phase = true → WasPatched w.journal) :
    (transitionFrom input desired phase).wp TracedCopy Leads w := by
  cases phase with
  | validated => exact fromValidated_leads traced
  | stsOrphaned => exact fromStsOrphaned_leads traced
  | pvcsPatched => exact fromPVCsPatched_leads traced (patched rfl)
  | stsRecreated => exact fromStsRecreated_leads traced (patched rfl)
  | verified => exact fromVerified_leads traced (patched rfl)
  | _ => exact wp_pure.mpr (leads_requeue traced)

end Transitions

section Phase

variable {w : World} {desired : Nat} {pvcs : List PVC} {input : PVCResizeInput}
  (traced : TracedCopy w)

include traced

/-- Driving a phase entered by way of a patch keeps the history right. -/
theorem drivePVCResize_traced {phase : PVCResizePhase} (found : Found desired pvcs w.journal)
    (patched : isPastPatch phase = true → WasPatched w.journal) :
    (drivePVCResize input phase desired).wp TracedCopy (fun _ => TracedCopy) w := by
  have line : DrivesCovered (.driving phase) w.journal := by
    refine ⟨?_, by simp⟩
    rintro _ ⟨⟩ past
    exact ⟨desired, pvcs, found, (patched past).covers_of_undisturbed traced.covers⟩
  have noted : TracedCopy (w.note (.driving phase)) :=
    ⟨⟨.cons line traced.drives, .cons (patchCovers_of_kind (by simp [Entry.kind]) _) traced.covers,
      fun past => (traced.stored past).cons _⟩, fun past => (traced.working past).cons _⟩
  have frame : Within (Frame [.sts, .pvcs] [.orphaned, .grown, .patched, .driving])
      (transitionFrom input desired phase) :=
    transitionFrom_keeps (fun sts w => (orphan_frame sts w).mono) fun _ _ frame => frame.mono
  have transition := wp_and
    (@transitionFrom_leads _ desired input noted phase fun past => (patched past).cons _) (frame _)
  unfold drivePVCResize
  rw [wp_bind, log, wp_write, wp_bind]
  refine ⟨noted, wp_mono transition (fun _ => And.left) ?_⟩
  rintro taken middle ⟨leads, grows⟩
  unfold recordTransition
  cases taken with
  | advance next => exact writePVCResizeStatus_traced leads.toTracedCopy (leads.advance next rfl)
  | requeue => exact wp_pure.mpr leads.toTracedCopy
  | abort rejected =>
      have aborted := @TracedCopy.note _ leads.toTracedCopy (.event (abortEvent rejected))
        (by cases rejected <;> simp [abortEvent, Entry.kind])
      rw [wp_bind, recordEvent, log, wp_write, wp_bind]
      exact ⟨aborted, wp_mono (writePVCResizeStatus_traced aborted (by simp [isPastPatch]))
        (fun _ => id) fun _ _ final => wp_pure.mpr final⟩
  | complete =>
      have named : Found desired pvcs middle.journal :=
        Found.of_frame grows (by decide) (found.later (by simp [Entry.kind]))
      have past := leads.complete rfl
      have line : DrivesCovered (.event (.pvcResizeComplete desired)) middle.journal := by
        refine ⟨by simp, ?_⟩
        rintro _ ⟨⟩
        exact ⟨pvcs, named, past.covers_of_undisturbed leads.covers⟩
      have completed : TracedCopy (middle.note (.event (.pvcResizeComplete desired))) :=
        ⟨⟨.cons line leads.drives, .cons (patchCovers_of_kind (by simp [Entry.kind]) _)
          leads.covers, fun _ => past.cons _⟩, fun _ => past.cons _⟩
      rw [wp_bind, recordEvent, log, wp_write]
      exact ⟨completed, clearPVCResizeStatus_traced completed⟩

private theorem rejectResize_traced {rejection : Event}
    (kind : (Entry.event rejection).kind = .event) :
    (rejectResize input rejection).wp TracedCopy (fun _ => TracedCopy) w := by
  unfold rejectResize recordEvent log
  simp only [wp_bind, wp_ite, wp_pure, wp_write]
  refine wp_mono (writePVCResizeStatus_traced traced (by simp [isPastPatch])) (fun _ => id)
    fun _ final here => ?_
  have noted := @TracedCopy.note _ here (.event rejection) (by simp [kind])
  exact ⟨fun _ => ⟨noted, noted⟩, fun _ => here⟩

/-- A resize is entered at its start, or driven from the phase it had reached. -/
theorem enterResize_traced (found : Found desired pvcs w.journal) :
    (enterResize input (currentPVCResizePhase w.v)).wp TracedCopy
      (fun entered final => TracedCopy final ∧ Found desired pvcs final.journal ∧
        ∀ phase, entered = some phase → isPastPatch phase = true → WasPatched final.journal) w := by
  unfold enterResize recordEvent log
  simp only [wp_bind, wp_ite, wp_pure, wp_write]
  refine ⟨fun _ => ⟨traced, found, ?_⟩, fun _ => ?_⟩
  · rintro _ ⟨⟩
    exact traced.working
  · have written := wp_and
      (@writePVCResizeStatus_traced _ traced .validated input.enterReply (by simp [isPastPatch]))
      (@writePVCResizeStatus_within .validated [.resize] [.resized] input.enterReply (by decide)
        (by decide) w)
    refine wp_mono written (fun _ => And.left) ?_
    rintro _ middle ⟨here, frame⟩
    have found := Found.of_frame frame (by decide) found
    refine ⟨fun _ => ⟨here, found, by simp⟩, fun _ => ?_⟩
    have noted := @TracedCopy.note _ here (.event .pvcResizeInitiated) (by simp [Entry.kind])
    refine ⟨noted, noted, found.later (by simp [Entry.kind]), ?_⟩
    rintro _ ⟨⟩
    simp [isPastPatch]

private theorem resizeClaims_traced (found : Found desired pvcs w.journal) :
    (resizeClaims input desired).wp TracedCopy (fun _ => TracedCopy) w := by
  unfold resizeClaims
  simp only [wp_bind, wp_read, wp_ite, wp_pure]
  refine ⟨fun _ => traced, fun _ => ?_⟩
  refine wp_mono (enterResize_traced traced found) (fun _ => id) ?_
  rintro entered middle ⟨here, found, patched⟩
  cases entered with
  | none => exact wp_pure.mpr here
  | some phase =>
      simp only [wp_bind, wp_read, wp_ite]
      exact ⟨fun _ => maybeEmitPVCStuckEvent_traced here, fun _ =>
        drivePVCResize_traced here found (patched phase rfl)⟩

omit traced in
private theorem reconcilePVCResize_traced :
    Within (Keeps TracedCopy) (reconcilePVCResize input) := by
  refine .of_wp fun w traced => ?_
  have noted : ∀ persistence, TracedCopy (w.note (.sizing persistence w.pvcs)) :=
    fun _ => traced.note (by simp [Entry.kind])
  refine reconcilePVCResize_wp (noted _) (fun _ => clearPVCResizeStatus_traced (noted _))
    fun desired _ => ?_
  have found : Found desired w.pvcs (w.note (.sizing (some desired) w.pvcs)).journal := .start rfl
  exact {
    blind := fun _ => noted _
    driven := fun _ _ => drivePVCResize_traced (noted _) found (noted _).working
    idle := fun _ _ => clearPVCResizeStatus_traced (noted _)
    shrunk := fun _ => rejectResize_traced (noted _) rfl
    unsupported := fun _ => rejectResize_traced (noted _) rfl
    needed := fun _ => resizeClaims_traced (noted _) found }

end Phase

private theorem traced_rules (input : PassInput) :
    PassRules Traced TracedCopy TracedCopy input where
  toBodyRules := .of_tolerates (fun _ => (·.1)) traced_tolerates tracedCopy_tolerates
    reconcilePVCResize_traced
    (fun _ => (reconcileStatefulSet_within _ _).mono tracedCopy_tolerates)
    fun _ _ _ => (reconcilePodRollout_within _ _ _ _).mono tracedCopy_tolerates
  fetch w traced := ⟨⟨traced.drives, traced.covers, traced.stored⟩, traced.stored⟩
  gate _ := (detectPVCLossAndGate_within _ _).mono tracedCopy_tolerates
  evaluate _ := (evaluateRolloutWatchdog_within _).mono traced_tolerates
  update _ := (updateStatus_within _ _).mono traced_tolerates

/-- Past its patch a resize goes on over claims of its size, unless they were disturbed since. -/
theorem operator_drivesCovered (acts : List (Act PassInput Drift)) {w : World}
    (start : w.journal = []) (idle : isPastPatch w.cr.status.resizePhase = false) :
    Always DrivesCovered (operator.run acts w).journal := by
  have fresh : Traced w := by
    refine ⟨by rw [start]; exact .nil, by rw [start]; exact .nil, fun past => ?_⟩
    exact absurd past (by simp [idle])
  exact (operator_invariant traced_rules fresh).drives

/-- The claim once it has been patched, with its volume grown this far. -/
def patchedClaim (capacity : Nat) : PVC :=
  { name := "data-vk-0", request := 2, capacity, storageClassName := some "fast" }

/-- Passes delete, patch, find the claim grown, recreate and verify. -/
def verifiedActs : List (Act PassInput Drift) :=
  [.call expandingPass, .call expandingPass, .drift { pvcs := some [patchedClaim 2] },
    .call expandingPass, .call expandingPass]

/-- The size is raised once more, and every pod becomes ready. -/
def raisedActs : List (Act PassInput Drift) :=
  verifiedActs ++
    [.drift { resizeTo 3 with stsStatus := some ("", "", 3) }, .call expandingPass]

/-- Raised after the patch the size is not requested, yet completes. -/
theorem operator_completes_uncovered :
    [.driving .pvcsPatched, .sizing (some 3) [patchedClaim 1]] <:+:
        (operator.run [.call expandingPass, .call expandingPass, .drift (resizeTo 3),
          .call expandingPass] resizingWorld).journal ∧
      .event (.pvcResizeComplete 3) ∈ (operator.run raisedActs resizingWorld).journal ∧
      (operator.run raisedActs resizingWorld).pvcs = [patchedClaim 2] := by
  decide

/-- Left alone, the resize completes for the size it started with. -/
theorem operator_drivesCovered_complete :
    resizingWorld.journal = [] ∧ isPastPatch resizingWorld.cr.status.resizePhase = false ∧
      let final := operator.run (verifiedActs ++
        [.drift { stsStatus := some ("", "", 3) }, .call expandingPass]) resizingWorld
      .event (.pvcResizeComplete 2) ∈ final.journal ∧ Always DrivesCovered final.journal :=
  ⟨rfl, rfl, by decide, operator_drivesCovered _ rfl rfl⟩

end Velkir
