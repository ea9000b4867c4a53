import Velkir.ResizeCover
import Velkir.Trails

/-!
# A resize keeps the data

Phase 4 deletes neither a claim nor a pod, and records the recreation only over claims that have
grown.
-/

namespace Velkir

open Crash Proc

/-- The claims have different names. -/
def World.Distinct (w : World) : Prop :=
  (w.pvcs.map PVC.name).Nodup

instance (w : World) : Decidable w.Distinct :=
  inferInstanceAs (Decidable (List.Nodup _))

/-- The claim is as it was, or raised while there was no StatefulSet. -/
def Raised (start : World) (old new : PVC) : Prop :=
  new = old ∨ start.sts = none ∧ ∃ desired, start.v.spec.persistence = some desired ∧
    old.request < desired ∧ new = { old with request := desired }

/-- Some listed claim is too small, or the record says `Validated`. -/
def MayOrphan (start : World) : Prop :=
  (∃ desired, start.v.spec.persistence = some desired ∧
    ∃ pvc ∈ start.pvcs, pvc.request < desired) ∨
    currentPVCResizePhase start.v = .validated

/-- The pass lists claims, all of which have the capacity in the spec. -/
def AllGrown (start : World) : Prop :=
  ∃ desired, start.v.spec.persistence = some desired ∧ start.pvcs ≠ [] ∧
    ∀ pvc ∈ start.pvcs, desired ≤ pvc.capacity

/-- What one write may change in a pass that found `start`. -/
structure Preserves (start before after : World) : Prop where
  pods : after.pods = before.pods
  claims : List.Forall₂ (Raised start) before.pvcs after.pvcs
  sts : after.sts = before.sts ∨ after.sts = none ∧ MayOrphan start ∧
    ∃ sts, after.journal = .orphaned sts :: before.journal
  recreated : after.cr.status.resizePhase = .stsRecreated →
    before.cr.status.resizePhase = .stsRecreated ∨ AllGrown start

private theorem Raised.name {start : World} {old new : PVC} (raised : Raised start old new) :
    new.name = old.name := by
  rcases raised with rfl | ⟨-, desired, -, -, rfl⟩ <;> rfl

private theorem forall₂_raised_names {start : World} {old new : List PVC}
    (raised : List.Forall₂ (Raised start) old new) : new.map PVC.name = old.map PVC.name := by
  induction raised with
  | nil => rfl
  | cons first _ ih => rw [List.map_cons, List.map_cons, first.name, ih]

section Writes

variable {start before after : World}

theorem Preserves.distinct (preserves : Preserves start before after) (distinct : before.Distinct) :
    after.Distinct := by
  unfold World.Distinct
  rwa [forall₂_raised_names preserves.claims]

/-- A write that leaves the claims, the pods and the StatefulSet alone. -/
theorem Preserves.quiet (pods : after.pods = before.pods) (claims : after.pvcs = before.pvcs)
    (sts : after.sts = before.sts)
    (recreated : after.cr.status.resizePhase = .stsRecreated →
      before.cr.status.resizePhase = .stsRecreated ∨ AllGrown start) :
    Preserves start before after := by
  refine ⟨pods, ?_, .inl sts, recreated⟩
  rw [claims]
  exact List.forall₂_same.mpr fun _ _ => .inl rfl

theorem log_preserves (line : Entry) : Linked (Preserves start) (log line) :=
  .write fun _ => .quiet rfl rfl rfl .inl

private theorem logHere_preserves (line : World → Entry) :
    Linked (Preserves start) (logHere line) :=
  .write fun _ => .quiet rfl rfl rfl .inl

end Writes

section Record

variable {start : World} {phase : PVCResizePhase} {reply : Reply}

private theorem stored_or_set_of_merge {base target stored : Option PVCResize}
    (set : phase ≠ .unset)
    (left : ((MergePatch.merge base target stored).map PVCResize.phase).getD .unset = phase) :
    (stored.map PVCResize.phase).getD .unset = phase ∨
      (target.map PVCResize.phase).getD .unset = phase ∧
        (base.map PVCResize.phase).getD .unset ≠ phase := by
  rcases base with _ | base <;> rcases target with _ | target
  · exact .inl left
  · cases stored <;> exact MergePatch.stored_or_set_of_replace_eq left
  · exact absurd left.symm set
  · simp only [MergePatch.merge, MergePatch.mergeOption] at left
    split at left
    · exact .inl left
    · cases stored <;> exact MergePatch.stored_or_set_of_replace_eq left

/-- A phase that a patch leaves was stored before, or the patch sets it. -/
theorem Status.stored_or_set_of_patched {base target stored : Status} (set : phase ≠ .unset)
    (left : (base.patched target stored).resizePhase = phase) :
    stored.resizePhase = phase ∨ target.resizePhase = phase ∧ base.resizePhase ≠ phase := by
  have wire : ∀ status : Status, status.wire.resizePhase = status.resizePhase := by
    simp [Status.wire, Status.resizePhase, Function.comp_def]
  rw [← wire target, ← wire base]
  exact stored_or_set_of_merge set left

theorem patchStatus_preserves {update : Status → Status} {refresh : Refresh} {notes : List Entry}
    (sets : ∀ status, (update status).resizePhase = .stsRecreated →
      status.resizePhase = .stsRecreated ∨ AllGrown start) :
    Linked (Preserves start) (patchStatus update refresh reply notes) := by
  refine .bind (.read _) fun _ => .ite (.pure _) (.ite (.bind (.write fun w =>
    .quiet rfl rfl rfl fun recreated => ?_) fun _ => .pure _) (.pure _))
  rcases Status.stored_or_set_of_patched (by decide) recreated with stored | ⟨target, base⟩
  · exact .inl stored
  · exact .inr ((sets _ target).resolve_left base)

theorem writePVCResizeStatus_preserves (grown : phase = .stsRecreated → AllGrown start) :
    Linked (Preserves start) (writePVCResizeStatus phase reply) := by
  refine .bind (.read _) fun _ => .ite (.pure _) (.bind (.read _) fun now =>
    .bind (patchStatus_preserves fun status recreated => .inr (grown ?_)) fun _ => .pure _)
  simpa [Status.resizePhase, nextResize_phase] using recreated

theorem clearPVCResizeStatus_preserves :
    Linked (Preserves start) (clearPVCResizeStatus reply) := by
  refine .bind (.read _) fun _ => .ite (.pure _) (.bind (patchStatus_preserves
    fun status recreated => ?_) fun _ => .pure _)
  simp [Status.resizePhase] at recreated

private theorem maybeEmitPVCStuckEvent_preserves :
    Linked (Preserves start) (maybeEmitPVCStuckEvent reply) := by
  refine .bind (.read _) fun resize => ?_
  cases resize with
  | none => exact .pure _
  | some resize =>
      refine .ite (.pure _) (.bind (.read _) fun now => .bind (patchStatus_preserves
        fun status recreated => .inl ?_) fun _ => .ite (.bind (log_preserves _) fun _ => .pure _)
          (.pure _))
      simpa [Status.resizePhase, Function.comp_def] using recreated

end Record

section Transitions

variable {start state : World} {input : PVCResizeInput} {desired : Nat}

/-- The StatefulSet and the claims are still those the pass found. -/
structure Agrees (start state : World) : Prop where
  sts : state.sts = start.sts
  pvcs : state.pvcs = start.pvcs

private theorem Agrees.note (agrees : Agrees start state) (line : Entry) :
    Agrees start (state.note line) :=
  ⟨agrees.sts, agrees.pvcs⟩

private theorem Agrees.distinct (agrees : Agrees start state) (distinct : start.Distinct) :
    state.Distinct := by
  unfold World.Distinct
  rwa [agrees.pvcs]

/-- The transition goes to the recreated phase only over grown claims. -/
def Warranted (start : World) (transition : Transition) : Prop :=
  transition = .advance .stsRecreated → AllGrown start

variable {transition : Transition}

theorem warranted_of_ne (other : transition ≠ .advance .stsRecreated) :
    Warranted start transition :=
  fun eq => absurd eq other

private theorem fromValidated_steps (may : MayOrphan start) :
    Steps (Preserves start) (fromValidated input)
      (fun transition _ => Warranted start transition) state := by
  refine .ite (fun _ => .pure (warranted_of_ne nofun)) fun _ => .bind (.read ?_)
  cases state.sts with
  | none => exact .pure (warranted_of_ne nofun)
  | some sts =>
      cases input.deleteReply with
      | ok =>
          refine .bind (.write ?_ (.pure (warranted_of_ne nofun)))
          exact ⟨rfl, List.forall₂_same.mpr fun _ _ => .inl rfl, .inr ⟨rfl, may, sts, rfl⟩, .inl⟩
      | _ => exact .pure (warranted_of_ne nofun)

private theorem patchClaims_steps {todo : List PVC} (absent : start.sts = none)
    (spec : start.v.spec.persistence = some desired) (distinct : state.Distinct)
    (listed : ∀ pvc ∈ todo, pvc ∈ state.pvcs) (once : (todo.map PVC.name).Nodup) :
    Steps (Preserves start) (patchClaims input desired todo)
      (fun transition _ => transition ≠ .advance .stsRecreated) state := by
  induction todo generalizing state with
  | nil => exact .pure (by simp)
  | cons pvc todo ih =>
      obtain ⟨fresh, once⟩ := List.nodup_cons.mp once
      have rest : ∀ later ∈ todo, later ∈ state.pvcs :=
        fun later mem => listed later (by simp [mem])
      refine .ite (fun _ => ih distinct rest once) fun small => ?_
      cases input.patchReply pvc.name with
      | ok =>
          let patch (stored : PVC) : PVC :=
            if stored.name = pvc.name then { stored with request := desired } else stored
          have step : Preserves start state { state with pvcs := state.pvcs.map patch } := by
            refine ⟨rfl, ?_, .inl rfl, .inl⟩
            refine List.forall₂_map_right_iff.mpr (List.forall₂_same.mpr fun stored mem => ?_)
            unfold patch
            split
            · rename_i same
              have eq : stored = pvc :=
                List.inj_on_of_nodup_map distinct mem (listed pvc (by simp)) same
              exact .inr ⟨absent, desired, spec, by rw [eq]; omega, rfl⟩
            · exact .inl rfl
          refine .bind (.write step (ih (step.distinct distinct) (fun later mem => ?_) once))
          refine List.mem_map.mpr ⟨later, rest later mem, if_neg fun same => fresh ?_⟩
          exact same ▸ List.mem_map_of_mem mem
      | notFound => exact ih distinct rest once
      | rejected | conflict | failed => exact .pure (by simp)

private theorem fromStsOrphaned_steps (agrees : Agrees start state) (distinct : start.Distinct)
    (spec : start.v.spec.persistence = some desired) :
    Steps (Preserves start) (fromStsOrphaned input desired)
      (fun transition _ => Warranted start transition) state := by
  have waits : Warranted start .requeue := warranted_of_ne nofun
  refine .ite (fun _ => .pure waits) fun _ => .bind (.read (.ite (fun _ => .pure waits)
    fun found => .ite (fun _ => .pure waits) fun _ => .bind (.read (.bind ?_))))
  have absent : start.sts = none := agrees.sts ▸ not_not.mp found
  have unique := agrees.distinct distinct
  refine (patchClaims_steps absent spec unique (fun _ => id) unique).mono
    fun transition final other => ?_
  exact .ite (fun _ => .bind (((logHere_preserves _).steps final).mono fun _ _ _ =>
    .pure (warranted_of_ne other))) fun _ => .pure (warranted_of_ne other)

private theorem fromPVCsPatched_steps (agrees : Agrees start state)
    (spec : start.v.spec.persistence = some desired) :
    Steps (Preserves start) (fromPVCsPatched input desired)
      (fun transition _ => Warranted start transition) state := by
  have waits : Warranted start .requeue := warranted_of_ne nofun
  refine .ite (fun _ => .pure waits) fun _ => .bind (.read (.ite
    (fun _ => .pure (warranted_of_ne nofun)) fun listed => .ite (fun _ => .pure waits)
      fun large => ?_))
  refine .bind (((log_preserves _).steps state).mono fun _ _ _ => .pure fun _ => ?_)
  rw [agrees.pvcs] at listed large
  exact ⟨desired, spec, listed, by simpa using large⟩

variable {phase : PVCResizePhase}

/-- Only the deletion may start from a world that has changed. -/
theorem transitionFrom_steps (distinct : start.Distinct)
    (spec : start.v.spec.persistence = some desired) (may : phase = .validated → MayOrphan start)
    (agrees : phase ≠ .validated → Agrees start state) :
    Steps (Preserves start) (transitionFrom input desired phase)
      (fun transition _ => Warranted start transition) state := by
  have waits : Warranted start .requeue := warranted_of_ne nofun
  cases phase with
  | validated => exact fromValidated_steps (may rfl)
  | stsOrphaned => exact fromStsOrphaned_steps (agrees nofun) distinct spec
  | pvcsPatched => exact fromPVCsPatched_steps (agrees nofun) spec
  | stsRecreated | verified =>
      refine .ite (fun _ => .pure waits) fun _ => .bind (.read ?_)
      cases state.sts with
      | none => exact .pure waits
      | some sts => exact .ite (fun _ => .pure waits) fun _ => .pure (warranted_of_ne nofun)
  | _ => exact .pure waits

private theorem recordTransition_preserves (warranted : Warranted start transition) :
    Linked (Preserves start) (recordTransition input desired transition) := by
  cases transition with
  | advance next => exact writePVCResizeStatus_preserves fun eq => warranted (eq ▸ rfl)
  | requeue => exact .pure _
  | abort rejected =>
      exact .bind (log_preserves _) fun _ => .bind (writePVCResizeStatus_preserves nofun) fun _ =>
        .pure _
  | complete => exact .bind (log_preserves _) fun _ => clearPVCResizeStatus_preserves

theorem drivePVCResize_steps (distinct : start.Distinct)
    (spec : start.v.spec.persistence = some desired) (may : phase = .validated → MayOrphan start)
    (agrees : phase ≠ .validated → Agrees start state) :
    Steps (Preserves start) (drivePVCResize input phase desired) (fun _ _ => True) state := by
  refine .bind (.write (.quiet rfl rfl rfl .inl) (.bind ?_))
  refine (transitionFrom_steps distinct spec may fun other => (agrees other).note _).mono
    fun transition final warranted => ?_
  exact (recordTransition_preserves warranted).steps final

end Transitions

section Pass

variable {start state : World} {input : PVCResizeInput} {desired : Nat}

private theorem exists_request_eq_smallest {pvcs : List PVC} (listed : pvcs ≠ []) :
    ∃ pvc ∈ pvcs, pvc.request = smallestCurrentSize pvcs := by
  induction pvcs with
  | nil => exact absurd rfl listed
  | cons pvc pvcs ih =>
      cases pvcs with
      | nil => exact ⟨pvc, by simp, rfl⟩
      | cons other pvcs =>
          obtain ⟨smallest, mem, eq⟩ := ih (by simp)
          simp only [smallestCurrentSize]
          rcases Nat.le_total pvc.request (smallestCurrentSize (other :: pvcs)) with first | later
          · exact ⟨pvc, by simp, (Nat.min_eq_left first).symm⟩
          · exact ⟨smallest, by simp [mem], by rw [eq, Nat.min_eq_right later]⟩

private theorem exists_small_of_resizeNeeded {pvcs : List PVC} {allowed : Option Bool}
    (needed : detect desired pvcs allowed = .resizeNeeded) :
    ∃ pvc ∈ pvcs, pvc.request < desired := by
  unfold detect at needed
  split_ifs at needed with nothing same shrinks expands
  obtain ⟨pvc, mem, smallest⟩ := exists_request_eq_smallest (not_or.mp nothing).2
  exact ⟨pvc, mem, by omega⟩

private theorem resizeClaims_steps (distinct : start.Distinct)
    (spec : start.v.spec.persistence = some desired) (may : MayOrphan start)
    (agrees : Agrees start state) :
    Steps (Preserves start) (resizeClaims input desired) (fun _ _ => True) state := by
  have enter : ∀ current, Steps (Preserves start) (enterResize input current)
      (fun phase final => phase = some .validated ∨ phase = none ∨ Agrees start final) state := by
    intro current
    have write : Linked (Preserves start) (writePVCResizeStatus .validated input.enterReply) :=
      writePVCResizeStatus_preserves nofun
    refine .ite (fun _ => .pure (.inr (.inr agrees))) fun _ => .bind ?_
    refine (write.steps state).mono fun stored final _ => ?_
    refine .ite (fun _ => .pure (.inr (.inl rfl))) fun _ => .bind ?_
    exact ((log_preserves _).steps final).mono fun _ _ _ => .pure (.inl rfl)
  refine .bind (.read (.bind (.read (.ite (fun _ => .pure trivial) fun _ => .bind ?_))))
  refine (enter _).mono fun phase final entered => ?_
  cases phase with
  | none => exact .pure trivial
  | some phase =>
      refine .bind (.read (.ite (fun _ => maybeEmitPVCStuckEvent_preserves.steps final)
        fun _ => drivePVCResize_steps distinct spec (fun _ => may) fun other => ?_))
      rcases entered with validated | absent | agrees
      · exact absurd (Option.some.inj validated) other
      · exact absurd absent nofun
      · exact agrees

private theorem reconcilePVCResize_steps (distinct : start.Distinct) :
    Steps (Preserves start) (reconcilePVCResize input) (fun _ _ => True) start := by
  have reject : ∀ event, Linked (Preserves start) (rejectResize input event) := fun event =>
    .bind (writePVCResizeStatus_preserves nofun) fun _ =>
      .ite (.bind (log_preserves _) fun _ => .pure _) (.pure _)
  have agrees : ∀ line, Agrees start (start.note line) := fun line => ⟨rfl, rfl⟩
  refine .bind (.write (.quiet rfl rfl rfl .inl) (.bind (.read ?_)))
  rw [World.note_v]
  cases spec : start.v.spec.persistence with
  | none => exact clearPVCResizeStatus_preserves.steps _
  | some desired =>
      refine .ite (fun _ => .pure trivial) fun _ => .bind (.read (.ite (fun _ => .pure trivial)
        fun _ => ?_))
      rw [World.note_pvcs]
      cases outcome : detect desired start.pvcs (expansionAllowed input start.pvcs) with
      | noChange =>
          refine .bind (.read (.ite (fun _ => ?_) fun _ => clearPVCResizeStatus_preserves.steps _))
          exact drivePVCResize_steps distinct spec (fun validated => .inr validated)
            fun _ => agrees _
      | shrinkRejected => exact (reject _).steps _
      | expansionNotSupported => exact (reject _).steps _
      | resizeNeeded =>
          exact resizeClaims_steps distinct spec
            (.inl ⟨desired, spec, exists_small_of_resizeNeeded outcome⟩) (agrees _)

end Pass

/-- What others do between passes: claims keep distinct names. -/
structure Elsewhere where
  act : World → World
  distinct : ∀ w, w.Distinct → (act w).Distinct

/-- Passes of Phase 4, their deaths, and everything else in between. -/
def resizer : System World PVCResizeInput Elsewhere Bool where
  call := reconcilePVCResize
  restart := World.forget
  drift := Elsewhere.act

/-- Every write preserves the data, seen from where the pass began. -/
def PassPreserves : Act PVCResizeInput Elsewhere → World → Prop
  | .call input, w | .crash input _, w =>
      Path (Preserves w) w ((reconcilePVCResize input).run w).trail
        ((reconcilePVCResize input).run w).final
  | .drift _, _ => True

/-- In every run, wherever a pass dies, every pass preserves the data. -/
theorem resizer_preserves (acts : List (Act PVCResizeInput Elsewhere)) {w : World}
    (distinct : w.Distinct) : resizer.Meets PassPreserves acts w := by
  have pass : ∀ input middle, middle.Distinct → Path (Preserves middle) middle
      ((reconcilePVCResize input).run middle).trail ((reconcilePVCResize input).run middle).final :=
    fun input middle distinct => (reconcilePVCResize_steps distinct).1
  have names : ∀ input middle, middle.Distinct →
      (reconcilePVCResize input).wp World.Distinct (fun _ => World.Distinct) middle := by
    intro input middle distinct
    exact (pass input middle distinct).invariant (fun _ _ step (_ : True) => step.distinct)
      (fun _ _ => trivial) distinct
  refine System.meets_of_invariant (fun act middle distinct => ?_) (fun act middle distinct => ?_)
    acts distinct
  · cases act with
    | call input => exact pass input middle distinct
    | crash input writes => exact pass input middle distinct
    | drift change => exact trivial
  · cases act with
    | call input => exact (names input middle distinct).2
    | crash input writes =>
        exact System.exec_crash distinct (names input middle distinct) fun _ => id
    | drift change => exact change.distinct middle distinct

/-- Every volume grows to what its claim requests. -/
def volumesGrow : Elsewhere where
  act w := { w with pvcs := w.pvcs.map fun pvc => { pvc with capacity := pvc.request } }
  distinct w distinct := by
    simpa [World.Distinct, Function.comp_def] using distinct

/-- Three passes delete the StatefulSet, patch the claim and find it grown. -/
def growthActs : List (Act PVCResizeInput Elsewhere) :=
  [.call expandingPass.resize, .call expandingPass.resize, .drift volumesGrow,
    .call expandingPass.resize]

theorem resizer_preserves_growth :
    resizingWorld.Distinct ∧ resizer.Meets PassPreserves growthActs resizingWorld ∧
      resizingWorld.sts ≠ none ∧ (resizer.run growthActs resizingWorld).sts = none ∧
      (resizer.run growthActs resizingWorld).pvcs = [patchedClaim 2] ∧
      (resizer.run growthActs resizingWorld).cr.status.resizePhase = .stsRecreated :=
  ⟨by decide, resizer_preserves _ (by decide), by decide, by decide, by decide,
    by decide⟩

end Velkir
