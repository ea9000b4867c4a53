import Velkir.PvcLoss
import Velkir.Trails

/-!
# Owner references at deletion

Before the resource goes its claims are brought in line with the retention policy, here on whole
owner references.
-/

namespace Velkir.Retention

open Crash Proc

/-- The owner of an object. -/
structure OwnerReference where
  apiVersion : String
  kind : String
  name : String
  uid : String
  controller : Option Bool
  blockOwnerDeletion : Option Bool
  deriving DecidableEq

/-- A claim as the deletion phase reads it. -/
structure Claim where
  name : String
  ownerReferences : List OwnerReference
  deriving DecidableEq

/-- The custom resource as the deletion phase reads it. -/
structure Owner where
  name : String
  uid : String
  policy : RetentionPolicy

/-- `metav1.NewControllerRef`. -/
def newControllerRef (v : Owner) : OwnerReference where
  apiVersion := "velkir.ioxie.dev/v1beta1"
  kind := "Valkey"
  name := v.name
  uid := v.uid
  controller := some true
  blockOwnerDeletion := some true

def hasCROwnerRef (v : Owner) (refs : List OwnerReference) : Bool :=
  refs.any fun ref => ref.uid == v.uid

/-- A round of the loop writes what is kept over the front of the array. -/
def stripRound (v : Owner) (state : List OwnerReference × Nat) (i : Nat) :
    List OwnerReference × Nat :=
  match state.1[i]? with
  | none => state
  | some ref =>
      if ref.uid ≠ v.uid then (state.1.set state.2 ref, state.2 + 1) else state

/-- Strip the resource in place. -/
def stripCROwnerRef (v : Owner) (refs : List OwnerReference) : List OwnerReference :=
  let stripped := (List.range refs.length).foldl (stripRound v) (refs, 0)
  stripped.1.take stripped.2

/-- After `i` rounds the kept are in front and the unread untouched. -/
structure Stripping (v : Owner) (refs : List OwnerReference) (i : Nat)
    (state : List OwnerReference × Nat) : Prop where
  behind : state.2 ≤ i
  kept : state.1.take state.2 = (refs.take i).filter fun ref => ref.uid ≠ v.uid
  unread : state.1.drop i = refs.drop i

variable {refs : List OwnerReference}

private theorem stripRound_stripping {v : Owner} {i : Nat} {state : List OwnerReference × Nat}
    (inside : i < refs.length) (stripping : Stripping v refs i state) :
    Stripping v refs (i + 1) (stripRound v state i) := by
  obtain ⟨behind, kept, unread⟩ := stripping
  have here : state.1[i]? = some refs[i] := by
    rw [← List.head?_drop, unread, List.head?_drop, List.getElem?_eq_getElem inside]
  have later : state.1.drop (i + 1) = refs.drop (i + 1) := by
    rw [← List.drop_drop, ← List.drop_drop, unread]
  have next : refs.take (i + 1) = refs.take i ++ [refs[i]] :=
    List.take_succ_eq_append_getElem inside
  unfold stripRound
  rw [here]
  simp only
  split
  next other =>
    have room : state.2 < state.1.length := by
      obtain ⟨unread_left, -⟩ := List.getElem?_eq_some_iff.mp here
      omega
    refine ⟨by omega, ?_, ?_⟩
    · rw [List.take_succ_eq_append_getElem (by simpa using room), List.take_set_of_le le_rfl, kept,
        List.getElem_set_self, next, List.filter_append]
      simp [other]
    · rw [List.drop_set_of_lt (by omega), later]
  next same =>
    refine ⟨by omega, ?_, later⟩
    rw [kept, next, List.filter_append]
    simp [not_not.mp same]

/-- Stripping in place keeps the references of others, in their order. -/
theorem stripCROwnerRef_eq (v : Owner) (refs : List OwnerReference) :
    stripCROwnerRef v refs = refs.filter fun ref => ref.uid ≠ v.uid := by
  have rounds (i : Nat) (upTo : i ≤ refs.length) :
      Stripping v refs i ((List.range i).foldl (stripRound v) (refs, 0)) := by
    induction i with
    | zero => exact ⟨le_rfl, rfl, rfl⟩
    | succ i ih =>
        rw [List.range_succ, List.foldl_append]
        exact stripRound_stripping (by omega) (ih (by omega))
  have done := (rounds refs.length le_rfl).kept
  rwa [List.take_length] at done

/-- The claims under different names, and whether the finalizer is there. -/
structure Cluster where
  claims : List Claim
  distinct : (claims.map Claim.name).Nodup
  finalizer : Bool

def Claim.withOwners (claim : Claim) (refs : List OwnerReference) : Claim :=
  { claim with ownerReferences := refs }

/-- A merge patch replaces the whole list of owner references. -/
def Cluster.setOwners (cluster : Cluster) (name : String) (refs : List OwnerReference) :
    Cluster where
  claims := cluster.claims.map fun claim =>
    if claim.name = name then claim.withOwners refs else claim
  distinct := by
    have names : (cluster.claims.map fun claim =>
        if claim.name = name then claim.withOwners refs else claim).map Claim.name =
          cluster.claims.map Claim.name := by
      rw [List.map_map]
      refine List.map_congr_left fun claim _ => ?_
      simp only [Function.comp_apply]
      split <;> rfl
    rw [names]
    exact cluster.distinct
  finalizer := cluster.finalizer

def Cluster.removeFinalizer (cluster : Cluster) : Cluster :=
  { cluster with finalizer := false }

/-- What a deletion fails with. -/
inductive DeletionError
  | listing
  | patchingOwnerRef (claim : String)
  | strippingOwnerRef (claim : String)
  | removingFinalizer
  deriving DecidableEq

/-- How the requests of one pass are answered. -/
structure Answers where
  listFails : Bool
  patch : String → Crash.Answer
  finalizer : Crash.Answer

/-- The request for a claim, and the error that its failure becomes. -/
def patchOwners (answer : Crash.Answer) (claim : Claim) (refs : List OwnerReference)
    (error : String → DeletionError) : Proc Cluster (List DeletionError) := do
  if ← Proc.request answer fun cluster => cluster.setOwners claim.name refs then return []
  else return [error claim.name]

/-- The body of the loop over the claims. -/
def patchClaim (v : Owner) (answers : Answers) (claim : Claim) :
    Proc Cluster (List DeletionError) :=
  match v.policy.effective with
  | .delete =>
      if !hasCROwnerRef v claim.ownerReferences then
        patchOwners (answers.patch claim.name) claim
          (claim.ownerReferences ++ [newControllerRef v]) .patchingOwnerRef
      else return []
  | _ =>
      if hasCROwnerRef v claim.ownerReferences then
        patchOwners (answers.patch claim.name) claim
          (stripCROwnerRef v claim.ownerReferences) .strippingOwnerRef
      else return []

/-- A failure on one claim does not stop the rest. -/
def patchClaims (v : Owner) (answers : Answers) : List Claim → Proc Cluster (List DeletionError)
  | [] => return []
  | claim :: claims => do
      let first ← patchClaim v answers claim
      let rest ← patchClaims v answers claims
      return first ++ rest

/-- Bring the claims in line, then let go. -/
def reconcileDeletion (v : Owner) (answers : Answers) : Proc Cluster (List DeletionError) := do
  if answers.listFails then return [.listing]
  else
    let claims ← Proc.read Cluster.claims
    let errs ← patchClaims v answers claims
    if errs ≠ [] then return errs
    else if ← Proc.read Cluster.finalizer then
      if ← Proc.request answers.finalizer Cluster.removeFinalizer then return []
      else return [.removingFinalizer]
    else return []

/-- Passes with any changes of the claims in between. -/
def deletions : System Cluster (Owner × Answers) (Cluster → Cluster) (List DeletionError) where
  call := fun pass => reconcileDeletion pass.1 pass.2
  restart := id
  drift := id

/-- The owner references are as the policy wants them. -/
def compliant (v : Owner) (refs : List OwnerReference) : Bool :=
  if v.policy.effective = .delete then hasCROwnerRef v refs else !hasCROwnerRef v refs

def others (v : Owner) (refs : List OwnerReference) : List OwnerReference :=
  refs.filter fun ref => ref.uid ≠ v.uid

/-- The owner references that the policy makes of those there are. -/
def target (v : Owner) (refs : List OwnerReference) : List OwnerReference :=
  if v.policy.effective = .delete then
    if hasCROwnerRef v refs then refs else refs ++ [newControllerRef v]
  else others v refs

section Policy

variable {v : Owner} {refs : List OwnerReference} {answers : Answers} {claim : Claim}

private theorem compliant_target (v : Owner) (refs : List OwnerReference) :
    compliant v (target v refs) = true := by
  unfold compliant target
  split
  · split
    · assumption
    · simp [hasCROwnerRef, newControllerRef]
  · simp [hasCROwnerRef, others]

private theorem others_target (v : Owner) (refs : List OwnerReference) :
    others v (target v refs) = others v refs := by
  unfold target
  split
  · split
    · rfl
    · simp [others, newControllerRef]
  · simp [others, List.filter_filter]

/-- A compliant claim is left alone; for any other the target is requested. -/
theorem patchClaim_eq (v : Owner) (answers : Answers) (claim : Claim) :
    ∃ error, patchClaim v answers claim =
      if compliant v claim.ownerReferences = true then return []
      else patchOwners (answers.patch claim.name) claim (target v claim.ownerReferences) error := by
  unfold patchClaim compliant target
  split
  next delete =>
    refine ⟨.patchingOwnerRef, ?_⟩
    cases hasCROwnerRef v claim.ownerReferences <;> simp [delete]
  next retain =>
    have policy : v.policy.effective ≠ .delete := retain
    refine ⟨.strippingOwnerRef, ?_⟩
    rw [stripCROwnerRef_eq]
    cases hasCROwnerRef v claim.ownerReferences <;> simp [policy, others]

def patchFails (v : Owner) (answers : Answers) (claim : Claim) : Bool :=
  !compliant v claim.ownerReferences && decide (answers.patch claim.name ≠ .done)

/-- What a pass makes of a claim. -/
def settle (v : Owner) (answers : Answers) (claim : Claim) : Claim :=
  if compliant v claim.ownerReferences = true ∨ answers.patch claim.name = .refused then claim
  else claim.withOwners (target v claim.ownerReferences)

theorem settle_compliant (answered : patchFails v answers claim = false) :
    compliant v (settle v answers claim).ownerReferences = true := by
  simp only [patchFails, Bool.and_eq_false_iff, Bool.not_eq_false', decide_eq_false_iff_not,
    not_not] at answered
  unfold settle
  split
  next kept =>
    rcases answered with already | done
    · exact already
    · rcases kept with already | refused
      · exact already
      · rw [done] at refused
        cases refused
  next => exact compliant_target v claim.ownerReferences

private theorem settle_others (v : Owner) (answers : Answers) (claim : Claim) :
    (settle v answers claim).name = claim.name ∧
      others v (settle v answers claim).ownerReferences = others v claim.ownerReferences := by
  unfold settle
  split
  · exact ⟨rfl, rfl⟩
  · exact ⟨rfl, others_target v claim.ownerReferences⟩

end Policy

section Loop

variable {v : Owner} {answers : Answers} {cluster : Cluster}

variable {claim : Claim}

private theorem setOwners_claims {front back : List Claim}
    (split : cluster.claims = front ++ claim :: back) :
    (cluster.setOwners claim.name refs).claims = front ++ claim.withOwners refs :: back := by
  have distinct := cluster.distinct
  rw [split, List.map_append, List.map_cons, List.nodup_middle, List.nodup_cons,
    List.mem_append, not_or] at distinct
  have untouched (claims : List Claim) (absent : claim.name ∉ claims.map Claim.name) :
      (claims.map fun other =>
        if other.name = claim.name then other.withOwners refs else other) = claims := by
    conv_rhs => rw [← List.map_id claims]
    refine List.map_congr_left fun other listed => if_neg fun same => absent ?_
    rw [← same]
    exact List.mem_map_of_mem listed
  have claims : (cluster.setOwners claim.name refs).claims = cluster.claims.map fun other =>
      if other.name = claim.name then other.withOwners refs else other := rfl
  rw [claims, split, List.map_append, List.map_cons, untouched front distinct.1.1,
    untouched back distinct.1.2, if_pos rfl]

/-- The first claims are settled and the others as they were. -/
def Settled (v : Owner) (answers : Answers) (before : Cluster) (settled : Nat)
    (after : Cluster) : Prop :=
  after.claims = (before.claims.take settled).map (settle v answers) ++ before.claims.drop settled ∧
    after.finalizer = before.finalizer

variable {before : Cluster} {settled : Nat} {rest : List Claim}

private theorem settled_succ {after : Cluster} (todo : before.claims.drop settled = claim :: rest)
    (claims : after.claims = (before.claims.take settled).map (settle v answers) ++
      settle v answers claim :: rest) (finalizer : after.finalizer = before.finalizer) :
    Settled v answers before (settled + 1) after := by
  have inside : settled < before.claims.length := by
    by_contra beyond
    rw [List.drop_eq_nil_of_le (by omega)] at todo
    cases todo
  rw [List.drop_eq_getElem_cons inside, List.cons.injEq] at todo
  obtain ⟨rfl, rfl⟩ := todo
  refine ⟨?_, finalizer⟩
  rw [claims, List.take_succ_eq_append_getElem inside, List.map_append, List.append_assoc]
  rfl

private theorem patchClaim_spec {middle : Cluster}
    (todo : before.claims.drop settled = claim :: rest)
    (progress : Settled v answers before settled middle) :
    (patchClaim v answers claim).wp (Settled v answers before (settled + 1))
      (fun errs cluster => Settled v answers before (settled + 1) cluster ∧
        (errs = [] ↔ patchFails v answers claim = false)) middle := by
  obtain ⟨claims, finalizer⟩ := progress
  rw [todo] at claims
  obtain ⟨error, equation⟩ := patchClaim_eq v answers claim
  have unchanged (kept : settle v answers claim = claim) :
      Settled v answers before (settled + 1) middle :=
    settled_succ todo (by rw [kept, claims]) finalizer
  rw [equation, wp_ite]
  constructor
  · intro already
    refine wp_pure.mpr ⟨unchanged (if_pos (.inl already)), ?_⟩
    simp [patchFails, already]
  · intro needed
    simp only [patchOwners, wp_bind, wp_ite, wp_pure]
    apply wp_request
    · intro accepted
      have moved : settle v answers claim =
          claim.withOwners (target v claim.ownerReferences) := if_neg (by simp [needed, accepted])
      have written : Settled v answers before (settled + 1)
          (middle.setOwners claim.name (target v claim.ownerReferences)) :=
        settled_succ todo (by rw [setOwners_claims claims, moved]) finalizer
      refine ⟨written, fun done => ⟨written, ?_⟩, fun lost => ⟨written, ?_⟩⟩
      · simp [patchFails, of_decide_eq_true done]
      · simp [patchFails, needed, of_decide_eq_false (Bool.eq_false_iff.mpr lost)]
    · intro refused
      have kept := unchanged (if_pos (.inr refused))
      simp [patchFails, needed, refused, kept]

/-- The loop settles one claim after the other and collects the failures. -/
theorem patchClaims_spec {middle : Cluster} {claims : List Claim}
    (todo : before.claims.drop settled = claims)
    (progress : Settled v answers before settled middle) :
    (patchClaims v answers claims).wp
      (fun cluster => ∃ settled, Settled v answers before settled cluster)
      (fun errs cluster => Settled v answers before (settled + claims.length) cluster ∧
        (errs = [] ↔ ∀ claim ∈ claims, patchFails v answers claim = false)) middle := by
  induction claims generalizing settled middle with
  | nil => simpa [patchClaims] using progress
  | cons claim claims ih =>
      simp only [patchClaims, wp_bind, wp_pure]
      refine wp_mono (patchClaim_spec todo progress)
        (fun _ settled => ⟨_, settled⟩) fun first state here => ?_
      have later : before.claims.drop (settled + 1) = claims := by
        rw [← List.drop_drop, todo, List.drop_succ_cons, List.drop_zero]
      refine wp_mono (ih later here.1) (fun _ => id) fun rest final there => ?_
      refine ⟨?_, ?_⟩
      · rw [List.length_cons, Nat.add_comm claims.length, ← Nat.add_assoc]
        exact there.1
      · rw [List.append_eq_nil_iff, here.2, there.2, List.forall_mem_cons]

end Loop

section Passes

def KeepsOthers (v : Owner) (before after : Cluster) : Prop :=
  List.Forall₂ (fun old new => new.name = old.name ∧
    others v new.ownerReferences = others v old.ownerReferences) before.claims after.claims

/-- The finalizer goes only with every claim in line or patched. -/
def ReleasesSafely (v : Owner) (answers : Answers) (before after : Cluster) : Prop :=
  before.finalizer = true → after.finalizer = false →
    answers.listFails = false ∧ ∀ claim ∈ before.claims,
      compliant v claim.ownerReferences = true ∨ answers.patch claim.name = .done

/-- The claims whose patch did not fail are in line. -/
def Complies (v : Owner) (answers : Answers) (before after : Cluster) : Prop :=
  answers.listFails = false →
    List.Forall₂ (fun old new => patchFails v answers old = false →
      compliant v new.ownerReferences = true) before.claims after.claims

/-- What holds between any two writes of a pass. -/
def Careful (v : Owner) (answers : Answers) (before after : Cluster) : Prop :=
  KeepsOthers v before after ∧ ReleasesSafely v answers before after

variable {v : Owner} {answers : Answers} {before after : Cluster} {settled : Nat}

theorem Settled.keepsOthers (progress : Settled v answers before settled after) :
    KeepsOthers v before after := by
  have front : List.Forall₂ (fun old new => new.name = old.name ∧
      others v new.ownerReferences = others v old.ownerReferences)
      (before.claims.take settled) ((before.claims.take settled).map (settle v answers)) :=
    List.forall₂_map_right_iff.mpr
      (List.forall₂_same.mpr fun claim _ => settle_others v answers claim)
  have back : List.Forall₂ (fun old new : Claim => new.name = old.name ∧
      others v new.ownerReferences = others v old.ownerReferences)
      (before.claims.drop settled) (before.claims.drop settled) :=
    List.forall₂_same.mpr fun claim _ => ⟨rfl, rfl⟩
  have whole := List.rel_append front back
  beta_reduce at whole
  rwa [List.take_append_drop, ← progress.1] at whole

private theorem Settled.complies (progress : Settled v answers before before.claims.length after) :
    Complies v answers before after := by
  intro _
  rw [progress.1, List.take_length, List.drop_length, List.append_nil]
  exact List.forall₂_map_right_iff.mpr (List.forall₂_same.mpr fun claim _ => settle_compliant)

theorem Settled.careful (progress : Settled v answers before settled after) :
    Careful v answers before after := by
  refine ⟨progress.keepsOthers, fun present absent => ?_⟩
  rw [progress.2, present] at absent
  cases absent

/-- Removing the finalizer is safe where no patch failed. -/
theorem releases_of_silent (listed : answers.listFails = false)
    (silent : ∀ claim ∈ before.claims, patchFails v answers claim = false) :
    ReleasesSafely v answers before after := by
  intro _ _
  refine ⟨listed, fun claim inside => ?_⟩
  have answered := silent claim inside
  simp only [patchFails, Bool.and_eq_false_iff, Bool.not_eq_false', decide_eq_false_iff_not,
    not_not] at answered
  exact answered

private theorem reconcileDeletion_spec (v : Owner) (answers : Answers) (before : Cluster) :
    (reconcileDeletion v answers).wp (Careful v answers before)
      (fun _ after => Careful v answers before after ∧ Complies v answers before after)
      before := by
  have start : Settled v answers before 0 before := ⟨rfl, rfl⟩
  simp only [reconcileDeletion, wp_ite, wp_bind, wp_read, wp_pure]
  constructor
  · intro fails
    exact ⟨start.careful, fun listed => by simp [fails] at listed⟩
  · intro listed
    have listed := Bool.eq_false_iff.mpr listed
    refine wp_mono (patchClaims_spec rfl start) ?_ ?_
    · rintro cluster ⟨settled, progress⟩
      exact progress.careful
    · rintro errs cluster ⟨progress, silent⟩
      rw [Nat.zero_add] at progress
      have left := And.intro progress.careful progress.complies
      refine ⟨fun _ => left, fun clean => ⟨fun _ => ?_, fun _ => left⟩⟩
      have released : Careful v answers before cluster.removeFinalizer :=
        ⟨progress.keepsOthers, releases_of_silent listed (silent.mp (not_not.mp clean))⟩
      have gone := And.intro released progress.complies
      apply wp_request
      · intro _
        exact ⟨released, fun _ => gone, fun _ => gone⟩
      · intro _
        exact ⟨by simp, fun _ => left⟩

/-- What is asked of a pass, a pass cut short, or a change. -/
def Honours (act : Act (Owner × Answers) (Cluster → Cluster)) (before : Cluster) : Prop :=
  match act with
  | .call (v, answers) =>
      Careful v answers before (deletions.exec act before) ∧
        Complies v answers before (deletions.exec act before)
  | .crash (v, answers) _ => Careful v answers before (deletions.exec act before)
  | .drift _ => True

/-- Through any passes, crashes and changes, the resource goes only once its claims are in line. -/
theorem deletion_honours (acts : List (Act (Owner × Answers) (Cluster → Cluster)))
    (start : Cluster) : deletions.Meets Honours acts start := by
  have kept (v : Owner) (answers : Answers) (before : Cluster) :
      Careful v answers before before := by
    have start : Settled v answers before 0 before := ⟨rfl, rfl⟩
    exact start.careful
  have honours (act : Act (Owner × Answers) (Cluster → Cluster)) (before : Cluster) (_ : True) :
      Honours act before := by
    cases act with
    | call pass => exact (reconcileDeletion_spec pass.1 pass.2 before).2
    | crash pass writes =>
        exact wp_cut (kept pass.1 pass.2 before)
          (reconcileDeletion_spec pass.1 pass.2 before)
    | drift change => trivial
  exact System.meets_of_invariant honours (fun _ _ _ => trivial) acts trivial

/-- With all answered, the claims are in line and the finalizer goes. -/
theorem reconcileDeletion_releases (listed : answers.listFails = false)
    (patched : ∀ claim ∈ before.claims, answers.patch claim.name = .done)
    (removed : answers.finalizer = .done) :
    (reconcileDeletion v answers).wp (fun _ => True) (fun errs after =>
      errs = [] ∧ after.finalizer = false ∧
        ∀ claim ∈ after.claims, compliant v claim.ownerReferences = true) before := by
  have silent : ∀ claim ∈ before.claims, patchFails v answers claim = false := by
    intro claim inside
    simp [patchFails, patched claim inside]
  have start : Settled v answers before 0 before := ⟨rfl, rfl⟩
  simp only [reconcileDeletion, wp_ite, wp_bind, wp_read, wp_pure, listed]
  refine ⟨by simp, fun _ => wp_mono (patchClaims_spec rfl start) (fun _ _ => trivial) ?_⟩
  rintro errs middle ⟨progress, clean⟩
  rw [Nat.zero_add] at progress
  have compliant_all : ∀ claim ∈ middle.claims, compliant v claim.ownerReferences = true := by
    intro claim inside
    rw [progress.1, List.take_length, List.drop_length, List.append_nil] at inside
    obtain ⟨old, listed_old, rfl⟩ := List.mem_map.mp inside
    exact settle_compliant (silent old listed_old)
  refine ⟨fun errors => absurd (clean.mpr silent) errors, fun _ => ⟨fun _ => ?_, fun absent => ?_⟩⟩
  · apply wp_request
    · intro _
      simpa [removed, Cluster.removeFinalizer] using compliant_all
    · simp [removed]
  · exact ⟨trivial, Bool.eq_false_iff.mpr absent, compliant_all⟩

/-- A claim that had no owner. -/
theorem reconcileDeletion_releases_orphan :
    (reconcileDeletion ⟨"v", "u", .delete⟩ ⟨false, fun _ => .done, .done⟩).wp (fun _ => True)
      (fun errs after => errs = [] ∧ after.finalizer = false ∧
        ∀ claim ∈ after.claims, compliant ⟨"v", "u", .delete⟩ claim.ownerReferences = true)
      ⟨[⟨"data-v-0", []⟩], by decide, true⟩ :=
  reconcileDeletion_releases rfl (fun _ _ => rfl) rfl

end Passes

/-- The other phases see the identities of the owners only. -/
theorem retainedOwners_eq (v : Owner) (refs : List OwnerReference) :
    retainedOwners v.policy v.uid (refs.map OwnerReference.uid) =
      (target v refs).map OwnerReference.uid := by
  have owns : v.uid ∈ refs.map OwnerReference.uid ↔ hasCROwnerRef v refs = true := by
    simp [hasCROwnerRef]
  unfold retainedOwners target
  split
  · simp only [owns]
    split
    · rfl
    · simp [newControllerRef]
  · rw [others, List.filter_map]
    rfl

end Velkir.Retention
