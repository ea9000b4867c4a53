import Velkir.ReadinessGates
import Velkir.SentinelSurgery

/-!
# The election of a master when there is none

`maybeRecoveryPromote` turns a replica into a master once no pod is one and no sentinel could elect
one.
-/

namespace Velkir

namespace Promotion

/-- How long a promotion is held off. -/
def recoveryPromotionCooldown : Nat := 60 * second

/-- A pod as it was listed. -/
structure ListedPod where
  name : String
  podIP : String
  deriving DecidableEq

/-- What one call finds. -/
structure Evidence where
  /-- Absent if the resource has no sentinel section. -/
  masterName : Option String := some "mymaster"
  pods : List ListedPod
  /-- The sweep over the pods ran. -/
  dialed : Bool := true
  checkLag : ListedPod → Option LagState
  endpoints : List Endpoint
  /-- Absent without an observer, or before it has published anything. -/
  snapshot : Option ObserverSnapshot
  /-- The snapshot as the question about a failover reads it again. -/
  later : Option ObserverSnapshot
  latch : Option Latch := none
  lastState : Option State := none
  /-- The addresses in the replica table of a sentinel that answers. -/
  replicas : Endpoint → Option (List String)
  /-- The addresses of the second list; absent if it failed. -/
  strongPods : Option (List String)
  /-- The clock at the snapshot, at the latch, and at the first and the second look at the
  cooldown. -/
  now : Nat
  latchedAt : Nat
  checkedAt : Nat
  recheckedAt : Nat
  /-- The time from the second look to the stamp. -/
  delay : Nat := 0

def Evidence.firedAt (evidence : Evidence) : Nat := evidence.recheckedAt + evidence.delay

/-- A survey that dials nobody. -/
def newSurveyFromPods (pods : List ListedPod) : ValkeyPodSurvey where
  livePodIPs := ((pods.filter fun pod => pod.podIP ≠ "").map ListedPod.podIP).dedup
  pendingPods := pods.countP fun pod => pod.podIP = ""
  dialed := false
  masters := []
  replicas := []
  dialFailures := 0

def reading (checkLag : ListedPod → Option LagState) (pod : ListedPod) : Option SurveyedPod :=
  if pod.podIP = "" then none
  else (checkLag pod).map fun state => ⟨pod.name, pod.podIP, state⟩

/-- A survey of all pods. -/
def dialValkeySurvey (checkLag : ListedPod → Option LagState) (pods : List ListedPod)
    (survey : ValkeyPodSurvey) : ValkeyPodSurvey :=
  { survey with
    dialed := true
    masters := (pods.filterMap (reading checkLag)).filter fun pod => pod.state.isMaster
    replicas := (pods.filterMap (reading checkLag)).filter fun pod => !pod.state.isMaster
    dialFailures := pods.countP fun pod => pod.podIP ≠ "" ∧ (checkLag pod).isNone }

/-- The survey of the call. -/
def Evidence.survey (evidence : Evidence) : ValkeyPodSurvey :=
  if evidence.dialed then
    dialValkeySurvey evidence.checkLag evidence.pods (newSurveyFromPods evidence.pods)
  else newSurveyFromPods evidence.pods

/-- The address of the primary that a fresh snapshot names under quorum. -/
def freshSnapshotPrimaryIP (snapshot : ObserverSnapshot) (now : Nat) : Option String :=
  if !snapshot.quorumOK then none
  else if maxRolloutSnapshotAge < now - snapshot.lastPolledAt then none
  else Surgery.hostOf snapshot.addr

/-- Without a snapshot the latch is held against no address. -/
def Evidence.latchActive (evidence : Evidence) : Bool :=
  let observed := evidence.later.getD {}
  match evidence.latch with
  | some latch => latch.active evidence.latchedAt observed.addr observed.epoch
  | none => false

/-- A failover is under way. -/
def Evidence.failoverInFlight (evidence : Evidence) : Bool :=
  evidence.latchActive || evidence.lastState == some .failoverInFlight

/-- The cooldown of the last promotion has not passed. -/
def cooling (lastFired : Option Nat) (now : Nat) : Bool :=
  match lastFired with
  | some last => now < last + recoveryPromotionCooldown
  | none => false

/-- A quorum of sentinels answers, and none knows a live candidate. -/
def quorumElectionDoomed (evidence : Evidence) (live : List String) : Bool :=
  if evidence.endpoints = [] ∨ live = [] then false
  else
    (evidence.endpoints.filterMap evidence.replicas).all
        (fun table => Surgery.replicaTableDoomed table live) &&
      quorumThreshold evidence.endpoints.length ≤
        (evidence.endpoints.filterMap evidence.replicas).length

/-- The second list has as many pods, all with an address that was surveyed. -/
def promotionPodViewConfirmed (evidence : Evidence) (live : List String) : Bool :=
  match evidence.strongPods with
  | none => false
  | some strong => strong.length = live.length && strong.all fun ip => ip ≠ "" ∧ ip ∈ live

/-- The replica that a call promotes. -/
def promotionTarget (evidence : Evidence) (lastFired : Option Nat) : Option SurveyedPod := do
  let masterName ← evidence.masterName
  guard (masterName ≠ "")
  let survey := evidence.survey
  guard (promotionSurveyAdmits survey evidence.endpoints.length)
  let snapshot ← evidence.snapshot
  guard (∀ ip ∈ freshSnapshotPrimaryIP snapshot evidence.now, ip ∉ survey.livePodIPs)
  guard (evidence.failoverInFlight = false)
  guard (cooling lastFired evidence.checkedAt = false)
  let best ← choosePromotionCandidate survey.replicas
  guard (quorumElectionDoomed evidence survey.livePodIPs)
  guard (promotionPodViewConfirmed evidence survey.livePodIPs)
  guard (cooling lastFired evidence.recheckedAt = false)
  survey.replicas[best]?

/-- When the last promotion was, and for the record all of them. -/
structure Tracker where
  lastFired : Option Nat := none
  issued : List Nat := []

/-- The cooldown is stamped with the promotion, whatever comes of it. -/
def maybeRecoveryPromote (evidence : Evidence) (tracker : Tracker) : Tracker :=
  match promotionTarget evidence tracker.lastFired with
  | some _ =>
      { lastFired := some evidence.firedAt, issued := tracker.issued ++ [evidence.firedAt] }
  | none => tracker

def Evidence.podIPs (evidence : Evidence) : List String := evidence.pods.map ListedPod.podIP

/-- No pod is master, no sentinel can elect, and the target is the freshest. -/
structure Proven (evidence : Evidence) (target : SurveyedPod) : Prop where
  answered : ∀ pod ∈ evidence.pods, pod.podIP ≠ "" ∧ ∃ state, evidence.checkLag pod = some state
  orphaned : ∃ host, host ≠ "" ∧ host ∉ evidence.podIPs ∧
    ∀ pod ∈ evidence.pods, ∀ state, evidence.checkLag pod = some state →
      state.isMaster = false ∧ state.linkUp = false ∧ state.masterHost = host
  quorum : quorumThreshold evidence.endpoints.length ≤
    evidence.endpoints.countP fun endpoint => (evidence.replicas endpoint).isSome
  doomed : ∀ endpoint ∈ evidence.endpoints, ∀ table, evidence.replicas endpoint = some table →
    ∀ ip ∈ table, ip ∉ evidence.podIPs
  unnamed : ∃ snapshot, evidence.snapshot = some snapshot ∧
    ∀ ip ∈ freshSnapshotPrimaryIP snapshot evidence.now, ip ∉ evidence.podIPs
  idle : evidence.latchActive = false
  confirmed : ∃ strong, evidence.strongPods = some strong ∧ ∀ ip, ip ∈ strong ↔ ip ∈ evidence.podIPs
  freshest : ∃ pod ∈ evidence.pods, evidence.checkLag pod = some target.state ∧
    target.name = pod.name ∧ target.ip = pod.podIP ∧
    ∃ offset, target.state.slaveReplOffset = some offset ∧
      ∀ other ∈ evidence.pods, ∀ state, evidence.checkLag other = some state →
        ∀ behind, state.slaveReplOffset = some behind →
          behind < offset ∨ (behind = offset ∧ ¬other.name < target.name)

/-- Keep the better of two pods. -/
def keepBest (allowed : SurveyedPod × Nat → Bool) (beats : SurveyedPod → SurveyedPod → Bool)
    (best : Option (SurveyedPod × Nat)) (next : SurveyedPod × Nat) : Option (SurveyedPod × Nat) :=
  if !allowed next then best
  else
    match best with
    | none => some next
    | some held => if beats next.1 held.1 then some next else best

section Scan

variable (allowed : SurveyedPod × Nat → Bool) (beats : SurveyedPod → SurveyedPod → Bool)

/-- What a scan holds is allowed, and nothing allowed beats it. -/
def Unbeaten (entries : List (SurveyedPod × Nat)) : Option (SurveyedPod × Nat) → Prop
  | none => ∀ entry ∈ entries, allowed entry = false
  | some held => held ∈ entries ∧ allowed held = true ∧
      ∀ entry ∈ entries, allowed entry = true → beats entry.1 held.1 = false

theorem bestIndex_eq (replicas : List SurveyedPod) :
    bestIndex allowed beats replicas =
      (replicas.zipIdx.foldl (keepBest allowed beats) none).map Prod.snd := rfl

variable {allowed beats}

variable {next : SurveyedPod × Nat}

private theorem keepBest_refused (refused : allowed next = false)
    (best : Option (SurveyedPod × Nat)) : keepBest allowed beats best next = best := by
  simp [keepBest, refused]

private theorem keepBest_none (admitted : allowed next = true) :
    keepBest allowed beats none next = some next := by
  simp [keepBest, admitted]

private theorem keepBest_some (admitted : allowed next = true) (held : SurveyedPod × Nat) :
    keepBest allowed beats (some held) next =
      some (if beats next.1 held.1 then next else held) := by
  cases wins : beats next.1 held.1 <;> simp [keepBest, admitted, wins]

variable {entries : List (SurveyedPod × Nat)}

private theorem Unbeaten.keep {held : SurveyedPod × Nat}
    (unbeaten : Unbeaten allowed beats entries (some held))
    (harmless : allowed next = true → beats next.1 held.1 = false) :
    Unbeaten allowed beats (entries ++ [next]) (some held) := by
  obtain ⟨present, permitted, before⟩ := unbeaten
  refine ⟨List.mem_append_left _ present, permitted, ?_⟩
  rw [List.forall_mem_append, List.forall_mem_singleton]
  exact ⟨before, harmless⟩

private theorem Unbeaten.take (irrefl : ∀ pod, beats pod pod = false)
    (admitted : allowed next = true)
    (ahead : ∀ entry ∈ entries, allowed entry = true → beats entry.1 next.1 = false) :
    Unbeaten allowed beats (entries ++ [next]) (some next) := by
  refine ⟨by simp, admitted, ?_⟩
  rw [List.forall_mem_append, List.forall_mem_singleton]
  exact ⟨ahead, fun _ => irrefl next.1⟩

private theorem Unbeaten.keepBest (irrefl : ∀ pod, beats pod pod = false)
    (trans : ∀ first second third, beats first second = true → beats second third = true →
      beats first third = true) {best : Option (SurveyedPod × Nat)}
    (unbeaten : Unbeaten allowed beats entries best) (next : SurveyedPod × Nat) :
    Unbeaten allowed beats (entries ++ [next]) (keepBest allowed beats best next) := by
  cases admitted : allowed next with
  | false =>
      rw [keepBest_refused admitted]
      cases best with
      | none => simpa [Unbeaten, or_imp, forall_and, admitted] using unbeaten
      | some held => exact unbeaten.keep (by simp [admitted])
  | true =>
      cases best with
      | none =>
          rw [keepBest_none admitted]
          refine .take irrefl admitted fun entry earlier permitted => ?_
          rw [unbeaten entry earlier] at permitted
          cases permitted
      | some held =>
          rw [keepBest_some admitted]
          cases wins : beats next.1 held.1 with
          | false => exact unbeaten.keep fun _ => wins
          | true =>
              refine .take irrefl admitted fun entry earlier permitted => ?_
              -- An entry that beats the new one would have beaten the one it replaces.
              have beaten := unbeaten.2.2 entry earlier permitted
              by_contra better
              rw [Bool.not_eq_false] at better
              rw [trans _ _ _ better wins] at beaten
              cases beaten

private theorem unbeaten_foldl (irrefl : ∀ pod, beats pod pod = false)
    (trans : ∀ first second third, beats first second = true → beats second third = true →
      beats first third = true) (entries : List (SurveyedPod × Nat)) :
    Unbeaten allowed beats entries (entries.foldl (keepBest allowed beats) none) := by
  induction entries using List.reverseRecOn with
  | nil => simp [Unbeaten]
  | append_singleton entries next ih =>
      rw [List.foldl_concat]
      exact ih.keepBest irrefl trans next

end Scan

/-- The order of the candidates: more of the stream, then the lower name. -/
def fresher (next held : SurveyedPod) : Bool :=
  next.offset > held.offset ∨ (next.offset = held.offset ∧ next.name < held.name)

private theorem fresher_irrefl (pod : SurveyedPod) : fresher pod pod = false := by
  simp [fresher]

theorem fresher_trans (first second third : SurveyedPod) (ahead : fresher first second = true)
    (behind : fresher second third = true) : fresher first third = true := by
  simp only [fresher, decide_eq_true_eq] at ahead behind ⊢
  rcases ahead with more | ⟨equal, lower⟩ <;> rcases behind with more' | ⟨equal', lower'⟩
  · exact .inl (by omega)
  · exact .inl (by omega)
  · exact .inl (by omega)
  · exact .inr ⟨by omega, String.lt_trans lower lower'⟩

variable {replicas : List SurveyedPod} {target : SurveyedPod}

theorem choosePromotionCandidate_spec {best : Nat}
    (chosen : choosePromotionCandidate replicas = some best)
    (found : replicas[best]? = some target) :
    target ∈ replicas ∧ target.state.slaveReplOffset.isSome = true ∧
      ∀ other ∈ replicas, other.state.slaveReplOffset.isSome = true →
        fresher other target = false := by
  unfold choosePromotionCandidate at chosen
  rw [bestIndex_eq, Option.map_eq_some_iff] at chosen
  obtain ⟨⟨held, index⟩, scanned, rfl⟩ := chosen
  have unbeaten := @unbeaten_foldl (fun next => next.1.state.slaveReplOffset.isSome) _
    fresher_irrefl fresher_trans replicas.zipIdx
  unfold fresher at unbeaten
  rw [scanned] at unbeaten
  obtain ⟨present, readable, first⟩ := unbeaten
  have same : held = target := by
    have at_index := List.mem_zipIdx_iff_getElem?.mp present
    simp only at at_index found
    rw [at_index] at found
    exact Option.some.inj found
  subst same
  refine ⟨List.mem_of_getElem? found, readable, fun other listed known => ?_⟩
  obtain ⟨position, at_position⟩ := List.getElem?_of_mem listed
  exact first (other, position) (List.mem_zipIdx_iff_getElem?.mpr at_position) known

theorem mem_reading {checkLag : ListedPod → Option LagState} {pods : List ListedPod}
    {seen : SurveyedPod} :
    seen ∈ pods.filterMap (reading checkLag) ↔
      ∃ pod ∈ pods, pod.podIP ≠ "" ∧ ∃ state, checkLag pod = some state ∧
        seen = ⟨pod.name, pod.podIP, state⟩ := by
  simp only [List.mem_filterMap, reading]
  constructor
  · rintro ⟨pod, listed, read⟩
    split at read
    next => cases read
    next addressed =>
      obtain ⟨state, answer, rfl⟩ := Option.map_eq_some_iff.mp read
      exact ⟨pod, listed, addressed, state, answer, rfl⟩
  · rintro ⟨pod, listed, addressed, state, answer, rfl⟩
    exact ⟨pod, listed, by simp [addressed, answer]⟩

variable {live : List String}

/-- The replicas follow one dead master, at an address that no pod has. -/
theorem lineageAdmits_spec {lineageHost : String}
    (admits : lineageAdmits live lineageHost replicas = true) :
    ∃ host, (lineageHost ≠ "" → host = lineageHost) ∧
      ∀ replica ∈ replicas, replica.state.linkUp = false ∧ replica.state.masterHost = host ∧
        host ≠ "" ∧ host ∉ live := by
  induction replicas generalizing lineageHost with
  | nil => exact ⟨lineageHost, fun _ => rfl, by simp⟩
  | cons replica rest ih =>
      simp only [lineageAdmits] at admits
      split at admits
      next => cases admits
      next admitted =>
        simp only [not_or, not_and, Decidable.not_not, Bool.not_eq_true] at admitted
        obtain ⟨unlinked, named, dead, sameHost⟩ := admitted
        obtain ⟨host, follows, all⟩ := ih admits
        obtain rfl := follows named
        refine ⟨replica.state.masterHost, sameHost, ?_⟩
        rw [List.forall_mem_cons]
        exact ⟨⟨unlinked, rfl, named, dead⟩, all⟩

variable {evidence : Evidence}

theorem promotionTarget_eq_some {lastFired : Option Nat}
    (issued : promotionTarget evidence lastFired = some target) :
    promotionSurveyAdmits evidence.survey evidence.endpoints.length = true ∧
    (∃ snapshot, evidence.snapshot = some snapshot ∧
      ∀ ip ∈ freshSnapshotPrimaryIP snapshot evidence.now, ip ∉ evidence.survey.livePodIPs) ∧
    evidence.failoverInFlight = false ∧
    (∃ best, choosePromotionCandidate evidence.survey.replicas = some best ∧
      evidence.survey.replicas[best]? = some target) ∧
    quorumElectionDoomed evidence evidence.survey.livePodIPs = true ∧
    promotionPodViewConfirmed evidence evidence.survey.livePodIPs = true ∧
    cooling lastFired evidence.recheckedAt = false := by
  simp only [promotionTarget, Option.bind_eq_bind, Option.bind_eq_some_iff, Option.guard_eq_some',
    exists_and_left, exists_const] at issued
  obtain ⟨masterName, -, -, admitted, snapshot, present, unnamed, idle, -, best, chosen, doomed,
    confirmed, cooled, found⟩ := issued
  exact ⟨admitted, ⟨snapshot, present, unnamed⟩, idle, ⟨best, chosen, found⟩, doomed, confirmed,
    cooled⟩

section Survey

variable {evidence : Evidence}

theorem promotionSurveyAdmits_spec {survey : ValkeyPodSurvey} {endpoints : Nat}
    (admits : promotionSurveyAdmits survey endpoints = true) :
    survey.dialed = true ∧ survey.dialFailures = 0 ∧ survey.pendingPods = 0 ∧
      survey.masters = [] ∧ survey.replicas ≠ [] ∧
      lineageAdmits survey.livePodIPs "" survey.replicas = true := by
  unfold promotionSurveyAdmits at admits
  split at admits
  next => cases admits
  next complete =>
    split at admits
    next => cases admits
    next leaderless =>
      simp only [not_or, Bool.not_eq_true, Bool.not_eq_false', Nat.not_lt, Nat.le_zero,
        Decidable.not_not, List.length_eq_zero_iff] at complete leaderless
      exact ⟨complete.1, complete.2.1, complete.2.2, leaderless.1, leaderless.2.1, admits⟩

theorem mem_livePodIPs {ip : String} :
    ip ∈ evidence.survey.livePodIPs ↔ ip ≠ "" ∧ ip ∈ evidence.podIPs := by
  have same : evidence.survey.livePodIPs = (newSurveyFromPods evidence.pods).livePodIPs := by
    unfold Evidence.survey
    split <;> rfl
  simp only [same, newSurveyFromPods, Evidence.podIPs, List.mem_dedup, List.mem_map,
    List.mem_filter, decide_eq_true_eq]
  constructor
  · rintro ⟨pod, ⟨listed, addressed⟩, rfl⟩
    exact ⟨addressed, pod, listed, rfl⟩
  · rintro ⟨addressed, pod, listed, rfl⟩
    exact ⟨pod, ⟨listed, addressed⟩, rfl⟩

private theorem livePodIPs_nodup : evidence.survey.livePodIPs.Nodup := by
  unfold Evidence.survey
  split <;> exact List.nodup_dedup _

/-- What an admitted survey says of the listed pods. -/
theorem surveyed (admits : promotionSurveyAdmits evidence.survey evidence.endpoints.length = true) :
    (∀ pod ∈ evidence.pods, pod.podIP ≠ "" ∧ ∃ state, evidence.checkLag pod = some state) ∧
      ∀ pod ∈ evidence.pods, ∀ state, evidence.checkLag pod = some state →
        state.isMaster = false ∧ ⟨pod.name, pod.podIP, state⟩ ∈ evidence.survey.replicas := by
  obtain ⟨dialed, reached, settled, leaderless, -, -⟩ := promotionSurveyAdmits_spec admits
  have swept : evidence.dialed = true := by
    by_contra unswept
    simp [Evidence.survey, unswept, newSurveyFromPods] at dialed
  simp only [Evidence.survey, swept, if_true] at reached settled leaderless ⊢
  simp only [dialValkeySurvey, newSurveyFromPods, List.countP_eq_zero, decide_eq_true_eq]
    at reached settled
  have addressed : ∀ pod ∈ evidence.pods, pod.podIP ≠ "" := settled
  refine ⟨fun pod listed => ⟨addressed pod listed, ?_⟩, fun pod listed state answer => ?_⟩
  · have answers := reached pod listed
    simp only [not_and, Option.isNone_iff_eq_none] at answers
    exact Option.ne_none_iff_exists'.mp (answers (addressed pod listed))
  · have read := mem_reading.mpr ⟨pod, listed, addressed pod listed, state, answer, rfl⟩
    have follower : state.isMaster = false := by
      have unled := List.filter_eq_nil_iff.mp leaderless _ read
      simpa using unled
    exact ⟨follower, List.mem_filter.mpr ⟨read, by simp [follower]⟩⟩

end Survey

private theorem covers_iff_nodup {α : Type} {all part : List α} (distinct : all.Nodup)
    (within : ∀ item ∈ part, item ∈ all) (size : part.length = all.length) :
    (∀ item, item ∈ part ↔ item ∈ all) ↔ part.Nodup := by
  constructor
  · intro same
    have covered : all.Subperm part :=
      List.subperm_of_subset distinct fun item listed => (same item).mpr listed
    exact (covered.perm_of_length_le size.le).nodup_iff.mp distinct
  · intro repeatless item
    have covered : part.Subperm all := List.subperm_of_subset repeatless within
    exact (covered.perm_of_length_le size.ge).mem_iff

private theorem quorumElectionDoomed_spec (doomed : quorumElectionDoomed evidence live = true) :
    quorumThreshold evidence.endpoints.length ≤
        (evidence.endpoints.countP fun endpoint => (evidence.replicas endpoint).isSome) ∧
      ∀ endpoint ∈ evidence.endpoints, ∀ table, evidence.replicas endpoint = some table →
        ∀ ip ∈ table, ip ∉ live := by
  unfold quorumElectionDoomed at doomed
  split at doomed
  next => cases doomed
  next =>
    rw [Bool.and_eq_true, List.all_eq_true, decide_eq_true_eq, List.length_filterMap_eq_countP]
      at doomed
    refine ⟨doomed.2, fun endpoint listed table answer ip named => ?_⟩
    have dead := doomed.1 table (List.mem_filterMap.mpr ⟨endpoint, listed, answer⟩)
    simpa using List.all_eq_true.mp dead ip named

private theorem promotionPodViewConfirmed_spec
    (confirmed : promotionPodViewConfirmed evidence live = true) :
    ∃ strong, evidence.strongPods = some strong ∧ strong.length = live.length ∧
      ∀ ip ∈ strong, ip ∈ live := by
  unfold promotionPodViewConfirmed at confirmed
  split at confirmed
  next => cases confirmed
  next strong listed =>
    simp only [Bool.and_eq_true, decide_eq_true_eq, List.all_eq_true] at confirmed
    exact ⟨strong, listed, confirmed.1, fun ip present => (confirmed.2 ip present).2⟩

section Issued

variable {evidence : Evidence} {lastFired : Option Nat} {target : SurveyedPod}

/-- The target was read from a listed pod, and none is known to be further. -/
theorem freshest_of_issued (issued : promotionTarget evidence lastFired = some target) :
    ∃ pod ∈ evidence.pods, evidence.checkLag pod = some target.state ∧
      target.name = pod.name ∧ target.ip = pod.podIP ∧
      ∃ offset, target.state.slaveReplOffset = some offset ∧
        ∀ other ∈ evidence.pods, ∀ state, evidence.checkLag other = some state →
          ∀ behind, state.slaveReplOffset = some behind →
            behind < offset ∨ (behind = offset ∧ ¬other.name < target.name) := by
  obtain ⟨admitted, -, -, ⟨best, chosen, found⟩, -⟩ := promotionTarget_eq_some issued
  obtain ⟨present, readable, first⟩ := choosePromotionCandidate_spec chosen found
  obtain ⟨offset, known⟩ := Option.isSome_iff_exists.mp readable
  obtain ⟨pod, listed, answer, name, ip⟩ : ∃ pod ∈ evidence.pods,
      evidence.checkLag pod = some target.state ∧ target.name = pod.name ∧
        target.ip = pod.podIP := by
    unfold Evidence.survey at present
    split at present
    next =>
      obtain ⟨pod, listed, -, state, answer, rfl⟩ := mem_reading.mp (List.mem_filter.mp present).1
      exact ⟨pod, listed, answer, rfl, rfl⟩
    next => simp [newSurveyFromPods] at present
  refine ⟨pod, listed, answer, name, ip, offset, known, ?_⟩
  intro other also state reply behind position
  have unbeaten := first _ ((surveyed admitted).2 other also state reply).2 (by simp [position])
  simp only [fresher, SurveyedPod.offset, position, known, Option.getD_some, gt_iff_lt,
    decide_eq_false_iff_not, not_or, not_and] at unbeaten
  rcases lt_or_eq_of_le (not_lt.mp unbeaten.1) with less | equal
  · exact .inl less
  · exact .inr ⟨equal, unbeaten.2 equal⟩

private theorem orphaned_of_issued (issued : promotionTarget evidence lastFired = some target) :
    ∃ host, host ≠ "" ∧ host ∉ evidence.podIPs ∧
      ∀ pod ∈ evidence.pods, ∀ state, evidence.checkLag pod = some state →
        state.isMaster = false ∧ state.linkUp = false ∧ state.masterHost = host := by
  obtain ⟨admitted, -⟩ := promotionTarget_eq_some issued
  obtain ⟨-, -, -, -, some_replica, lineage⟩ := promotionSurveyAdmits_spec admitted
  obtain ⟨host, -, follows⟩ := lineageAdmits_spec lineage
  obtain ⟨replica, listed⟩ := List.exists_mem_of_ne_nil _ some_replica
  obtain ⟨-, -, named, dead⟩ := follows replica listed
  refine ⟨host, named, fun live => dead (mem_livePodIPs.mpr ⟨named, live⟩), ?_⟩
  intro pod present state answer
  obtain ⟨follower, surveyed⟩ := (surveyed admitted).2 pod present state answer
  obtain ⟨unlinked, points, -⟩ := follows _ surveyed
  exact ⟨follower, unlinked, points⟩

private theorem confirmed_iff (issued : promotionTarget evidence lastFired = some target) :
    (∃ strong, evidence.strongPods = some strong ∧ ∀ ip, ip ∈ strong ↔ ip ∈ evidence.podIPs) ↔
      ∀ strong ∈ evidence.strongPods, strong.Nodup := by
  obtain ⟨admitted, -, -, -, -, confirmed, -⟩ := promotionTarget_eq_some issued
  obtain ⟨strong, read, size, within⟩ := promotionPodViewConfirmed_spec confirmed
  have live : ∀ ip, ip ∈ evidence.survey.livePodIPs ↔ ip ∈ evidence.podIPs := by
    intro ip
    rw [mem_livePodIPs, and_iff_right_iff_imp]
    intro listed
    obtain ⟨pod, present, rfl⟩ := List.mem_map.mp listed
    exact ((surveyed admitted).1 pod present).1
  have exactly := covers_iff_nodup livePodIPs_nodup within size
  simp only [live] at exactly
  simp [read, exactly]

private theorem proven_iff (issued : promotionTarget evidence lastFired = some target) :
    Proven evidence target ↔ ∀ strong ∈ evidence.strongPods, strong.Nodup := by
  rw [← confirmed_iff issued]
  refine ⟨Proven.confirmed, fun confirmed => ?_⟩
  obtain ⟨admitted, ⟨snapshot, present, unnamed⟩, idle, -, doomed, -, -⟩ :=
    promotionTarget_eq_some issued
  have answered := (surveyed admitted).1
  have dead {ip : String} (absent : ip ∉ evidence.survey.livePodIPs) : ip ∉ evidence.podIPs := by
    intro listed
    obtain ⟨pod, among, rfl⟩ := List.mem_map.mp listed
    exact absent (mem_livePodIPs.mpr ⟨(answered pod among).1, listed⟩)
  obtain ⟨quorum, tables⟩ := quorumElectionDoomed_spec doomed
  exact {
    answered
    orphaned := orphaned_of_issued issued
    quorum
    doomed := fun endpoint listed table answer ip named =>
      dead (tables endpoint listed table answer ip named)
    unnamed := ⟨snapshot, present, fun ip named => dead (unnamed ip named)⟩
    idle := (Bool.or_eq_false_iff.mp idle).1
    confirmed
    freshest := freshest_of_issued issued }

end Issued

/-- The promotions are a cooldown apart, and none is later than the last. -/
structure Paced (tracker : Tracker) : Prop where
  apart : tracker.issued.Pairwise fun earlier later =>
    earlier + recoveryPromotionCooldown ≤ later
  last : ∀ time ∈ tracker.issued, ∃ last, tracker.lastFired = some last ∧ time ≤ last

private theorem Paced.maybeRecoveryPromote (evidence : Evidence) {tracker : Tracker}
    (paced : Paced tracker) : Paced (maybeRecoveryPromote evidence tracker) := by
  unfold Promotion.maybeRecoveryPromote
  split
  next target issued =>
    obtain ⟨-, -, -, -, -, -, cooled⟩ := promotionTarget_eq_some issued
    have later : ∀ time ∈ tracker.issued,
        time + recoveryPromotionCooldown ≤ evidence.firedAt := by
      intro time listed
      obtain ⟨last, fired, before⟩ := paced.last time listed
      simp only [cooling, fired, decide_eq_false_iff_not, not_lt] at cooled
      unfold Evidence.firedAt
      omega
    constructor
    · rw [List.pairwise_append]
      exact ⟨paced.apart, List.pairwise_singleton _ _, by simpa using later⟩
    · intro time listed
      refine ⟨evidence.firedAt, rfl, ?_⟩
      rcases List.mem_append.mp listed with earlier | now
      · have := later time earlier
        omega
      · rw [List.mem_singleton.mp now]
  next => exact paced

private theorem paced_run (calls : List Evidence) (lastFired : Option Nat) :
    Paced (Machine.run maybeRecoveryPromote calls { lastFired }) :=
  Machine.run_invariant Paced (fun evidence _ => Paced.maybeRecoveryPromote evidence) calls
    ⟨List.Pairwise.nil, by simp⟩

/-- A promotion is proven, and keeps the cooldown, if no address repeats. -/
theorem maybeRecoveryPromote_proven_iff (lastFired : Option Nat) :
    (∀ evidence target, promotionTarget evidence lastFired = some target →
      (Proven evidence target ↔ ∀ strong ∈ evidence.strongPods, strong.Nodup)) ∧
    ∀ calls,
      (Machine.run maybeRecoveryPromote calls { lastFired }).issued.Pairwise
        fun earlier later => earlier + recoveryPromotionCooldown ≤ later :=
  ⟨fun _ _ issued => proven_iff issued, fun calls => (paced_run calls lastFired).apart⟩

/-- Two replicas follow a dead master, and no sentinel knows either. -/
def orphanedPair (strong : List String) : Evidence where
  pods := [⟨"cache-0", "10.0.0.1"⟩, ⟨"cache-1", "10.0.0.2"⟩]
  checkLag pod := some
    { linkUp := false, masterHost := "10.0.0.9"
      slaveReplOffset := some (if pod.name = "cache-1" then 70 else 50) }
  endpoints := [⟨"s0", "10.0.1.0:26379"⟩, ⟨"s1", "10.0.1.1:26379"⟩, ⟨"s2", "10.0.1.2:26379"⟩]
  snapshot := some {}
  later := some {}
  replicas _ := some ["10.0.0.9"]
  strongPods := some strong
  now := 100 * second
  latchedAt := 100 * second
  checkedAt := 100 * second
  recheckedAt := 101 * second

def promoted : SurveyedPod where
  name := "cache-1"
  ip := "10.0.0.2"
  state := { linkUp := false, masterHost := "10.0.0.9", slaveReplOffset := some 70 }

theorem maybeRecoveryPromote_proven_iff_pair :
    Proven (orphanedPair ["10.0.0.2", "10.0.0.1"]) promoted :=
  ((maybeRecoveryPromote_proven_iff none).1 (orphanedPair ["10.0.0.2", "10.0.0.1"]) promoted
    (by rfl)).mpr (by simp [orphanedPair])

/-- The second list shows one address twice, and the other not at all. -/
theorem maybeRecoveryPromote_unconfirmed :
    promotionTarget (orphanedPair ["10.0.0.1", "10.0.0.1"]) none = some promoted ∧
      ¬Proven (orphanedPair ["10.0.0.1", "10.0.0.1"]) promoted := by
  refine ⟨by rfl, fun proven => ?_⟩
  obtain ⟨strong, read, same⟩ := proven.confirmed
  obtain rfl : ["10.0.0.1", "10.0.0.1"] = strong := Option.some.inj read
  have listed := (same "10.0.0.2").mpr (by decide)
  revert listed
  decide

end Promotion

end Velkir
