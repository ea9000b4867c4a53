import Velkir.Observer

/-!
# The epoch frontier

Sentinels on a live pod other than the resolved master are re-pointed only if they are provably
behind.
-/

namespace Velkir

namespace Surgery

/-- The answers to `SENTINEL get-master-addr-by-name` and `SENTINEL MASTER`. -/
structure ProbeReply where
  addr : String := ""
  /-- Absent if the second answer could not be read. -/
  epoch : Option Int := none
  flags : String := ""
  deriving DecidableEq

/-- The host of an address, unless it is malformed or empty. -/
def hostOf (addr : String) : Option String :=
  match GoText.splitHost addr.toList with
  | none | some [] => none
  | some host => some (String.ofList host)

/-- The flags of an election or a down master. -/
def flagsIndicateElection (flags : String) : Bool :=
  GoText.contains flags "failover_in_progress" || GoText.contains flags "o_down" ||
    GoText.contains flags "s_down"

/-- The targets of a re-point, by class. -/
structure RepointClassification where
  deadMaster : List Endpoint := []
  staleEpoch : List Endpoint := []
  staleEpochCohort : List Endpoint := []
  agreeEpoch : Int := 0

end Surgery

namespace EpochFrontier

open Surgery

/-- What one sentinel answered; nothing if it could not be reached. -/
structure Probe where
  endpoint : Endpoint
  reply : Option ProbeReply
  deriving DecidableEq

/-- The host of its master, unless the address is missing or malformed. -/
def Probe.host (probe : Probe) : Option String := do
  let reply ← probe.reply
  if reply.addr = "" then none else hostOf reply.addr

/-- The epoch that the sentinel reports. -/
def Probe.epoch (probe : Probe) : Option Int := do
  (← probe.reply).epoch

/-- The sentinel reports an election. -/
def Probe.electing (probe : Probe) : Bool :=
  match probe.reply with
  | some reply => flagsIndicateElection reply.flags
  | none => flagsIndicateElection ""

/-- The variables of the first loop. -/
structure Frontier where
  frontierEpoch : Int := 0
  agreeEpoch : Int := 0
  masterIPCohortExists : Bool := false
  cohort : List Endpoint := []

section Loops

variable (live : List String) (masterIP : String)

/-- One round of the first loop; nothing if it gives up. -/
def visit (frontier : Frontier) (probe : Probe) : Option Frontier :=
  match probe.host with
  | none => some frontier
  | some host =>
      match probe.epoch with
      -- It could be ahead of all the others.
      | none => none
      | some epoch =>
          let frontierEpoch :=
            if epoch > frontier.frontierEpoch then epoch else frontier.frontierEpoch
          if host = masterIP then
            if probe.electing then none
            else some
              { frontierEpoch
                agreeEpoch := if epoch > frontier.agreeEpoch then epoch else frontier.agreeEpoch
                masterIPCohortExists := true
                cohort := frontier.cohort ++ [probe.endpoint] }
          else some { frontier with frontierEpoch }

/-- The second loop. -/
def selects (agreeEpoch : Int) (probe : Probe) : Bool :=
  match probe.host, probe.epoch with
  | some host, some epoch =>
      host ≠ masterIP ∧ host ∈ live ∧ ¬epoch ≥ agreeEpoch ∧ !probe.electing
  | _, _ => false

/-- The sentinels behind the frontier. -/
def classifyStaleEpochTargets (probes : List Probe) : List Endpoint × List Endpoint × Int :=
  match probes.foldlM (visit masterIP) {} with
  | none => ([], [], 0)
  | some frontier =>
      if !frontier.masterIPCohortExists ∨ frontier.agreeEpoch ≠ frontier.frontierEpoch then
        ([], [], 0)
      else
        ((probes.filter (selects live masterIP frontier.agreeEpoch)).map Probe.endpoint,
          frontier.cohort, frontier.agreeEpoch)

/-- The master it monitors is neither the resolved one nor a live pod. -/
def onDeadMaster (probe : Probe) : Bool :=
  match probe.host with
  | some host => host ≠ masterIP ∧ host ∉ live
  | none => false

/-- The targets on a dead master or a stale epoch. -/
def classifyRepointTargets (allowStaleEpoch : Bool) (probes : List Probe) :
    RepointClassification :=
  if live = [] ∨ masterIP = "" then {}
  else
    let deadMaster := (probes.filter (onDeadMaster live masterIP)).map Probe.endpoint
    if allowStaleEpoch then
      let (staleEpoch, staleEpochCohort, agreeEpoch) :=
        classifyStaleEpochTargets live masterIP probes
      { deadMaster, staleEpoch, staleEpochCohort, agreeEpoch }
    else { deadMaster }

end Loops

section First

variable {masterIP : String} {probes : List Probe}

/-- The probe does not make the loop give up. -/
def Probe.Settled (masterIP : String) (probe : Probe) : Prop :=
  ∀ host ∈ probe.host, probe.epoch ≠ none ∧ (host = masterIP → probe.electing = false)

instance (probe : Probe) : Decidable (probe.Settled masterIP) :=
  inferInstanceAs (Decidable (∀ host ∈ probe.host, _))

/-- The epochs of the sentinels that monitor a master. -/
def epochs (probes : List Probe) : List Int :=
  (probes.filter fun probe => probe.host.isSome).filterMap Probe.epoch

/-- The probes that name this master. -/
def onMaster (masterIP : String) (probes : List Probe) : List Probe :=
  probes.filter fun probe => probe.host = some masterIP

private theorem epochs_append (front back : List Probe) :
    epochs (front ++ back) = epochs front ++ epochs back := by
  simp [epochs]

private theorem onMaster_append (front back : List Probe) :
    onMaster masterIP (front ++ back) = onMaster masterIP front ++ onMaster masterIP back := by
  simp [onMaster]

/-- The variables after probes that do not make the loop give up. -/
def Frontier.gain (masterIP : String) (frontier : Frontier) (probes : List Probe) : Frontier where
  frontierEpoch := (epochs probes).foldl max frontier.frontierEpoch
  agreeEpoch := (epochs (onMaster masterIP probes)).foldl max frontier.agreeEpoch
  masterIPCohortExists := frontier.masterIPCohortExists || !(onMaster masterIP probes).isEmpty
  cohort := frontier.cohort ++ (onMaster masterIP probes).map Probe.endpoint

private theorem Frontier.gain_append (frontier : Frontier) (front back : List Probe) :
    frontier.gain masterIP (front ++ back) =
      (frontier.gain masterIP front).gain masterIP back := by
  have empty : (onMaster masterIP front ++ onMaster masterIP back).isEmpty =
      ((onMaster masterIP front).isEmpty && (onMaster masterIP back).isEmpty) := by
    cases onMaster masterIP front <;> rfl
  simp [gain, epochs_append, onMaster_append, Bool.or_assoc, empty]

private theorem visit_eq (frontier : Frontier) (probe : Probe) :
    visit masterIP frontier probe =
      if probe.Settled masterIP then some (frontier.gain masterIP [probe]) else none := by
  have larger (old new : Int) : (if new > old then new else old) = max old new := by
    rw [max_def]
    split_ifs <;> omega
  unfold visit
  cases host : probe.host with
  | none => simp [Probe.Settled, Frontier.gain, epochs, onMaster, host]
  | some host' =>
      cases epoch : probe.epoch with
      | none => simp [Probe.Settled, host, epoch]
      | some value =>
          dsimp only
          by_cases here : host' = masterIP
          · cases electing : probe.electing with
            | true => simp [Probe.Settled, host, epoch, electing, here]
            | false =>
                simp [Probe.Settled, Frontier.gain, epochs, onMaster, host, epoch, electing,
                  here, larger]
          · simp [Probe.Settled, Frontier.gain, epochs, onMaster, host, epoch, here, larger]

theorem foldlM_visit (start : Frontier) :
    probes.foldlM (visit masterIP) start =
      if ∀ probe ∈ probes, probe.Settled masterIP then some (start.gain masterIP probes)
      else none := by
  induction probes generalizing start with
  | nil => simp [Frontier.gain, epochs, onMaster]
  | cons probe probes ih =>
      rw [List.foldlM_cons, visit_eq]
      by_cases settled : probe.Settled masterIP
      · rw [if_pos settled, Option.bind_eq_bind, Option.bind_some, ih, ← Frontier.gain_append]
        simp [settled]
      · simp [settled]

end First

section Selected

variable {live : List String} {masterIP : String} {probes probes' : List Probe}

def largest (epochs : List Int) : Int := epochs.foldl max 0

/-- The second loop runs: a master not being deposed holds the frontier. -/
structure Armed (masterIP : String) (probes : List Probe) : Prop where
  settled : ∀ probe ∈ probes, probe.Settled masterIP
  cohort : onMaster masterIP probes ≠ []
  current : largest (epochs (onMaster masterIP probes)) = largest (epochs probes)

theorem classifyStaleEpochTargets_armed (armed : Armed masterIP probes) :
    classifyStaleEpochTargets live masterIP probes =
      ((probes.filter (selects live masterIP (largest (epochs (onMaster masterIP probes))))).map
          Probe.endpoint,
        (onMaster masterIP probes).map Probe.endpoint,
        largest (epochs (onMaster masterIP probes))) := by
  unfold classifyStaleEpochTargets
  rw [foldlM_visit, if_pos armed.settled]
  have current := armed.current
  unfold largest at *
  simp [Frontier.gain, armed.cohort, current]

theorem classifyStaleEpochTargets_disarmed (disarmed : ¬Armed masterIP probes) :
    classifyStaleEpochTargets live masterIP probes = ([], [], 0) := by
  unfold classifyStaleEpochTargets
  rw [foldlM_visit]
  by_cases settled : ∀ probe ∈ probes, probe.Settled masterIP
  · rw [if_pos settled]
    dsimp only
    refine if_pos ?_
    by_contra armed
    rw [not_or] at armed
    refine disarmed ⟨settled, ?_, not_not.mp armed.2⟩
    simpa [Frontier.gain] using armed.1
  · rw [if_neg settled]

theorem largest_perm {left right : List Int} (perm : left.Perm right) :
    largest left = largest right := perm.foldl_eq 0

theorem epochs_perm (perm : probes.Perm probes') : (epochs probes).Perm (epochs probes') :=
  (perm.filter _).filterMap _

theorem onMaster_perm (perm : probes.Perm probes') :
    (onMaster masterIP probes).Perm (onMaster masterIP probes') := perm.filter _

private theorem Armed.perm (armed : Armed masterIP probes) (perm : probes.Perm probes') :
    Armed masterIP probes' where
  settled probe mem := armed.settled probe (perm.mem_iff.mpr mem)
  cohort empty := armed.cohort (List.perm_nil.mp (empty ▸ onMaster_perm perm))
  current := by
    rw [← largest_perm (epochs_perm perm), ← largest_perm (epochs_perm (onMaster_perm perm))]
    exact armed.current

/-- The same targets up to order. -/
structure SameTargets (left right : RepointClassification) : Prop where
  deadMaster : left.deadMaster.Perm right.deadMaster
  staleEpoch : left.staleEpoch.Perm right.staleEpoch
  staleEpochCohort : left.staleEpochCohort.Perm right.staleEpochCohort
  agreeEpoch : left.agreeEpoch = right.agreeEpoch

private theorem SameTargets.refl (classification : RepointClassification) :
    SameTargets classification classification := ⟨.refl _, .refl _, .refl _, rfl⟩

private theorem classifyRepointTargets_perm (allow : Bool) (perm : probes.Perm probes') :
    SameTargets (classifyRepointTargets live masterIP allow probes)
      (classifyRepointTargets live masterIP allow probes') := by
  have dead := (perm.filter (onDeadMaster live masterIP)).map Probe.endpoint
  unfold classifyRepointTargets
  split_ifs
  · exact .refl _
  · by_cases armed : Armed masterIP probes
    · have cohort : (onMaster masterIP probes).Perm (onMaster masterIP probes') :=
        onMaster_perm perm
      have agree := largest_perm (epochs_perm cohort)
      rw [classifyStaleEpochTargets_armed armed,
        classifyStaleEpochTargets_armed (armed.perm perm), ← agree]
      exact ⟨dead, (perm.filter _).map _, cohort.map _, rfl⟩
    · rw [classifyStaleEpochTargets_disarmed armed,
        classifyStaleEpochTargets_disarmed fun other => armed (other.perm perm.symm)]
      exact ⟨dead, .refl _, .refl _, rfl⟩
  · exact ⟨dead, .refl _, .refl _, rfl⟩

/-- A sentinel below the frontier, and what makes this certain. -/
structure Behind (live : List String) (masterIP : String) (probes : List Probe) (probe : Probe) :
    Prop where
  readable : ∀ other ∈ probes, other.host ≠ none → other.epoch ≠ none
  frontier : ∃ top ∈ probes, ∃ epoch ∈ top.epoch, top.host = some masterIP ∧
    (∀ other ∈ probes, other.host ≠ none → ∀ epoch' ∈ other.epoch, epoch' ≤ epoch) ∧
    ∃ own ∈ probe.epoch, own < epoch
  quietMaster : ∀ other ∈ probes, other.host = some masterIP → other.electing = false
  quiet : probe.electing = false
  elsewhere : ∃ host ∈ live, probe.host = some host ∧ host ≠ masterIP

theorem foldl_max_mem (start : Int) (epochs : List Int) :
    epochs.foldl max start = start ∨ epochs.foldl max start ∈ epochs := by
  have member : epochs.foldl max start ∈ start :: epochs := List.max?_mem List.max?_cons'
  exact List.mem_cons.1 member

private theorem le_foldl_max (values : List Int) (start : Int) :
    start ≤ values.foldl max start ∧ ∀ value ∈ values, value ≤ values.foldl max start := by
  induction values generalizing start with
  | nil => simp
  | cons first rest ih =>
      obtain ⟨above, all⟩ := ih (max start first)
      refine ⟨(le_max_left start first).trans above, fun value mem => ?_⟩
      rcases List.mem_cons.mp mem with rfl | later
      · exact (le_max_right start value).trans above
      · exact all value later

theorem le_largest {value : Int} {values : List Int} (mem : value ∈ values) :
    value ≤ largest values := (le_foldl_max values 0).2 value mem

private theorem largest_mem {values : List Int} (some : values ≠ [])
    (nonnegative : ∀ value ∈ values, 0 ≤ value) : largest values ∈ values := by
  rcases foldl_max_mem 0 values with zero | mem
  · obtain ⟨value, rest, rfl⟩ := List.exists_cons_of_ne_nil some
    have upper := le_largest (List.mem_cons_self (a := value) (l := rest))
    have lower := nonnegative value List.mem_cons_self
    have same : largest (value :: rest) = value := by
      unfold largest at *
      omega
    rw [same]
    exact List.mem_cons_self
  · exact mem

theorem mem_epochs {epoch : Int} :
    epoch ∈ epochs probes ↔ ∃ probe ∈ probes, probe.host ≠ none ∧ epoch ∈ probe.epoch := by
  simp [epochs, Option.isSome_iff_ne_none, and_assoc]

/-- A sentinel on the resolved master holds the frontier. -/
theorem Armed.frontier (armed : Armed masterIP probes)
    (nonnegative : ∀ probe ∈ probes, ∀ epoch ∈ probe.epoch, 0 ≤ epoch) :
    largest (epochs (onMaster masterIP probes)) ∈ epochs (onMaster masterIP probes) := by
  refine largest_mem ?_ fun value mem => ?_
  · obtain ⟨member, mem⟩ := List.exists_mem_of_ne_nil _ armed.cohort
    have listed : member ∈ probes := List.mem_of_mem_filter mem
    have host : member.host = some masterIP := by simpa using List.of_mem_filter mem
    obtain ⟨epoch, read⟩ := Option.ne_none_iff_exists'.mp
      (armed.settled member listed masterIP host).1
    refine List.ne_nil_of_mem (mem_epochs.mpr ⟨member, mem, ?_, read⟩)
    simp [host]
  · obtain ⟨probe, onMaster, -, read⟩ := mem_epochs.mp mem
    exact nonnegative probe (List.mem_of_mem_filter onMaster) value read

variable {probe : Probe}

theorem selects_iff {agreeEpoch : Int} :
    selects live masterIP agreeEpoch probe = true ↔
      ∃ host ∈ live, probe.host = some host ∧ host ≠ masterIP ∧
        (∃ epoch ∈ probe.epoch, epoch < agreeEpoch) ∧ probe.electing = false := by
  unfold selects
  split
  next host epoch found read => simp [found, read]; tauto
  next absent =>
    simp only [Bool.false_eq_true, false_iff]
    rintro ⟨host, -, found, -, ⟨epoch, read, -⟩, -⟩
    exact absent host epoch found read

private theorem Armed.behind (armed : Armed masterIP probes)
    (nonnegative : ∀ probe ∈ probes, ∀ epoch ∈ probe.epoch, 0 ≤ epoch)
    (selected : selects live masterIP (largest (epochs (onMaster masterIP probes))) probe = true) :
    Behind live masterIP probes probe := by
  obtain ⟨host, alive, found, different, ⟨own, read, below⟩, quiet⟩ := selects_iff.mp selected
  obtain ⟨top, cohort, -, holds⟩ := mem_epochs.mp (armed.frontier nonnegative)
  have onMaster : top.host = some masterIP := by simpa using List.of_mem_filter cohort
  refine ⟨fun other mem monitors => ?_, ⟨top, List.mem_of_mem_filter cohort, _, holds, onMaster,
    fun other mem monitors epoch read => ?_, own, read, below⟩, fun other mem host => ?_, quiet,
    host, alive, found, different⟩
  · obtain ⟨host, found⟩ := Option.ne_none_iff_exists'.mp monitors
    exact (armed.settled other mem host found).1
  · rw [armed.current]
    exact le_largest (mem_epochs.mpr ⟨other, mem, monitors, read⟩)
  · exact (armed.settled other mem masterIP host).2 rfl

private theorem onDeadMaster_of_live {host : String} (alive : host ∈ live)
    (found : probe.host = some host) : onDeadMaster live masterIP probe = false := by
  simp [onDeadMaster, found, alive]

/-- A stale-epoch target is behind and not on a dead master, whatever the order of the probes. -/
theorem classifyRepointTargets_direction (live : List String) (masterIP : String) (allow : Bool)
    (probes : List Probe)
    (nonnegative : ∀ probe ∈ probes, ∀ epoch ∈ probe.epoch, 0 ≤ epoch) :
    (∀ target ∈ (classifyRepointTargets live masterIP allow probes).staleEpoch,
      ∃ probe ∈ probes, probe.endpoint = target ∧ Behind live masterIP probes probe ∧
        onDeadMaster live masterIP probe = false ∧
        ((∀ other ∈ probes, other.endpoint = target → other = probe) →
          target ∉ (classifyRepointTargets live masterIP allow probes).deadMaster)) ∧
      ∀ probes', probes.Perm probes' →
        SameTargets (classifyRepointTargets live masterIP allow probes)
          (classifyRepointTargets live masterIP allow probes') := by
  refine ⟨fun target stale => ?_, fun probes' perm => classifyRepointTargets_perm allow perm⟩
  unfold classifyRepointTargets at stale ⊢
  split_ifs at stale ⊢ with disabled allowed
  · cases stale
  · by_cases armed : Armed masterIP probes
    · rw [classifyStaleEpochTargets_armed armed] at stale
      obtain ⟨probe, mem, rfl⟩ := List.mem_map.mp stale
      obtain ⟨listed, selected⟩ := List.mem_filter.mp mem
      have behind := armed.behind nonnegative selected
      obtain ⟨host, alive, found, -⟩ := behind.elsewhere
      have spared : onDeadMaster live masterIP probe = false := onDeadMaster_of_live alive found
      refine ⟨probe, listed, rfl, behind, spared, fun once dead => ?_⟩
      obtain ⟨other, mem, same⟩ := List.mem_map.mp dead
      obtain ⟨listed, dead⟩ := List.mem_filter.mp mem
      rw [once other listed same, spared] at dead
      cases dead
    · rw [classifyStaleEpochTargets_disarmed armed] at stale
      cases stale
  · cases stale

/-- Two sentinels on the resolved master, and one that has missed the failover. -/
def failedOverProbes : List Probe :=
  [⟨⟨"vk-sentinel-0", "10.0.1.1:26379"⟩, some ⟨"10.0.0.2:6379", some 5, "master"⟩⟩,
    ⟨⟨"vk-sentinel-1", "10.0.1.2:26379"⟩, some ⟨"10.0.0.1:6379", some 3, "master"⟩⟩,
    ⟨⟨"vk-sentinel-2", "10.0.1.3:26379"⟩, some ⟨"10.0.0.2:6379", some 5, "master"⟩⟩]

theorem classifyRepointTargets_direction_failedOver :
    ⟨"vk-sentinel-1", "10.0.1.2:26379"⟩ ∈ (classifyRepointTargets ["10.0.0.1", "10.0.0.2"]
        "10.0.0.2" true failedOverProbes).staleEpoch ∧
      ∃ probe ∈ failedOverProbes, probe.endpoint = ⟨"vk-sentinel-1", "10.0.1.2:26379"⟩ ∧
        Behind ["10.0.0.1", "10.0.0.2"] "10.0.0.2" failedOverProbes probe := by
  have nonnegative : ∀ probe ∈ failedOverProbes, ∀ epoch ∈ probe.epoch, 0 ≤ epoch := by decide
  have stale : ⟨"vk-sentinel-1", "10.0.1.2:26379"⟩ ∈ (classifyRepointTargets
      ["10.0.0.1", "10.0.0.2"] "10.0.0.2" true failedOverProbes).staleEpoch := by decide
  obtain ⟨probe, mem, same, behind, -⟩ := (classifyRepointTargets_direction
    ["10.0.0.1", "10.0.0.2"] "10.0.0.2" true failedOverProbes nonnegative).1 _ stale
  exact ⟨stale, probe, mem, same, behind⟩

end Selected

end EpochFrontier

end Velkir
