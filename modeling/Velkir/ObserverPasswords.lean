import Velkir.ObserverLedger

/-!
# The passwords of the observers

Along every run of calls, shutdowns and goroutines the registry counts the observers and what others
registered.
-/

namespace Velkir.ObserverManager

open Logging Machine

section Map

variable {κ : Type*} [DecidableEq κ] (observers : AList fun _ : κ => Instance) (cr : κ)

theorem values_perm :
    (observers.entries.map (·.2)).Perm
      ((observers.lookup cr).toList ++ (observers.erase cr).entries.map (·.2)) := by
  by_cases listed : cr ∈ observers.entries.keys
  · obtain ⟨o, front, back, -, whole, erased⟩ := List.exists_of_kerase listed
    have found : observers.lookup cr = some o := by
      refine (List.mem_dlookup_iff observers.nodupKeys).mpr ?_
      rw [whole]
      simp
    have erased : (observers.erase cr).entries = front ++ back := erased
    rw [found, erased, whole]
    simp only [List.map_append, List.map_cons, Option.toList_some, List.singleton_append]
    exact List.perm_middle
  · have found : observers.lookup cr = none := List.dlookup_eq_none.mpr listed
    have erased : (observers.erase cr).entries = observers.entries :=
      List.kerase_of_notMem_keys listed
    rw [found, erased]
    exact List.Perm.refl _

end Map

section Runs

variable {κ : Type*} [DecidableEq κ] {s : State κ} {call call' : Call κ}
  {front back : List (Call κ)}

@[simp]
private def Critical.unregistered : Critical κ → List Instance
  | .register o _ => [o]
  | _ => []

@[simp]
private def Call.stopped : Call κ → List Instance
  | .forgetting o _ => [o]
  | _ => []

private def State.ledger (s : State κ) : Ledger where
  installed := s.installed
  pending := s.pending
  starting := s.starting
  unregistered := s.inside.toList.flatMap Critical.unregistered
  stopped := s.calls.flatMap Call.stopped
  scopes := s.scopes

/-- The observer that `Ensure` found in the map and is going to replace. -/
def Critical.found : Critical κ → Option (κ × Option Instance)
  | .start cr _ _ prev => some (cr, prev)
  | .install cr _ prev => some (cr, prev)
  | _ => none

/-- The books agree with the state. -/
structure Accounted (s : State κ) : Prop where
  sound : s.ledger.Sound s.registry s.alive s.created
  current : ∀ critical, s.inside = some critical → ∀ cr prev, critical.found = some (cr, prev) →
    s.observers.lookup cr = prev

theorem calls_split {index : Nat} (there : s.calls[index]? = some call) :
    ∃ front back, s.calls = front ++ call :: back ∧
      ∀ call', s.calls.set index call' = front ++ call' :: back := by
  obtain ⟨bound, rfl⟩ := List.getElem?_eq_some_iff.mp there
  refine ⟨s.calls.take index, s.calls.drop (index + 1), ?_, fun call' => ?_⟩
  · rw [← List.drop_eq_getElem_cons bound, List.take_append_drop]
  · rw [List.set_eq_take_append_cons_drop, if_pos bound]

omit [DecidableEq κ] in
private theorem flatMap_perm {α : Type*} (f : Call κ → List α) (front back : List (Call κ))
    (call : Call κ) :
    ((front ++ call :: back).flatMap f).Perm
      (f call ++ (front.flatMap f ++ back.flatMap f)) := by
  rw [List.flatMap_append, List.flatMap_cons]
  exact List.perm_append_comm_assoc _ _ _

variable {taken : List Instance}

theorem pending_perm (whole : s.calls = front ++ call :: back)
    (more : call'.pending.Perm (taken ++ call.pending)) :
    (s.inside.toList.flatMap Critical.pending ++
      (front ++ call' :: back).flatMap Call.pending).Perm (taken ++ s.pending) := by
  have calls : ((front ++ call' :: back).flatMap Call.pending).Perm
      (taken ++ s.calls.flatMap Call.pending) := by
    rw [whole]
    refine (flatMap_perm _ front back call').trans ((more.append_right _).trans ?_)
    rw [List.append_assoc]
    exact (flatMap_perm _ front back call).symm.append_left taken
  exact (calls.append_left _).trans (List.perm_append_comm_assoc _ _ _)

variable {o : Instance}

theorem mem_stopped (whole : s.calls = front ++ call :: back)
    (mem : o ∈ (front ++ call' :: back).flatMap Call.stopped) :
    o ∈ call'.stopped ∨ o ∈ s.ledger.stopped := by
  simp only [State.ledger, whole, List.flatMap_append, List.flatMap_cons, List.mem_append] at mem ⊢
  tauto

theorem Accounted.replace (accounted : Accounted s) (whole : s.calls = front ++ call :: back)
    (pending : call'.pending.Perm call.pending)
    (quiet : ∀ o ∈ call'.stopped, o ∈ call.pending ∧ s.alive o = 0) :
    Accounted { s with calls := front ++ call' :: back } := by
  have more : call'.pending.Perm ([] ++ call.pending) := pending
  have moved : ({ s with calls := front ++ call' :: back } : State κ).pending.Perm s.pending :=
    pending_perm whole more
  refine ⟨accounted.sound.reorder moved fun o mem => ?_, accounted.current⟩
  rcases mem_stopped whole mem with here | before
  · refine .inr ⟨?_, (quiet o here).2⟩
    have listed : o ∈ s.calls.flatMap Call.pending := by
      rw [whole]
      exact List.mem_flatMap.mpr ⟨call, by simp, (quiet o here).1⟩
    exact List.mem_append_right _ listed
  · exact .inl before

private theorem Accounted.take (accounted : Accounted s) (whole : s.calls = front ++ call :: back)
    (free : s.inside = none) {observers : AList fun _ : κ => Instance}
    (split : s.installed.Perm (taken ++ observers.entries.map (·.2))) (empty : call.pending = [])
    (rootCtx : Option Nat) :
    Accounted { s with
      calls := front ++ .retire taken :: back, observers := observers, rootCtx := rootCtx } := by
  have none : s.ledger.unregistered = [] := by
    rw [State.ledger, free]
    rfl
  have more : (Call.retire taken : Call κ).pending.Perm (taken ++ call.pending) := by
    rw [empty, List.append_nil]
    exact List.Perm.refl taken
  have moved := accounted.sound.take split none (pending_perm whole more)
  refine ⟨moved.reorder (List.Perm.refl _) fun o mem => .inl ?_, ?_⟩
  · rcases mem_stopped whole mem with here | before
    · cases here
    · exact before
  · intro critical inside
    rw [free] at inside
    cases inside

private theorem Accounted.forget (accounted : Accounted s) {toStop : List Instance}
    (whole : s.calls = front ++ .forgetting o toStop :: back) :
    Accounted { s with
      calls := front ++ .retire toStop :: back
      registry := s.registry.forget o.config.password } := by
  have quiet : o ∈ s.ledger.stopped := by
    simp [State.ledger, whole]
  have moved : s.pending.Perm
      (o :: ({ s with calls := front ++ .retire toStop :: back } : State κ).pending) := by
    have more : (Call.forgetting o toStop : Call κ).pending.Perm
        ([o] ++ (Call.retire toStop : Call κ).pending) := List.Perm.refl _
    rw [State.pending, whole]
    exact pending_perm (s := { s with calls := front ++ .retire toStop :: back }) rfl more
  refine ⟨accounted.sound.forget moved quiet fun other mem => ?_, accounted.current⟩
  rcases mem_stopped whole mem with here | before
  · cases here
  · exact before

private theorem Accounted.lock (accounted : Accounted s) (free : s.inside = none) {cr : κ}
    {prev : Option Instance} (found : s.observers.lookup cr = prev) (config : Config)
    (rootCtx : Nat) : Accounted { s with inside := some (.start cr config rootCtx prev) } := by
  have same : ({ s with inside := some (.start cr config rootCtx prev) } : State κ).ledger =
      s.ledger := by
    simp [State.ledger, State.pending, State.starting, State.installed, free]
  refine ⟨same ▸ accounted.sound, ?_⟩
  rintro critical ⟨⟩ cr' prev' ⟨⟩
  exact found

private theorem Accounted.enter (accounted : Accounted s) (free : s.inside = none)
    (whole : s.calls = front ++ call :: back) :
    Accounted { (call.enter s).2 with calls := front ++ (call.enter s).1 :: back } := by
  have unchanged : Accounted { s with calls := front ++ call :: back } := whole ▸ accounted
  have returned (empty : call.pending = []) :
      Accounted { s with calls := front ++ .returned :: back } :=
    accounted.replace whole (empty ▸ List.Perm.refl _) nofun
  cases call with
  | ensure cr config =>
      simp only [Call.enter]
      split
      next => exact returned rfl
      next rootCtx _ =>
        split
        next absent => exact (returned rfl).lock free absent config rootCtx
        next prev found =>
          split
          next => exact returned rfl
          next => exact (returned rfl).lock free found config rootCtx
  | remove cr =>
      simp only [Call.enter]
      split
      next => exact returned rfl
      next o found =>
        have split := values_perm s.observers cr
        rw [found] at split
        exact accounted.take whole free split rfl s.rootCtx
  | start ctx =>
      have serving : Accounted { s with calls := front ++ .serving ctx :: back } :=
        accounted.replace whole (List.Perm.refl _) nofun
      exact ⟨serving.sound, serving.current⟩
  | serving ctx =>
      simp only [Call.enter]
      split
      next =>
        have split : s.installed.Perm
            (s.installed ++ (∅ : AList fun _ : κ => Instance).entries.map (·.2)) := by
          rw [AList.empty_entries, List.map_nil, List.append_nil]
        exact accounted.take whole free split rfl none
      next => exact unchanged
  | retire toStop => exact unchanged
  | stopping o toStop => exact unchanged
  | forgetting o toStop => exact unchanged
  | returned => exact unchanged

variable {critical : Critical κ}

private theorem Accounted.inside (accounted : Accounted s) (inside : s.inside = some critical) :
    Accounted (critical.advance s) := by
  cases critical with
  | start cr config rootCtx prev =>
      have none : s.ledger.starting = [] := by
        simp [State.ledger, State.starting, inside]
      have launched := accounted.sound.launch (o := ⟨s.created, config, rootCtx⟩) rfl none
        (Instance.goroutines ⟨s.created, config, rootCtx⟩)
      have same : ((Critical.start cr config rootCtx prev).advance s).ledger =
          { s.ledger with starting := [⟨s.created, config, rootCtx⟩] } := by
        simp [State.ledger, State.pending, State.starting, State.installed, Critical.advance,
          inside]
      refine ⟨same ▸ launched, ?_⟩
      rintro critical ⟨⟩ cr' prev' ⟨⟩
      exact accounted.current _ inside cr prev rfl
  | install cr o prev =>
      have found := accounted.current _ inside cr prev rfl
      have split := values_perm s.observers cr
      rw [found] at split
      have starting : s.ledger.starting = [o] := by
        simp [State.ledger, State.starting, inside]
      have none : s.ledger.unregistered = [] := by
        simp [State.ledger, inside]
      have moved : ((Critical.install cr o prev).advance s).pending.Perm
          (prev.toList ++ s.ledger.pending) := by
        simp [State.ledger, State.pending, Critical.advance, inside]
      have installed := accounted.sound.install split starting none moved
      have same : ((Critical.install cr o prev).advance s).ledger =
          ⟨o :: (s.observers.erase cr).entries.map (·.2),
            ((Critical.install cr o prev).advance s).pending, [], [o], s.ledger.stopped,
            s.scopes⟩ :=
        rfl
      refine ⟨same ▸ installed, ?_⟩
      rintro critical ⟨⟩ cr' prev' ⟨⟩
  | register o prev =>
      have unregistered : s.ledger.unregistered = [o] := by
        simp [State.ledger, inside]
      have registered := accounted.sound.register unregistered
      have same : ((Critical.register o prev : Critical κ).advance s).ledger =
          { s.ledger with unregistered := [] } := by
        simp [State.ledger, State.pending, State.starting, State.installed, Critical.advance,
          inside]
      refine ⟨same ▸ registered, ?_⟩
      rintro critical ⟨⟩ cr' prev' ⟨⟩
  | unlock prev =>
      have moved : ((Critical.unlock prev : Critical κ).advance s).pending.Perm
          s.ledger.pending := by
        simp only [State.ledger, State.pending, Critical.advance, inside, Critical.pending,
          Option.toList_none, List.flatMap_nil, List.nil_append, Option.toList_some,
          List.flatMap_cons, List.append_nil, List.flatMap_append, Call.pending]
        exact List.perm_append_comm
      have same : ((Critical.unlock prev : Critical κ).advance s).ledger =
          { s.ledger with
            pending := ((Critical.unlock prev : Critical κ).advance s).pending
            stopped := s.ledger.stopped } := by
        simp [State.ledger, State.starting, State.installed, Critical.advance, inside]
      refine ⟨same ▸ accounted.sound.reorder moved fun o mem => .inl mem, ?_⟩
      rintro critical ⟨⟩

private theorem Accounted.drain (accounted : Accounted s) (whole : s.calls = front ++ call :: back)
    (pick : Nat) :
    Accounted { (call.drain pick s).2 with calls := front ++ (call.drain pick s).1 :: back } := by
  have unchanged : Accounted { s with calls := front ++ call :: back } := whole ▸ accounted
  cases call with
  | retire toStop =>
      simp only [Call.drain]
      split
      next => exact unchanged
      next o there =>
        have picked : (Call.stopping o (toStop.eraseIdx pick) : Call κ).pending.Perm toStop := by
          obtain ⟨bound, rfl⟩ := List.getElem?_eq_some_iff.mp there
          exact List.getElem_cons_eraseIdx_perm bound
        have next : Accounted
            { s with calls := front ++ .stopping o (toStop.eraseIdx pick) :: back } :=
          accounted.replace whole picked (by simp [Call.stopped])
        exact ⟨next.sound, next.current⟩
  | stopping o toStop =>
      simp only [Call.drain]
      split
      next quiet =>
        refine accounted.replace whole (List.Perm.refl _) fun other mem => ?_
        rw [List.mem_singleton.mp mem]
        exact ⟨List.mem_cons_self, quiet⟩
      next => exact unchanged
  | forgetting o toStop => exact accounted.forget whole
  | ensure cr config => exact unchanged
  | remove cr => exact unchanged
  | start ctx => exact unchanged
  | serving ctx => exact unchanged
  | returned => exact unchanged

private theorem Accounted.begin (accounted : Accounted s) (request : Request κ) :
    Accounted { s with calls := s.calls ++ [request.begin] } := by
  have empty : request.begin.pending = [] ∧ request.begin.stopped = [] := by
    cases request with
    | ensure cr masterName password endpoints =>
        by_cases invalid : masterName = "" ∨ endpoints = []
        · rw [Request.begin, if_pos invalid]
          exact ⟨rfl, rfl⟩
        · rw [Request.begin, if_neg invalid]
          exact ⟨rfl, rfl⟩
    | remove cr => exact ⟨rfl, rfl⟩
    | start ctx => exact ⟨rfl, rfl⟩
  have same : ({ s with calls := s.calls ++ [request.begin] } : State κ).ledger = s.ledger := by
    simp only [State.ledger, State.pending, State.starting, State.installed, List.flatMap_append,
      List.flatMap_singleton, empty, List.append_nil]
  exact ⟨same ▸ accounted.sound, accounted.current⟩

private theorem Accounted.step (accounted : Accounted s) (act : Act κ) :
    Accounted (step act s) := by
  cases act with
  | call request => exact accounted.begin request
  | enter index =>
      simp only [ObserverManager.step]
      split
      next call free there =>
        obtain ⟨front, back, whole, replaced⟩ := calls_split there
        rw [replaced]
        exact accounted.enter free whole
      next => exact accounted
  | inside =>
      simp only [ObserverManager.step]
      split
      next => exact accounted
      next critical inside => exact accounted.inside inside
  | drain index pick =>
      simp only [ObserverManager.step]
      split
      next => exact accounted
      next call there =>
        obtain ⟨front, back, whole, replaced⟩ := calls_split there
        rw [replaced]
        exact accounted.drain whole pick
  | exit o =>
      simp only [ObserverManager.step]
      split
      next =>
        have less : ∀ other, Function.update s.alive o (s.alive o - 1) other ≤ s.alive other := by
          intro other
          rcases eq_or_ne other o with rfl | different
          · rw [Function.update_self]
            exact Nat.sub_le _ 1
          · rw [Function.update_of_ne different]
        exact ⟨accounted.sound.exit less, accounted.current⟩
      next => exact accounted
  | cancel ctx => exact ⟨accounted.sound, accounted.current⟩
  | scope token => exact ⟨accounted.sound.scope token, accounted.current⟩
  | release token =>
      simp only [ObserverManager.step]
      split
      next mem => exact ⟨accounted.sound.release mem, accounted.current⟩
      next => exact accounted

private theorem accounted_empty : Accounted ({} : State κ) where
  sound :=
    { fresh := nofun
      balance := fun _ _ => rfl
      listed := List.nil_sublist _
      known := fun _ running => absurd running (lt_irrefl 0)
      stopped := nofun }
  current := nofun

private theorem Accounted.cleared (accounted : Accounted s) : Cleared s := by
  rintro ⟨installed, pending, -⟩ token long
  have balance := accounted.sound.balance token long
  have covered := accounted.sound.unregistered_le token
  simp only [State.ledger, installed, pending, held_nil] at balance covered
  omega

private theorem Accounted.registered_of_scoped (accounted : Accounted s) {token : Bytes}
    (long : minTokenLen ≤ token.length) (mem : token ∈ s.scopes) :
    token ∈ s.registry.counts := by
  have balance := accounted.sound.balance token long
  have covered := accounted.sound.unregistered_le token
  have positive : 0 < s.ledger.scopes.count token := List.count_pos_iff.mpr mem
  rw [s.registry.mem_iff_count]
  omega

/-- Every `Ensure` under way has its password registered by its caller. -/
def Held (s : State κ) : Prop :=
  ∀ token ∈ s.ensuring, minTokenLen ≤ token.length → token ∈ s.scopes

private theorem mem_ensuring (fresh : o ∈ s.ledger.starting ∨ o ∈ s.ledger.unregistered) :
    o.config.password ∈ s.ensuring := by
  refine List.mem_append_left _ ?_
  simp only [State.ledger, State.starting, List.mem_flatMap] at fresh ⊢
  rcases fresh with ⟨critical, inside, mem⟩ | ⟨critical, inside, mem⟩
  · refine ⟨critical, inside, ?_⟩
    cases critical <;> simp_all
  · refine ⟨critical, inside, ?_⟩
    cases critical <;> simp_all

private theorem Accounted.safe (accounted : Accounted s) (callers : Held s) : Protected s := by
  intro o running long
  by_cases waiting : o.config.password ∈ s.ensuring
  · exact accounted.registered_of_scoped long (callers _ waiting long)
  have balance := accounted.sound.balance o.config.password long
  have none : held o.config.password s.ledger.unregistered = 0 := by
    refine List.countP_eq_zero.mpr fun other mem same => waiting ?_
    have same : other.config.password = o.config.password := by simpa using same
    exact same ▸ mem_ensuring (.inr mem)
  have known := accounted.sound.known o running
  simp only [Ledger.all, List.mem_append] at known
  rw [s.registry.mem_iff_count]
  rcases known with installed | pending | starting
  · have positive := held_pos installed rfl
    omega
  · have positive := held_pos pending rfl
    omega
  · exact absurd (mem_ensuring (.inl starting)) waiting

omit [DecidableEq κ] in
private theorem mem_ensuring_begin {request : Request κ} {token : Bytes}
    (mem : token ∈ request.begin.ensuring) :
    ∃ cr masterName endpoints, request = .ensure cr masterName token endpoints := by
  cases request with
  | ensure cr masterName password endpoints =>
      rw [Request.begin] at mem
      split at mem
      next => cases mem
      next =>
        rw [List.mem_singleton.mp mem]
        exact ⟨cr, masterName, endpoints, rfl⟩
  | remove cr => cases mem
  | start ctx => cases mem

/-- A call that goes on is an `Ensure` with the same password or none. -/
theorem ensuring_replace (whole : s.calls = front ++ call :: back) {next : State κ}
    (less : next.inside.toList.flatMap Critical.ensuring ++ call'.ensuring ⊆
      s.inside.toList.flatMap Critical.ensuring ++ call.ensuring) :
    ({ next with calls := front ++ call' :: back } : State κ).ensuring ⊆ s.ensuring := by
  intro token mem
  have kept := @less token
  simp only [State.ensuring, whole, List.flatMap_append, List.flatMap_cons, List.mem_append]
    at mem kept ⊢
  tauto

private theorem enter_ensuring (free : s.inside = none) :
    (call.enter s).2.inside.toList.flatMap Critical.ensuring ++ (call.enter s).1.ensuring ⊆
      s.inside.toList.flatMap Critical.ensuring ++ call.ensuring := by
  cases call with
  | ensure cr config =>
      simp only [Call.enter]
      split
      next => simp [free]
      next =>
        split
        next => simp [free]
        next =>
          split
          next => simp [free]
          next => simp [free]
  | remove cr =>
      simp only [Call.enter]
      split
      next => exact List.Subset.refl _
      next => exact List.Subset.refl _
  | serving ctx =>
      simp only [Call.enter]
      split
      next => exact List.Subset.refl _
      next => exact List.Subset.refl _
  | _ => exact List.Subset.refl _

private theorem enter_scopes : (call.enter s).2.scopes = s.scopes := by
  unfold Call.enter
  repeat' split
  all_goals rfl

private theorem drain_ensuring (pick : Nat) :
    (call.drain pick s).2.inside.toList.flatMap Critical.ensuring ++
        (call.drain pick s).1.ensuring ⊆
      s.inside.toList.flatMap Critical.ensuring ++ call.ensuring := by
  cases call with
  | retire toStop =>
      simp only [Call.drain]
      split
      next => exact List.Subset.refl _
      next => exact List.Subset.refl _
  | stopping o toStop =>
      simp only [Call.drain]
      split
      next => exact List.Subset.refl _
      next => exact List.Subset.refl _
  | _ => exact List.Subset.refl _

private theorem drain_scopes (pick : Nat) : (call.drain pick s).2.scopes = s.scopes := by
  unfold Call.drain
  repeat' split
  all_goals rfl

private theorem inside_ensuring (inside : s.inside = some critical) :
    (critical.advance s).ensuring ⊆ s.ensuring := by
  cases critical <;> simp [State.ensuring, Critical.advance, inside]

private theorem advance_scopes (s : State κ) (critical : Critical κ) :
    (critical.advance s).scopes = s.scopes := by
  cases critical <;> rfl

private theorem Held.of_subset (callers : Held s) {next : State κ}
    (less : next.ensuring ⊆ s.ensuring) (same : next.scopes = s.scopes) : Held next := by
  intro token mem long
  rw [same]
  exact callers token (less mem) long

private theorem Held.step (callers : Held s) {act : Act κ} (meets : Scoped act s) :
    Held (step act s) := by
  cases act with
  | call request =>
      intro token mem long
      simp only [ObserverManager.step, State.ensuring, List.flatMap_append, List.flatMap_singleton,
        ← List.append_assoc] at mem
      rcases List.mem_append.mp mem with before | new
      · exact callers token before long
      · obtain ⟨cr, masterName, endpoints, rfl⟩ := mem_ensuring_begin new
        exact meets long
  | enter index =>
      simp only [ObserverManager.step]
      split
      next call free there =>
        obtain ⟨front, back, whole, replaced⟩ := calls_split there
        rw [replaced]
        exact callers.of_subset (ensuring_replace whole (enter_ensuring free)) enter_scopes
      next => exact callers
  | inside =>
      simp only [ObserverManager.step]
      split
      next => exact callers
      next critical inside =>
        exact callers.of_subset (inside_ensuring inside) (advance_scopes s critical)
  | drain index pick =>
      simp only [ObserverManager.step]
      split
      next => exact callers
      next call there =>
        obtain ⟨front, back, whole, replaced⟩ := calls_split there
        rw [replaced]
        exact callers.of_subset (ensuring_replace whole (drain_ensuring pick)) (drain_scopes pick)
  | exit o =>
      simp only [ObserverManager.step]
      split
      next => exact callers
      next => exact callers
  | cancel ctx => exact callers
  | scope token => exact fun other mem long => List.mem_cons_of_mem token (callers other mem long)
  | release token =>
      simp only [ObserverManager.step]
      split
      next =>
        intro other mem long
        rcases eq_or_ne other token with rfl | different
        · exact meets mem
        · exact (List.mem_erase_of_ne different).mpr (callers other mem long)
      next => exact callers

theorem accounted_run (acts : List (Act κ)) : Accounted (run step acts {}) :=
  run_invariant Accounted (fun act _ accounted => accounted.step act) acts accounted_empty

private theorem held_run {acts : List (Act κ)} (meets : Meets step Scoped acts {}) :
    Held (run step acts {}) :=
  run_induction Held (fun _ _ here callers => callers.step here) meets nofun

/-- What runs is in the map, or in the hands of a call. -/
def Owned (s : State κ) : Prop :=
  ∀ o, 0 < s.alive o →
    (∃ cr, s.observers.lookup cr = some o) ∨ o ∈ s.pending ∨ o ∈ s.starting

/-- No goroutine is leaked, however the calls overlap. -/
theorem run_owned (acts : List (Act κ)) : Owned (run step acts {}) := by
  intro o running
  have known := (accounted_run acts).sound.known o running
  simp only [Ledger.all, List.mem_append] at known
  refine known.imp_left fun installed => ?_
  obtain ⟨⟨cr, _⟩, mem, rfl⟩ := List.mem_map.mp installed
  exact ⟨cr, AList.mem_lookup_iff.mpr mem⟩

/-- A running observer has its password registered, and without observers only scopes are left. -/
theorem run_protected (acts : List (Act κ)) :
    (Meets step Scoped acts {} → Protected (run step acts {})) ∧ Cleared (run step acts {}) :=
  ⟨fun meets => (accounted_run acts).safe (held_run meets), (accounted_run acts).cleared⟩

end Runs

section First

def secret : Bytes := List.replicate 8 120

def watching : Instance := ⟨0, ⟨"mymaster", secret, [⟨"valkey-0", "10.0.0.1"⟩]⟩, 0⟩

/-- The manager starts, and an `Ensure` starts its first observer. -/
def firstEnsure : List (Act Nat) :=
  [.call (.start 0), .enter 0, .call (.ensure 7 "mymaster" secret [⟨"valkey-0", "10.0.0.1"⟩]),
    .enter 1, .inside]

/-- A reconcile releases the password once `Ensure` has registered it. -/
def reconcile : List (Act Nat) :=
  .scope secret :: firstEnsure ++ [.inside, .inside, .inside, .release secret]

theorem run_protected_reconcile :
    0 < (run step reconcile {}).alive watching ∧ (run step reconcile {}).scopes = [] ∧
      Protected (run step reconcile {}) := by
  refine ⟨by decide, by decide, (run_protected reconcile).1 ?_⟩
  exact ⟨trivial, trivial, trivial, fun _ => List.mem_cons_self, trivial, trivial, trivial,
    trivial, trivial, fun waiting => absurd waiting (by decide), trivial⟩

/-- Without a scope of the caller, the goroutines run before the password is registered. -/
theorem firstEnsure_not_protected : ¬ Protected (run step firstEnsure {}) := by
  intro safe
  have registered := safe watching (by decide) (by decide)
  exact absurd registered (by decide)

end First

end Velkir.ObserverManager
