import Velkir.ObserverCalls

/-!
# Where the observers are

Every running observer is in the map, is being stopped, or is just being started. The registry
counts the first two.
-/

namespace Velkir.ObserverManager

open Logging

/-- How many of these observers have the password. -/
def held (token : Bytes) (observers : List Instance) : Nat :=
  observers.countP fun o => o.config.password = token

@[simp]
theorem held_nil (token : Bytes) : held token [] = 0 := rfl

theorem held_cons (token : Bytes) (o : Instance) (observers : List Instance) :
    held token (o :: observers) =
      held token observers + if o.config.password = token then 1 else 0 := by
  simp [held, List.countP_cons]

theorem held_append (token : Bytes) (left right : List Instance) :
    held token (left ++ right) = held token left + held token right := List.countP_append

theorem held_pos {token : Bytes} {observers : List Instance} {o : Instance} (mem : o ∈ observers)
    (same : o.config.password = token) : 0 < held token observers :=
  List.countP_pos_iff.mpr ⟨o, mem, by simpa using same⟩

theorem count_cons_token (token other : Bytes) (tokens : List Bytes) :
    (token :: tokens).count other = tokens.count other + if other = token then 1 else 0 := by
  rcases eq_or_ne other token with rfl | different
  · rw [List.count_cons_self, if_pos rfl]
  · rw [List.count_cons_of_ne different.symm, if_neg different, Nat.add_zero]

/-- The observers: in the map, registered, stopping or stopped. -/
structure Ledger where
  installed : List Instance
  pending : List Instance
  starting : List Instance
  unregistered : List Instance
  stopped : List Instance
  scopes : List Bytes

/-- The observers that the manager or one of its calls knows. -/
def Ledger.all (ledger : Ledger) : List Instance :=
  ledger.installed ++ (ledger.pending ++ ledger.starting)

/-- The registry counts observers in the map or stopping, and scopes. -/
structure Ledger.Sound (ledger : Ledger) (registry : Registry) (alive : Instance → Nat)
    (created : Nat) : Prop where
  fresh : ∀ o ∈ ledger.all, o.id < created
  balance : ∀ token, minTokenLen ≤ token.length →
    registry.count token + held token ledger.unregistered =
      held token ledger.installed + held token ledger.pending + ledger.scopes.count token
  listed : ledger.unregistered.Sublist ledger.installed
  known : ∀ o, 0 < alive o → o ∈ ledger.all
  stopped : ∀ o ∈ ledger.stopped, o.id < created ∧ alive o = 0

namespace Ledger.Sound

variable {ledger : Ledger} {registry : Registry} {alive alive' : Instance → Nat} {created : Nat}
  {o : Instance} {prev rest taken pending stopped : List Instance}
  (sound : ledger.Sound registry alive created)

include sound

theorem unregistered_le (token : Bytes) :
    held token ledger.unregistered ≤ held token ledger.installed := sound.listed.countP_le

theorem launch (number : o.id = created) (none : ledger.starting = []) (goroutines : Nat) :
    ({ ledger with starting := [o] } : Ledger).Sound registry
      (Function.update alive o goroutines) (created + 1) where
  fresh other mem := by
    simp only [all, List.mem_append, List.mem_singleton] at mem
    have before := sound.fresh other
    simp only [all, none, List.append_nil, List.mem_append] at before
    rcases mem with installed | pending | rfl
    · exact (before (.inl installed)).trans (Nat.lt_succ_self created)
    · exact (before (.inr pending)).trans (Nat.lt_succ_self created)
    · rw [number]
      exact Nat.lt_succ_self created
  balance := sound.balance
  listed := sound.listed
  known other running := by
    rcases eq_or_ne other o with rfl | different
    · simp [all]
    · rw [Function.update_of_ne different] at running
      have before := sound.known other running
      simp only [all, none, List.append_nil, List.mem_append] at before ⊢
      exact before.imp_right .inl
  stopped other mem := by
    obtain ⟨old, quiet⟩ := sound.stopped other mem
    have different : other ≠ o := by
      rintro rfl
      exact absurd number old.ne
    rw [Function.update_of_ne different]
    exact ⟨old.trans (Nat.lt_succ_self created), quiet⟩

theorem install (split : ledger.installed.Perm (prev ++ rest)) (starting : ledger.starting = [o])
    (none : ledger.unregistered = []) (moved : pending.Perm (prev ++ ledger.pending)) :
    (⟨o :: rest, pending, [], [o], ledger.stopped, ledger.scopes⟩ : Ledger).Sound registry alive
      created := by
  have same : ∀ other,
      other ∈ (⟨o :: rest, pending, [], [o], ledger.stopped, ledger.scopes⟩ : Ledger).all ↔
        other ∈ ledger.all := by
    intro other
    simp only [all, List.mem_append, List.mem_cons, split.mem_iff, moved.mem_iff, starting,
      List.not_mem_nil, or_false]
    tauto
  refine ⟨fun other mem => sound.fresh other ((same other).mp mem), fun token long => ?_,
    (List.nil_sublist rest).cons_cons o,
    fun other running => (same other).mpr (sound.known other running), sound.stopped⟩
  · have balance := sound.balance token long
    have counts : held token ledger.installed = held token (prev ++ rest) := split.countP_eq _
    have counts' : held token pending = held token (prev ++ ledger.pending) := moved.countP_eq _
    rw [none, counts, held_append] at balance
    rw [counts', held_append, held_cons, held_cons]
    simp only [held_nil] at balance ⊢
    omega

theorem register (unregistered : ledger.unregistered = [o]) :
    ({ ledger with unregistered := [] } : Ledger).Sound (registry.register o.config.password) alive
      created where
  fresh := sound.fresh
  balance token long := by
    have balance := sound.balance token long
    rw [unregistered, held_cons, held_nil, Nat.zero_add] at balance
    rw [Registry.count_register _ _ long, held_nil, ← balance]
    simp only [eq_comm, Nat.add_zero]
  listed := List.nil_sublist _
  known := sound.known
  stopped := sound.stopped

theorem take (split : ledger.installed.Perm (taken ++ rest)) (none : ledger.unregistered = [])
    (moved : pending.Perm (taken ++ ledger.pending)) :
    ({ ledger with installed := rest, pending := pending } : Ledger).Sound registry alive
      created := by
  have same : ∀ other,
      other ∈ ({ ledger with installed := rest, pending := pending } : Ledger).all ↔
        other ∈ ledger.all := by
    intro other
    simp only [all, List.mem_append, split.mem_iff, moved.mem_iff]
    tauto
  refine ⟨fun other mem => sound.fresh other ((same other).mp mem), fun token long => ?_,
    none ▸ List.nil_sublist rest,
    fun other running => (same other).mpr (sound.known other running), sound.stopped⟩
  · have balance := sound.balance token long
    have counts : held token ledger.installed = held token (taken ++ rest) := split.countP_eq _
    have counts' : held token pending = held token (taken ++ ledger.pending) := moved.countP_eq _
    rw [counts, held_append] at balance
    rw [counts', held_append]
    dsimp only
    omega

/-- Calls may go through observers in any order, and note a stop. -/
theorem reorder (moved : pending.Perm ledger.pending)
    (quiet : ∀ o ∈ stopped, o ∈ ledger.stopped ∨ (o ∈ ledger.pending ∧ alive o = 0)) :
    ({ ledger with pending := pending, stopped := stopped } : Ledger).Sound registry alive
      created := by
  have same : ∀ other,
      other ∈ ({ ledger with pending := pending, stopped := stopped } : Ledger).all ↔
        other ∈ ledger.all := by
    intro other
    simp only [all, List.mem_append, moved.mem_iff]
  refine ⟨fun other mem => sound.fresh other ((same other).mp mem), fun token long => ?_,
    sound.listed, fun other running => (same other).mpr (sound.known other running),
    fun other mem => ?_⟩
  · have counts : held token pending = held token ledger.pending := moved.countP_eq _
    rw [counts]
    exact sound.balance token long
  · rcases quiet other mem with before | ⟨listed, quiet⟩
    · exact sound.stopped other before
    · exact ⟨sound.fresh other (by simp [all, listed]), quiet⟩

theorem forget (moved : ledger.pending.Perm (o :: pending)) (quiet : o ∈ ledger.stopped)
    (less : stopped ⊆ ledger.stopped) :
    ({ ledger with pending := pending, stopped := stopped } : Ledger).Sound
      (registry.forget o.config.password) alive created where
  fresh other mem := by
    refine sound.fresh other ?_
    simp only [all, List.mem_append, moved.mem_iff, List.mem_cons] at mem ⊢
    tauto
  balance token long := by
    have balance := sound.balance token long
    have covered := sound.unregistered_le token
    have counts : held token ledger.pending = held token (o :: pending) := moved.countP_eq _
    rw [counts, held_cons] at balance
    rw [Registry.count_forget _ _ long]
    simp only [eq_comm] at balance ⊢
    omega
  listed := sound.listed
  known other running := by
    have different : other ≠ o := by
      rintro rfl
      exact absurd (sound.stopped other quiet).2 running.ne'
    have before := sound.known other running
    simp only [all, List.mem_append, moved.mem_iff, List.mem_cons] at before ⊢
    tauto
  stopped other mem := sound.stopped other (less mem)

theorem scope (token : Bytes) :
    ({ ledger with scopes := token :: ledger.scopes } : Ledger).Sound (registry.register token)
      alive created where
  fresh := sound.fresh
  balance other long := by
    have balance := sound.balance other long
    rw [Registry.count_register _ _ long, count_cons_token]
    dsimp only
    omega
  listed := sound.listed
  known := sound.known
  stopped := sound.stopped

theorem release {token : Bytes} (mem : token ∈ ledger.scopes) :
    ({ ledger with scopes := ledger.scopes.erase token } : Ledger).Sound (registry.forget token)
      alive created where
  fresh := sound.fresh
  balance other long := by
    have balance := sound.balance other long
    have covered := sound.unregistered_le other
    have counts : ledger.scopes.count other = (token :: ledger.scopes.erase token).count other :=
      (List.perm_cons_erase mem).count_eq other
    rw [counts, count_cons_token] at balance
    rw [Registry.count_forget _ _ long]
    dsimp only
    omega
  listed := sound.listed
  known := sound.known
  stopped := sound.stopped

theorem exit (less : ∀ o, alive' o ≤ alive o) : ledger.Sound registry alive' created where
  fresh := sound.fresh
  balance := sound.balance
  listed := sound.listed
  known other running := sound.known other (running.trans_le (less other))
  stopped other mem := by
    obtain ⟨old, quiet⟩ := sound.stopped other mem
    exact ⟨old, Nat.le_zero.mp (quiet ▸ less other)⟩

end Ledger.Sound

end Velkir.ObserverManager
