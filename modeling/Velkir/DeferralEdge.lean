import Mathlib.Data.List.Pairwise
import Velkir.Machine
import Velkir.Resource

/-!
# Warnings about deferred self-heals

The event of a deferral is suppressed while its signature is the last one emitted, and for an
interval after any emission.
-/

namespace Velkir

/-- How far apart the warnings are. -/
def SelfHeal.dualMasterDeferMinInterval : Nat := 60 * second

namespace DeferralEdge

open SelfHeal (dualMasterDeferMinInterval)

/-- The last emission; no signature after a reset, no time before the first. -/
structure Edge (σ : Type*) where
  dualMasterDeferEdge : Option σ := none
  dualMasterDeferLastAt : Option Int := none
  deriving DecidableEq

section Edges

variable {σ : Type*} [DecidableEq σ]

/-- The emission is within the minimum interval of the last one. -/
def Edge.rateBounded (now : Int) (edge : Edge σ) : Bool :=
  match edge.dualMasterDeferLastAt with
  | none => false
  | some last => now - last < dualMasterDeferMinInterval

/-- Emit unless the signature is the last one. -/
def fireDualMasterDeferEdge (sig : σ) (now : Int) (edge : Edge σ) : Bool × Edge σ :=
  if edge.dualMasterDeferEdge = some sig then (false, edge)
  -- The signature is not recorded here, so it fires once the interval has elapsed.
  else if edge.rateBounded now then (false, edge)
  else (true, ⟨some sig, some now⟩)

/-- Forget the signature, not the time. -/
def resetDualMasterDeferEdge (edge : Edge σ) : Edge σ :=
  { edge with dualMasterDeferEdge := none }

/-- The calls on an edge. -/
inductive Act (σ : Type*)
  | deferral (sig : σ) (now : Int)
  | reset

/-- The edge, and the signatures and times of the emissions, newest first. -/
structure Log (σ : Type*) where
  edge : Edge σ := {}
  emitted : List (σ × Int) := []

def step : Act σ → Log σ → Log σ
  | .deferral sig now, log =>
      let (fires, edge) := fireDualMasterDeferEdge sig now log.edge
      { edge, emitted := if fires then (sig, now) :: log.emitted else log.emitted }
  | .reset, log => { log with edge := resetDualMasterDeferEdge log.edge }

/-- The emissions of these calls. -/
def emissions (acts : List (Act σ)) : List (σ × Int) := (Machine.run step acts {}).emitted

theorem step_deferral (sig : σ) (now : Int) (log : Log σ) :
    step (.deferral sig now) log =
      if log.edge.dualMasterDeferEdge = some sig ∨ log.edge.rateBounded now = true then log
      else ⟨⟨some sig, some now⟩, (sig, now) :: log.emitted⟩ := by
  by_cases same : log.edge.dualMasterDeferEdge = some sig
  · simp [step, fireDualMasterDeferEdge, same]
  · by_cases bounded : log.edge.rateBounded now = true
    · simp [step, fireDualMasterDeferEdge, same, bounded]
    · simp [step, fireDualMasterDeferEdge, same, bounded]

/-- The signature lasts at most to the next emission, the time exactly. -/
structure Follows (log : Log σ) : Prop where
  time : log.edge.dualMasterDeferLastAt = log.emitted.head?.map Prod.snd
  signature : ∀ sig ∈ log.edge.dualMasterDeferEdge, log.emitted.head?.map Prod.fst = some sig
  spaced : log.emitted.Pairwise fun later earlier : σ × Int =>
    earlier.2 + dualMasterDeferMinInterval ≤ later.2

omit [DecidableEq σ] in
theorem rateBounded_iff {log : Log σ} (follows : Follows log) (now : Int) :
    log.edge.rateBounded now = true ↔
      ∃ last ∈ log.emitted.head?, now < last.2 + dualMasterDeferMinInterval := by
  unfold Edge.rateBounded
  rw [follows.time]
  cases log.emitted with
  | nil => simp
  | cons last earlier =>
      simp only [List.head?_cons, Option.map_some, decide_eq_true_eq, Option.mem_def,
        Option.some.injEq, exists_eq_left']
      omega

omit [DecidableEq σ] in
private theorem Follows.emit {log : Log σ} (follows : Follows log) {sig : σ} {now : Int}
    (waited : log.edge.rateBounded now = false) :
    Follows ⟨⟨some sig, some now⟩, (sig, now) :: log.emitted⟩ := by
  refine ⟨rfl, fun _ same => by rwa [← Option.mem_def], ?_⟩
  have later : ∀ last ∈ log.emitted.head?, last.2 + dualMasterDeferMinInterval ≤ now := by
    intro last mem
    by_contra early
    have bounded := (rateBounded_iff follows now).mpr ⟨last, mem, Int.not_le.mp early⟩
    rw [waited] at bounded
    cases bounded
  have spaced := follows.spaced
  refine List.pairwise_cons.mpr ⟨fun earlier mem => ?_, spaced⟩
  cases emitted : log.emitted with
  | nil => simp [emitted] at mem
  | cons last before =>
      have first := later last (by simp [emitted])
      rw [emitted, List.pairwise_cons] at spaced
      rw [emitted] at mem
      rcases List.mem_cons.mp mem with rfl | old
      · exact first
      · have gap := spaced.1 earlier old
        dsimp only
        omega

private theorem Follows.step {log : Log σ} (follows : Follows log) (act : Act σ) :
    Follows (step act log) := by
  cases act with
  | deferral sig now =>
      rw [step_deferral]
      split_ifs with suppressed
      · exact follows
      · exact follows.emit (Bool.eq_false_iff.mpr fun bounded => suppressed (.inr bounded))
  | reset => exact ⟨follows.time, nofun, follows.spaced⟩

private theorem follows_run (acts : List (Act σ)) : Follows (Machine.run step acts ({} : Log σ)) :=
  Machine.run_invariant Follows (fun act _ follows => follows.step act) acts ⟨rfl, nofun, .nil⟩

/-- Emissions keep their distance, and a report with a new signature is emitted after that. -/
theorem emissions_spaced_and_kept (acts : List (Act σ)) :
    (emissions acts).Pairwise
        (fun later earlier : σ × Int => earlier.2 + dualMasterDeferMinInterval ≤ later.2) ∧
      ∀ sig now,
        (∀ last ∈ (emissions acts).head?,
          last.1 ≠ sig ∧ last.2 + dualMasterDeferMinInterval ≤ now) →
        emissions (acts ++ [.deferral sig now]) = (sig, now) :: emissions acts := by
  have follows := follows_run acts
  refine ⟨follows.spaced, fun sig now due => ?_⟩
  have changed : (Machine.run step acts ({} : Log σ)).edge.dualMasterDeferEdge ≠ some sig := by
    intro same
    obtain ⟨last, mem, rfl⟩ := Option.map_eq_some_iff.mp (follows.signature sig same)
    exact (due last mem).1 rfl
  have waited : ¬(Machine.run step acts ({} : Log σ)).edge.rateBounded now = true := by
    rw [rateBounded_iff follows]
    rintro ⟨last, mem, early⟩
    exact absurd (due last mem).2 (Int.not_le.mpr early)
  unfold emissions
  rw [Machine.run_concat, step_deferral, if_neg (not_or.mpr ⟨changed, waited⟩)]

/-- The second report comes too early, the third one is due. -/
example : emissions [.deferral 'a' 0, .deferral 'b' 1,
      .deferral 'b' dualMasterDeferMinInterval] =
    [('b', (dualMasterDeferMinInterval : Int)), ('a', 0)] := by
  decide

end Edges

end DeferralEdge

end Velkir
