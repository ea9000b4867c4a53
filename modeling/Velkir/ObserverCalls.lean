import Mathlib.Data.List.Sort
import Velkir.Observer
import Velkir.Redaction

/-!
# Calls of the observer manager

Calls that ensure or remove an observer run at the same time as the observers, which start before
their passwords are registered. Until then the caller of `Ensure` protects the password.
-/

namespace Velkir.ObserverManager

open Logging

/-- What an observer is made for. -/
structure Config where
  masterName : String
  password : Bytes
  endpoints : List Endpoint
  deriving DecidableEq

/-- An observer; its number tells it from every other one. -/
structure Instance where
  id : Nat
  config : Config
  parent : Nat
  deriving DecidableEq

/-- The goroutines it starts: at most two subscriptions, and the poll. -/
def Instance.goroutines (o : Instance) : Nat := min o.config.endpoints.length 2 + 1

/-- What is left of a call of `Ensure` that holds the lock. -/
inductive Critical (κ : Type*)
  | start (cr : κ) (config : Config) (rootCtx : Nat) (prev : Option Instance)
  | install (cr : κ) (o : Instance) (prev : Option Instance)
  | register (o : Instance) (prev : Option Instance)
  | unlock (prev : Option Instance)

/-- A call without the lock: it waits in the first four, then stops observers. -/
inductive Call (κ : Type*)
  | ensure (cr : κ) (config : Config)
  | remove (cr : κ)
  | start (ctx : Nat)
  | serving (ctx : Nat)
  | retire (toStop : List Instance)
  | stopping (o : Instance) (toStop : List Instance)
  | forgetting (o : Instance) (toStop : List Instance)
  | returned

section Model

variable {κ : Type*} [DecidableEq κ]

/-- The manager, its calls, the goroutines and the registry with its scopes. -/
structure State (κ : Type*) [DecidableEq κ] where
  rootCtx : Option Nat := none
  observers : AList fun _ : κ => Instance := ∅
  inside : Option (Critical κ) := none
  calls : List (Call κ) := []
  alive : Instance → Nat := fun _ => 0
  cancelled : Instance → Bool := fun _ => false
  done : Nat → Bool := fun _ => false
  created : Nat := 0
  registry : Registry := .empty
  scopes : List Bytes := []

/-- The observers in the map. -/
def State.installed (s : State κ) : List Instance := s.observers.entries.map (·.2)

/-- The calls of the manager's methods. -/
inductive Request (κ : Type*)
  | ensure (cr : κ) (masterName : String) (password : Bytes) (endpoints : List Endpoint)
  | remove (cr : κ)
  | start (ctx : Nat)

/-- `Ensure` checks and sorts its arguments before it asks for the lock. -/
def Request.begin : Request κ → Call κ
  | .ensure cr masterName password endpoints =>
      if masterName = "" ∨ endpoints = [] then .returned
      else
        .ensure cr
          ⟨masterName, password, endpoints.insertionSort fun left right => left.name ≤ right.name⟩
  | .remove cr => .remove cr
  | .start ctx => .start ctx

/-- A call gets the lock. `Ensure` goes on inside if it needs a new observer. -/
def Call.enter (s : State κ) : Call κ → Call κ × State κ
  | .ensure cr config =>
      match s.rootCtx with
      | none => (.returned, s)
      | some rootCtx =>
          match s.observers.lookup cr with
          | none => (.returned, { s with inside := some (.start cr config rootCtx none) })
          | some prev =>
              if prev.config = config then (.returned, s)
              else (.returned, { s with inside := some (.start cr config rootCtx (some prev)) })
  | .remove cr =>
      match s.observers.lookup cr with
      | none => (.returned, s)
      | some o => (.retire [o], { s with observers := s.observers.erase cr })
  | .start ctx => (.serving ctx, { s with rootCtx := some ctx })
  | .serving ctx =>
      if s.done ctx then (.retire s.installed, { s with observers := ∅, rootCtx := none })
      else (.serving ctx, s)
  | call => (call, s)

/-- The next step of `Ensure` under the lock. -/
def Critical.advance (s : State κ) : Critical κ → State κ
  | .start cr config rootCtx prev =>
      let o : Instance := ⟨s.created, config, rootCtx⟩
      { s with
        inside := some (.install cr o prev)
        alive := Function.update s.alive o o.goroutines
        created := s.created + 1 }
  | .install cr o prev =>
      { s with inside := some (.register o prev), observers := s.observers.insert cr o }
  | .register o prev =>
      { s with inside := some (.unlock prev), registry := s.registry.register o.config.password }
  | .unlock prev => { s with inside := none, calls := s.calls ++ [.retire prev.toList] }

/-- The next step of a call that stops observers, in the order of the map. -/
def Call.drain (pick : Nat) (s : State κ) : Call κ → Call κ × State κ
  | .retire toStop =>
      match toStop[pick]? with
      | none => (.retire toStop, s)
      | some o =>
          (.stopping o (toStop.eraseIdx pick),
            { s with cancelled := Function.update s.cancelled o true })
  | .stopping o toStop =>
      if s.alive o = 0 then (.forgetting o toStop, s) else (.stopping o toStop, s)
  | .forgetting o toStop =>
      (.retire toStop, { s with registry := s.registry.forget o.config.password })
  | call => (call, s)

/-- A step of a call, a goroutine or a scope. -/
inductive Act (κ : Type*)
  | call (request : Request κ)
  | enter (call : Nat)
  | inside
  | drain (call pick : Nat)
  | exit (o : Instance)
  | cancel (ctx : Nat)
  | scope (token : Bytes)
  | release (token : Bytes)

/-- A step that is not possible changes nothing. -/
def step : Act κ → State κ → State κ
  | .call request, s => { s with calls := s.calls ++ [request.begin] }
  | .enter index, s =>
      match s.inside, s.calls[index]? with
      | none, some call =>
          { (call.enter s).2 with calls := s.calls.set index (call.enter s).1 }
      | _, _ => s
  | .inside, s =>
      match s.inside with
      | none => s
      | some critical => critical.advance s
  | .drain index pick, s =>
      match s.calls[index]? with
      | none => s
      | some call =>
          { (call.drain pick s).2 with calls := s.calls.set index (call.drain pick s).1 }
  | .exit o, s =>
      -- A goroutine returns once its context or that of the manager is done.
      if s.cancelled o ∨ s.done o.parent then
        { s with alive := Function.update s.alive o (s.alive o - 1) }
      else s
  | .cancel ctx, s => { s with done := Function.update s.done ctx true }
  | .scope token, s =>
      { s with scopes := token :: s.scopes, registry := s.registry.register token }
  | .release token, s =>
      if token ∈ s.scopes then
        { s with scopes := s.scopes.erase token, registry := s.registry.forget token }
      else s

/-- Every observer that can take a step has its password registered. -/
def Protected (s : State κ) : Prop :=
  ∀ o, 0 < s.alive o → minTokenLen ≤ o.config.password.length →
    o.config.password ∈ s.registry.counts

/-- The observers in a call's hand: those it stops, one not yet in the map. -/
@[simp]
def Call.pending : Call κ → List Instance
  | .retire toStop => toStop
  | .stopping o toStop => o :: toStop
  | .forgetting o toStop => o :: toStop
  | _ => []

/-- The observer about to be installed. -/
@[simp]
def Critical.starting : Critical κ → List Instance
  | .install _ o _ => [o]
  | _ => []

/-- The observer taken out of the map. -/
@[simp]
def Critical.pending : Critical κ → List Instance
  | .register _ prev => prev.toList
  | .unlock prev => prev.toList
  | _ => []

/-- The observers about to be installed. -/
def State.starting (s : State κ) : List Instance := s.inside.toList.flatMap Critical.starting

/-- The observers in the hands of calls. -/
def State.pending (s : State κ) : List Instance :=
  s.inside.toList.flatMap Critical.pending ++ s.calls.flatMap Call.pending

/-- No observer is in the map, and none is in the hands of a call. -/
def NoneLeft (s : State κ) : Prop := s.installed = [] ∧ s.pending = [] ∧ s.starting = []

/-- Without observers, what is registered are the scopes of others. -/
def Cleared (s : State κ) : Prop :=
  NoneLeft s → ∀ token, minTokenLen ≤ token.length →
    s.registry.count token = s.scopes.count token

/-- The password of an `Ensure` that waits for the lock. -/
@[simp]
def Call.ensuring : Call κ → List Bytes
  | .ensure _ config => [config.password]
  | _ => []

/-- The password of an `Ensure` that has the lock, until it is registered. -/
@[simp]
def Critical.ensuring : Critical κ → List Bytes
  | .start _ config _ _ => [config.password]
  | .install _ o _ => [o.config.password]
  | .register o _ => [o.config.password]
  | .unlock _ => []

/-- The passwords of calls to `Ensure`. -/
def State.ensuring (s : State κ) : List Bytes :=
  s.inside.toList.flatMap Critical.ensuring ++ s.calls.flatMap Call.ensuring

/-- Who calls `Ensure` keeps the password registered until the call is done. -/
def Scoped : Act κ → State κ → Prop
  | .call (.ensure _ _ password _), s => minTokenLen ≤ password.length → password ∈ s.scopes
  | .release token, s => token ∈ s.ensuring → token ∈ s.scopes.erase token
  | _, _ => True

end Model

end Velkir.ObserverManager
