import Mathlib.Data.List.GetD
import Velkir.Observer

/-!
# Two subscriptions of one history

Two endpoints report the same history of primaries, each at its own pace. A switch that does not
chain is dropped.
-/

namespace Velkir

/-- What a subscription sends next. -/
inductive Push
  | switch
  | failoverEnd
  deriving DecidableEq

/-- One frame of one of the two subscriptions. -/
structure Delivery where
  stream : Bool
  push : Push
  now : Nat := 0
  deriving DecidableEq

/-- The observer, and the number of switches that each subscription has sent. -/
structure Streams where
  observer : Observer
  position : Bool → Nat := fun _ => 0

namespace Streams

variable (history : List String)

/-- The primary at a position of the history. -/
def primary (position : Nat) : String :=
  history.getD position ""

/-- Between switches, a failover's end names the primary of that time. -/
def frame (masterName : String) (position : Nat) : Push → EventFrame
  | .switch => .switchMaster masterName (primary history position) (primary history (position + 1))
  | .failoverEnd => .failoverEnd masterName (primary history position)

/-- Deliver a frame. -/
def deliver (delivery : Delivery) (streams : Streams) : Streams :=
  let position := streams.position delivery.stream
  { observer := Observer.step (.frame delivery.stream.toNat
      (frame history streams.observer.masterName position delivery.push) delivery.now)
        streams.observer
    position := match delivery.push with
      | .switch => Function.update streams.position delivery.stream (position + 1)
      | .failoverEnd => streams.position }

/-- The history has a switch to send. -/
def Valid (delivery : Delivery) (streams : Streams) : Prop :=
  delivery.push = .switch → streams.position delivery.stream + 1 < history.length

/-- The index of the published address. -/
def published (streams : Streams) : Nat :=
  history.idxOf streams.observer.snapshot.addr

/-- The published address does not move back. -/
def Forward (delivery : Delivery) (streams : Streams) : Prop :=
  streams.published history ≤ (streams.deliver history delivery).published history

/-- A failover's end is not sent by a subscription that is behind. -/
def EndsAbreast (delivery : Delivery) (streams : Streams) : Prop :=
  delivery.push = .failoverEnd →
    streams.position (!delivery.stream) ≤ streams.position delivery.stream

/-- The furthest position. -/
def leading (streams : Streams) : Nat :=
  max (streams.position false) (streams.position true)

/-- The published address is that of the subscription in front. -/
structure Tracks (streams : Streams) : Prop where
  addr : streams.observer.snapshot.addr = primary history streams.leading
  inside : streams.leading < history.length
  subscribed : 2 ≤ streams.observer.endpoints.length

variable {history}

theorem leading_eq (streams : Streams) (stream : Bool) :
    streams.leading = max (streams.position stream) (streams.position (!stream)) := by
  cases stream with
  | false => rfl
  | true => exact max_comm _ _

theorem idxOf_primary (distinct : history.Nodup) {position : Nat}
    (inside : position < history.length) : history.idxOf (primary history position) = position := by
  rw [primary, List.getD_eq_getElem _ _ inside]
  exact distinct.idxOf_getElem position inside

private theorem primary_ne_empty (named : "" ∉ history) {position : Nat}
    (inside : position < history.length) : primary history position ≠ "" := by
  rw [primary, List.getD_eq_getElem _ _ inside]
  exact fun empty => named (empty ▸ List.getElem_mem inside)

/-- Both subscriptions are open. -/
theorem step_frame_dispatch {observer : Observer} (subscribed : 2 ≤ observer.endpoints.length)
    (stream : Bool) (frame : EventFrame) (now : Nat) :
    ∃ endpoint, Observer.step (.frame stream.toNat frame now) observer =
      observer.dispatch endpoint frame now := by
  have listed : stream.toNat < observer.subscriptions.length := by
    have := stream.toNat_lt
    simp only [Observer.subscriptions, List.length_take]
    omega
  exact ⟨observer.subscriptions[stream.toNat], by simp [Observer.step, listed]⟩

section Delivery

variable {streams : Streams} {stream : Bool} {now : Nat}

private theorem deliver_switch_ahead (tracks : streams.Tracks history)
    (front : streams.position (!stream) ≤ streams.position stream) :
    (streams.deliver history ⟨stream, .switch, now⟩).observer.snapshot.addr =
      primary history (streams.position stream + 1) := by
  have current : streams.observer.snapshot.addr = primary history (streams.position stream) := by
    rw [tracks.addr, leading_eq streams stream, max_eq_left front]
  obtain ⟨endpoint, dispatched⟩ := step_frame_dispatch tracks.subscribed stream
    (frame history streams.observer.masterName (streams.position stream) .switch) now
  simp only [deliver, dispatched]
  simp [frame, Observer.dispatch, current, Observer.republish, Observer.publishLocked]

private theorem deliver_switch_behind (distinct : history.Nodup) (named : "" ∉ history)
    (tracks : streams.Tracks history)
    (behind : streams.position stream < streams.position (!stream)) :
    (streams.deliver history ⟨stream, .switch, now⟩).observer = streams.observer := by
  have lead : streams.leading = streams.position (!stream) := by
    rw [leading_eq streams stream, max_eq_right behind.le]
  have inside := tracks.inside
  have current : streams.observer.snapshot.addr ≠ "" := by
    rw [tracks.addr]
    exact primary_ne_empty named inside
  have unchained : primary history (streams.position stream) ≠ streams.observer.snapshot.addr := by
    rw [tracks.addr]
    intro same
    have := congrArg history.idxOf same
    rw [idxOf_primary distinct inside, idxOf_primary distinct (by omega)] at this
    omega
  obtain ⟨endpoint, dispatched⟩ := step_frame_dispatch tracks.subscribed stream
    (frame history streams.observer.masterName (streams.position stream) .switch) now
  simp only [deliver, dispatched]
  simp [frame, Observer.dispatch, current, unchained]

theorem deliver_failoverEnd (tracks : streams.Tracks history) :
    (streams.deliver history ⟨stream, .failoverEnd, now⟩).observer.snapshot.addr =
      primary history (streams.position stream) := by
  obtain ⟨endpoint, dispatched⟩ := step_frame_dispatch tracks.subscribed stream
    (frame history streams.observer.masterName (streams.position stream) .failoverEnd) now
  simp only [deliver, dispatched]
  simp [frame, Observer.dispatch, Observer.republish, Observer.publishLocked]

theorem leading_switch : (streams.deliver history ⟨stream, .switch, now⟩).leading =
    max (streams.position stream + 1) (streams.position (!stream)) := by
  rw [leading_eq _ stream]
  simp [deliver]

private theorem deliver_subscribed (tracks : streams.Tracks history) (delivery : Delivery) :
    2 ≤ (streams.deliver history delivery).observer.endpoints.length := by
  rw [deliver, Observer.step_endpoints]
  exact tracks.subscribed

end Delivery

theorem deliver_tracks (distinct : history.Nodup) (named : "" ∉ history) (delivery : Delivery)
    (streams : Streams) (valid : Valid history delivery streams)
    (tracks : streams.Tracks history) (abreast : EndsAbreast delivery streams) :
    (streams.deliver history delivery).Tracks history := by
  obtain ⟨stream, push, now⟩ := delivery
  have inside := tracks.inside
  have lead := leading_eq streams stream
  have subscribed := deliver_subscribed tracks ⟨stream, push, now⟩
  cases push with
  | switch =>
      have next : streams.position stream + 1 < history.length := valid rfl
      rcases Nat.lt_or_ge (streams.position stream) (streams.position (!stream)) with behind | front
      · refine ⟨?_, ?_, subscribed⟩
        · rw [deliver_switch_behind distinct named tracks behind, tracks.addr, leading_switch, lead]
          congr 1
          omega
        · rw [leading_switch]
          omega
      · refine ⟨?_, ?_, subscribed⟩
        · rw [deliver_switch_ahead tracks front, leading_switch]
          congr 1
          omega
        · rw [leading_switch]
          omega
  | failoverEnd =>
      have front := abreast rfl
      have same : (streams.deliver history ⟨stream, .failoverEnd, now⟩).leading =
          streams.leading := rfl
      refine ⟨?_, same ▸ inside, subscribed⟩
      rw [deliver_failoverEnd tracks, same, lead, max_eq_left front]

/-- Only the end of a failover can move the published address back. -/
theorem forward_iff (distinct : history.Nodup) (named : "" ∉ history) (delivery : Delivery)
    (streams : Streams) (valid : Valid history delivery streams)
    (tracks : streams.Tracks history) :
    Forward history delivery streams ↔ EndsAbreast delivery streams := by
  obtain ⟨stream, push, now⟩ := delivery
  have inside := tracks.inside
  have lead := leading_eq streams stream
  have before : streams.published history = streams.leading := by
    rw [published, tracks.addr, idxOf_primary distinct inside]
  cases push with
  | switch =>
      have abreast : EndsAbreast ⟨stream, .switch, now⟩ streams := fun ends => nomatch ends
      have after := deliver_tracks distinct named _ streams valid tracks abreast
      rw [Forward, before, published, after.addr, idxOf_primary distinct after.inside,
        leading_switch]
      exact ⟨fun _ => abreast, fun _ => by omega⟩
  | failoverEnd =>
      rw [Forward, before, published, deliver_failoverEnd tracks,
        idxOf_primary distinct (by omega), lead]
      constructor
      · intro forward _
        exact (le_max_right _ _).trans forward
      · intro abreast
        exact max_le le_rfl (abreast rfl)

/-- The address never moves back exactly if no lagging subscription sends a failover's end. -/
theorem deliver_forward_iff (distinct : history.Nodup) (named : "" ∉ history) {start : Observer}
    (subscribed : 2 ≤ start.endpoints.length) (first : history.head? = some start.snapshot.addr)
    {deliveries : List Delivery}
    (valid : Machine.Meets (deliver history) (Valid history) deliveries ⟨start, fun _ => 0⟩) :
    Machine.Meets (deliver history) (Forward history) deliveries ⟨start, fun _ => 0⟩ ↔
      Machine.Meets (deliver history) EndsAbreast deliveries ⟨start, fun _ => 0⟩ := by
  have tracks : Tracks history ⟨start, fun _ => 0⟩ := by
    cases history with
    | nil => cases first
    | cons head rest =>
        cases first
        exact ⟨rfl, Nat.succ_pos _, subscribed⟩
  exact Machine.meets_iff (Tracks history) (forward_iff distinct named)
    (deliver_tracks distinct named) valid tracks

def failedOver : List String := ["10.0.0.1:6379", "10.0.0.2:6379"]

/-- The first primary is published. -/
def settledObserver : Observer :=
  { masterName := "m", endpoints := Observer.threeSentinels
    snapshot := { addr := "10.0.0.1:6379" } }

/-- One subscription sends the switch, the other a late end. -/
def lateEnd : List Delivery :=
  [⟨false, .switch, 1⟩, ⟨true, .failoverEnd, 2⟩]

/-- The late end takes the published address back to the first primary. -/
theorem deliver_moves_back :
    Machine.Meets (deliver failedOver) (Valid failedOver) lateEnd ⟨settledObserver, fun _ => 0⟩ ∧
      (Machine.run (deliver failedOver) [⟨false, .switch, 1⟩]
        ⟨settledObserver, fun _ => 0⟩).published failedOver = 1 ∧
      (Machine.run (deliver failedOver) lateEnd
        ⟨settledObserver, fun _ => 0⟩).published failedOver = 0 := by
  unfold Valid
  decide

/-- Both subscriptions send the switch, one the end. -/
theorem deliver_forward_both :
    Machine.Meets (deliver failedOver) (Forward failedOver)
      [⟨false, .switch, 1⟩, ⟨true, .switch, 2⟩, ⟨true, .failoverEnd, 3⟩]
        ⟨settledObserver, fun _ => 0⟩ := by
  refine (deliver_forward_iff (by decide) (by decide) (by decide) rfl ?_).mpr ?_
  · unfold Valid
    decide
  · unfold EndsAbreast
    decide

end Streams

end Velkir
