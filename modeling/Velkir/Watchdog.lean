import Velkir.Api

/-!
# The replica-readiness watchdog

A rollout step arms a watchdog for the pod it deleted. A pass reports an expired one as a stall and
clears it.
-/

namespace Velkir

open Crash

/-- What the watchdog says. -/
structure WatchdogResult where
  active : Bool := false
  expired : Bool := false
  podName : String := ""
  deadline : Nat := 0
  deriving DecidableEq

/-- Evaluate a watchdog. One without a pod or without a deadline is inactive. -/
def check (now : Nat) : Option MasterAware → WatchdogResult
  | none => {}
  | some watchdog =>
      if watchdog.waitingForPod = "" then {}
      else
        match watchdog.deadline with
        | none => {}
        | some deadline =>
            { active := true, expired := deadline ≤ now,
              podName := watchdog.waitingForPod, deadline }

/-- The seconds a watchdog waits at least and at most. -/
def clampTimeout (timeoutSeconds : Int) : Nat :=
  (min 3600 (max 60 timeoutSeconds)).toNat

/-- The watchdog for a deleted pod, keeping an armed deadline. -/
def arm (now : Nat) (podName : String) (timeoutSeconds : Int) (existing : Option MasterAware) :
    MasterAware :=
  let fresh : MasterAware :=
    { waitingForPod := podName
      deadline := some (now + clampTimeout timeoutSeconds * second)
      deletedAt := some now }
  match existing with
  | some watchdog =>
      if watchdog.waitingForPod = podName ∧ watchdog.deadline ≠ none then watchdog else fresh
  | none => fresh

/-- The cleared watchdog. -/
def disarm : MasterAware := {}

/-- Evaluate the working copy's watchdog unless paused; report a stall. -/
def evaluateRolloutWatchdog (paused : Bool) : Proc World WatchdogResult := do
  logHere fun w => .evaluated paused w.v.status.masterAware w.cr.status.masterAware w.now
  if paused then return {}
  let verdict ← .read fun w => check w.now w.v.status.masterAware
  if verdict.active ∧ verdict.expired then
    recordEvent (.rolloutStalled verdict.podName verdict.deadline)
  return verdict

/-- The status the pass ends with: an expired watchdog is cleared. -/
def statusAfter (verdict : WatchdogResult) (status : Status) : Status :=
  if verdict.active ∧ verdict.expired then { status with masterAware := some disarm } else status

/-- Write the status. The patch is computed against the working copy. -/
def updateStatus (verdict : WatchdogResult) (reply : Reply) : Proc World Reply :=
  patchStatus (statusAfter verdict) .nothing reply []

theorem evaluateRolloutWatchdog_within (paused : Bool) :
    Proc.Within (Frame [] [.evaluated, .stalled]) (evaluateRolloutWatchdog paused) :=
  .bind (logHere_within fun _ => by simp [Entry.kind]) fun _ => .ite (.pure _) (.bind (.read _)
    fun _ => .ite (.bind (log_within (by simp [Entry.kind])) fun _ => .pure _) (.pure _))

theorem updateStatus_within (verdict : WatchdogResult) (reply : Reply) :
    Proc.Within (Frame [.watchdog] []) (updateStatus verdict reply) := by
  refine patchStatus_within (fun _ status => ?_) (fun untouched => by simp at untouched)
    (fun _ status => ?_) (by simp) <;> unfold statusAfter <;> split <;> rfl

end Velkir
