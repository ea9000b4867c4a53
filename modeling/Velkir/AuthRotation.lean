import Velkir.FailoverLatch

/-!
# Credential rotation

Phase 0d rolls a changed password out to the pods unless a failover is in flight, and reverts a
rollout that failed.
-/

namespace Velkir

open Crash Proc

/-- The password Secret as read. The hash is empty when it holds no password. -/
inductive SecretReply
  | unavailable
  | found (hash : String)
  deriving DecidableEq

/-- What the rotation reads and how its requests are answered. -/
structure AuthInput where
  secret : SecretReply := .unavailable
  obs : Obs := {}
  startReply : Reply := .ok
  listFails : Bool := false
  rotates : String → Bool := fun _ => true
  reverts : String → Bool := fun _ => true
  finishReply : Reply := .ok

/-- The phase in the record, idle if there is none. -/
def currentAuthRotationPhase (v : CR) : AuthRotationPhase :=
  match v.status.authRotation with
  | none => .idle
  | some rotation => if rotation.phase = .unset then .idle else rotation.phase

/-- The hash the record was made for. -/
def observedAuthSecretHash (v : CR) : String :=
  (v.status.authRotation.map AuthRotation.observedSecretHash).getD ""

/-- The record of entering a phase; an unfinished rotation keeps its start. -/
def nextRotation (now : Nat) (phase : AuthRotationPhase) (hash message : String)
    (prior : Option AuthRotation) : AuthRotation :=
  { phase, observedSecretHash := hash, message, lastTransitionAt := some now
    startedAt :=
      if phase = .inProgress then some now
      else if phase = .idle then none
      else prior.bind AuthRotation.startedAt }

/-- The record already says this. -/
def AuthRotation.matches (phase : AuthRotationPhase) (hash message : String)
    (rotation : AuthRotation) : Bool :=
  rotation.phase = phase ∧ rotation.observedSecretHash = hash ∧ rotation.message = message

/-- Write the rotation record; the result says whether it is stored. -/
def writeAuthRotationStatus (phase : AuthRotationPhase) (hash message : String) (reply : Reply) :
    Proc World Bool := do
  if (← .read fun w => w.v.status.authRotation).any (AuthRotation.matches phase hash message) then
    return true
  let now ← .read World.now
  let answer ← patchStatus (fun status =>
    { status with authRotation := some (nextRotation now phase hash message status.authRotation) })
    .status reply []
  return answer = .ok

/-- Drop the rotation record. -/
def clearAuthRotationStatus (reply : Reply) : Proc World Unit := do
  if (← .read fun w => w.v.status.authRotation) = none then return
  let _ ← patchStatus (fun status => { status with authRotation := none }) .status reply []

/-- Remember which password is cached. -/
def cacheAuthPassword (hash : Option String) : Proc World Unit :=
  .write fun w => { w with mem.authPasswordHash := hash }

/-- The replicas and the single primary, if all have addresses and roles. -/
def splitDataPlaneEndpoints (pods : List Pod) : Option (List String × String) :=
  if pods.any fun pod => pod.podIP = "" ∨ (pod.role ≠ .primary ∧ pod.role ≠ .replica) then none
  else
    match pods.filter fun pod => pod.role = .primary with
    | [primary] =>
        some ((pods.filter fun pod => pod.role = .replica).map Pod.name, primary.name)
    | _ => none

/-- The names, sorted and joined by commas. -/
def endpointNames (names : List String) : String :=
  String.intercalate "," (names.mergeSort fun left right => left ≤ right)

/-- Record how the rollout of a new password ended. -/
def finishAuthRotation (input : AuthInput) (replicas : Nat) (endpoints : List String)
    (currentHash observedHash : String) : Proc World Unit := do
  let failed := endpoints.filter fun name => !input.rotates name
  let revertFailed := endpoints.filter fun name => input.rotates name ∧ !input.reverts name
  let failedCount := failed.length
  let failedNames := endpointNames failed
  if failed = [] then
    if ← writeAuthRotationStatus .succeeded currentHash
        s!"rotation succeeded across {replicas} replica(s) + 1 master" input.finishReply then
      cacheAuthPassword (some currentHash)
      recordEvent (.secretRotated replicas)
  else if revertFailed = [] then
    let message := s!"rotation failed on {failedCount} endpoint(s) [{failedNames}]; " ++
      "cluster reverted to previous credential"
    if ← writeAuthRotationStatus .failed observedHash message input.finishReply then
      recordEvent (.secretRotationFailed message)
  else
    let revertCount := revertFailed.length
    let revertNames := endpointNames revertFailed
    let message := s!"rotation failed on {failedCount} endpoint(s) [{failedNames}] AND " ++
      s!"revert failed on {revertCount} endpoint(s) [{revertNames}]; " ++
      "cluster is in mixed-credential state — operator intervention required"
    if ← writeAuthRotationStatus .partially observedHash message input.finishReply then
      recordEvent (.secretRotationPartial message)

/-- Roll a new password out. Needs exactly one pod labelled primary. -/
def driveAuthRotation (input : AuthInput) (currentHash observedHash : String) :
    Proc World Unit := do
  if input.listFails then return
  match splitDataPlaneEndpoints (← .read fun w => w.pods.items) with
  | none => return
  | some (replicas, master) =>
      let count := replicas.length
      let _ ← writeAuthRotationStatus .inProgress observedHash
        s!"rotating {count} replica(s) + 1 master" input.startReply
      log (.rotating observedHash currentHash)
      finishAuthRotation input count (replicas ++ [master]) currentHash observedHash

/-- Adopt a hash without rolling anything out. -/
def adoptAuthSecret (hash message : String) (reply : Reply) : Proc World Unit := do
  if ← writeAuthRotationStatus .idle hash message reply then cacheAuthPassword (some hash)

/-- Compare the Secret with the hash last acted on and react. -/
def maybeRotateAuth (input : AuthInput) (currentHash : String) : Proc World Unit := do
  let v ← .read World.v
  let observed := observedAuthSecretHash v
  if currentHash = "" then
    cacheAuthPassword none
    clearAuthRotationStatus input.startReply
  else if currentAuthRotationPhase v = .partially then return
  else if observed = "" then
    adoptAuthSecret currentHash "initial observation" input.startReply
  else if currentAuthRotationPhase v = .succeeded then
    let _ ← writeAuthRotationStatus .idle observed "" input.startReply
  else if currentHash = observed then cacheAuthPassword (some currentHash)
  else if ← isFailoverInFlight .authRotation input.obs then return
  else if (← .read fun w => w.mem.authPasswordHash) ≠ some observed then
    adoptAuthSecret currentHash
      "rotation window missed; current Secret content adopted as observed credential"
      input.startReply
  else driveAuthRotation input currentHash observed

/-- Phase 0d: a Secret that the spec names must be readable. -/
def resolveAuth (input : AuthInput) : Proc World Bool := do
  if (← .read fun w => w.v.spec.authSecretName) = "" then
    maybeRotateAuth input ""
    return true
  match input.secret with
  | .unavailable => return false
  | .found hash =>
      maybeRotateAuth input hash
      return true

section Footprint

theorem writeAuthRotationStatus_within {phase : AuthRotationPhase} {hash message : String}
    {reply : Reply} :
    Within (Frame [] [.event, .rotating]) (writeAuthRotationStatus phase hash message reply) :=
  .bind (.read _) fun _ => .ite (.pure _) (.bind (.read _) fun _ => .bind
    (patchStatus_within (fun _ _ => rfl) (fun _ _ => rfl) (fun _ _ => rfl) (by simp)) fun _ =>
      .pure _)

theorem cacheAuthPassword_within {hash : Option String} :
    Within (Frame [] [.event, .rotating]) (cacheAuthPassword hash) := by
  refine .write fun w => ⟨fun part _ => ?_, ⟨[], rfl, by simp⟩, Nat.le_refl _⟩
  cases part <;> simp [Part.Kept, Carried]

variable {input : AuthInput} {currentHash : String}

private theorem driveAuthRotation_within {observedHash : String} :
    Within (Frame [] [.event, .rotating])
      (driveAuthRotation input currentHash observedHash) := by
  have event : ∀ line : Entry, line.kind = .event →
      Within (Frame [] [.event, .rotating]) (log line) :=
    fun line kind => log_within (by simp [kind])
  refine .ite (.pure _) (.bind (.read _) fun pods => ?_)
  cases splitDataPlaneEndpoints pods with
  | none => exact .pure _
  | some endpoints =>
      refine .bind writeAuthRotationStatus_within fun _ => .bind (log_within (by simp [Entry.kind]))
        fun _ => ?_
      refine .ite (.bind writeAuthRotationStatus_within fun _ => .ite (.bind
        cacheAuthPassword_within fun _ => event _ rfl) (.pure _)) ?_
      exact .ite (.bind writeAuthRotationStatus_within fun _ => .ite (event _ rfl) (.pure _))
        (.bind writeAuthRotationStatus_within fun _ => .ite (event _ rfl) (.pure _))

variable {relation : World → World → Prop} [Std.Refl relation] [IsTrans World relation]

theorem maybeRotateAuth_within (plain : Tolerates [] [.event, .rotating] relation)
    (consult : ∀ site obs, Within relation (isFailoverInFlight site obs)) :
    Within relation (maybeRotateAuth input currentHash) := by
  have cache : ∀ hash, Within relation (cacheAuthPassword hash) := fun _ =>
    plain.within cacheAuthPassword_within
  have write : ∀ phase hash message, Within relation
      (writeAuthRotationStatus phase hash message input.startReply) := fun _ _ _ =>
    plain.within writeAuthRotationStatus_within
  have adopt : ∀ hash message, Within relation
      (adoptAuthSecret hash message input.startReply) := fun _ _ =>
    .bind (write _ _ _) fun _ => .ite (cache _) (.pure _)
  have clear : Within (Frame [] [.event, .rotating]) (patchStatus (fun status =>
      { status with authRotation := none }) .status input.startReply []) :=
    patchStatus_within (fun _ _ => rfl) (fun _ _ => rfl) (fun _ _ => rfl) (by simp)
  refine .bind (.read _) fun v => .ite (.bind (cache _) fun _ => ?_) ?_
  · exact .bind (.read _) fun _ => .ite (.pure _) (.bind (plain.within clear) fun _ => .pure _)
  · refine .ite (.pure _) (.ite (adopt _ _) (.ite (.bind (write _ _ _) fun _ => .pure _)
      (.ite (cache _) ?_)))
    exact .bind (consult _ _) fun _ => .ite (.pure _) (.bind (.read _) fun _ =>
      .ite (adopt _ _) (plain.within driveAuthRotation_within))

/-- Phase 0d touches only the rotation record and the password cache. -/
theorem resolveAuth_within (input : AuthInput) (plain : Tolerates [] [.event, .rotating] relation)
    (consult : ∀ site obs, Within relation (isFailoverInFlight site obs)) :
    Within relation (resolveAuth input) := by
  refine .bind (.read _) fun _ => .ite (.bind (maybeRotateAuth_within plain consult) fun _ =>
    .pure _) ?_
  cases input.secret with
  | unavailable => exact .pure _
  | found hash => exact .bind (maybeRotateAuth_within plain consult) fun _ => .pure _

end Footprint

end Velkir
