import Velkir.AuthRotation

/-!
# Rolling a password out to the pods

`RotateAuth` sends the new password to every pod in up to three attempts, and takes it back if one
did not take it.
-/

namespace Velkir

open Crash Proc

/-- The passwords of a running server. -/
structure Credentials where
  requirepass : String
  masterauth : String
  deriving DecidableEq

/-- The commands of a rotation. -/
inductive Command
  | auth (password : String)
  | setMasterauth (password : String)
  | setRequirepass (password : String)
  | rewrite

/-- The server as one client sees it. -/
structure Connection where
  creds : Credentials
  authenticated : Bool

/-- A server without a password trusts every client. -/
def Connection.dial (creds : Credentials) : Connection :=
  ⟨creds, creds.requirepass = ""⟩

/-- Whether the server accepts a command. -/
def Connection.accepts (conn : Connection) : Command → Bool
  | .auth password => conn.creds.requirepass ≠ "" ∧ conn.creds.requirepass = password
  | .setMasterauth _ | .setRequirepass _ | .rewrite => conn.authenticated

/-- The server after a command, which it carries out only if it accepts it. -/
def Connection.serve (command : Command) (conn : Connection) : Connection :=
  if conn.accepts command then
    match command with
    | .auth _ => { conn with authenticated := true }
    | .setMasterauth password => { conn with creds.masterauth := password }
    | .setRequirepass password => { conn with creds.requirepass := password }
    | .rewrite => conn
  else conn

/-- What happens to one command on its way. -/
inductive Fault
  | none
  /-- The write fails. -/
  | unsent
  /-- An error reply, with the command not carried out. -/
  | refused
  /-- The command reaches the server and its reply is lost. -/
  | lost
  deriving DecidableEq

/-- What the client learns about one command. -/
inductive Answer
  | ok
  | error
  | unsent
  deriving DecidableEq

/-- Write one command and read its reply. -/
def send (fault : Fault) (command : Command) : Proc Connection Answer := do
  match fault with
  | .unsent => return .unsent
  | .refused => return .error
  | .lost =>
      .write (Connection.serve command)
      return .error
  | .none =>
      let accepted ← .read fun conn => conn.accepts command
      .write (Connection.serve command)
      return bif accepted then .ok else .error

/-- The errors the classifier tells apart. -/
inductive RotateError
  | failed
  | rewriteFailed
  deriving DecidableEq

/-- The faults of one attempt. -/
structure Attempt where
  dialFails : Bool := false
  auth : Fault := .none
  authNew : Fault := .none
  masterauth : Fault := .none
  requirepass : Fault := .none
  rewrite : Fault := .none
  deriving DecidableEq

/-- AUTH with the old password, and on an error with the new one. -/
def signIn (attempt : Attempt) (oldPwd newPwd : String) : Proc Connection Bool := do
  if oldPwd = "" then return true
  match ← send attempt.auth (.auth oldPwd) with
  | .ok => return true
  | .unsent => return false
  | .error =>
      if newPwd = "" ∨ newPwd = oldPwd then return false
      return (← send attempt.authNew (.auth newPwd)) = .ok

/-- CONFIG SET both passwords, then CONFIG REWRITE. -/
def setPasswords (attempt : Attempt) (newPwd : String) : Proc Connection (Option RotateError) := do
  if (← send attempt.masterauth (.setMasterauth newPwd)) ≠ .ok then return some .failed
  if (← send attempt.requirepass (.setRequirepass newPwd)) ≠ .ok then return some .failed
  if (← send attempt.rewrite .rewrite) ≠ .ok then return some .rewriteFailed
  return none

/-- The error of one attempt, if any, and the passwords it leaves behind. -/
def rotateOne (oldPwd newPwd : String) (attempt : Attempt) (creds : Credentials) :
    Option RotateError × Credentials :=
  if attempt.dialFails then (some .failed, creds)
  else
    let outcome := Proc.run (do
      if ← signIn attempt oldPwd newPwd then setPasswords attempt newPwd else return some .failed)
      (.dial creds)
    (outcome.value, outcome.final.creds)

/-- The faults of one pod; a missing retry meets the context's end. -/
structure PodFaults where
  first : Attempt := {}
  second : Option Attempt := some {}
  third : Option Attempt := some {}
  deriving DecidableEq

/-- Go on after an attempt with the given outcome. -/
def retry (oldPwd newPwd : String) :
    List (Option Attempt) → Option RotateError × Credentials → Option RotateError × Credentials
  | _, (none, creds) => (none, creds)
  | [], (some error, creds) => (some error, creds)
  | none :: _, (some _, creds) => (some .failed, creds)
  | some attempt :: rest, (some _, creds) =>
      retry oldPwd newPwd rest (rotateOne oldPwd newPwd attempt creds)

/-- Rotate one pod in up to three attempts. -/
def rotateOneWithRetry (oldPwd newPwd : String) (faults : PodFaults) (creds : Credentials) :
    Option RotateError × Credentials :=
  retry oldPwd newPwd [faults.second, faults.third] (rotateOne oldPwd newPwd faults.first creds)

/-- Which pods are rotated. -/
inductive RotationPhase
  | replica
  | master
  deriving DecidableEq

/-- The outcome for one pod, which its name stands for. -/
structure PodResult where
  endpoint : String
  phase : RotationPhase
  err : Option RotateError
  deriving DecidableEq

/-- The passwords of every pod. -/
abbrev DataPlane := String → Credentials

/-- Every endpoint's rotation runs on its own. -/
def rotateMany (oldPwd newPwd : String) (phase : RotationPhase) (faults : String → PodFaults)
    (endpoints : List String) (plane : DataPlane) : List PodResult × DataPlane :=
  let rotated := fun name => rotateOneWithRetry oldPwd newPwd (faults name) (plane name)
  (endpoints.map fun name => ⟨name, phase, (rotated name).1⟩,
    fun name => if name ∈ endpoints then (rotated name).2 else plane name)

/-- Replicas first, then the master, unless that has no name. -/
def rotateAuth (oldPwd newPwd : String) (faults : String → PodFaults) (replicas : List String)
    (master : String) (plane : DataPlane) : List PodResult × DataPlane :=
  if oldPwd = "" ∧ newPwd = "" then ([], plane)
  else
    let first := rotateMany oldPwd newPwd .replica faults replicas plane
    if master = "" then first
    else
      let last := rotateMany oldPwd newPwd .master faults [master] first.2
      (first.1 ++ last.1, last.2)

/-- The pod could not be rotated. -/
def PodResult.isFailed (result : PodResult) : Bool :=
  result.err = some .failed

/-- The failed results and the others. -/
def classifyRotateResults (results : List PodResult) : List PodResult × List PodResult :=
  results.partition PodResult.isFailed

/-- The pods to revert, and the master. -/
def splitRevertEndpoints (succeeded : List PodResult) : List String × String :=
  ((succeeded.filter fun result => result.phase = .replica).map PodResult.endpoint,
    ((succeeded.filter fun result => result.phase = .master).map PodResult.endpoint).getLastD "")

/-- The faults of both legs. -/
structure RotationFaults where
  forward : String → PodFaults := fun _ => {}
  revert : String → PodFaults := fun _ => {}

/-- What the two legs came to. -/
structure Rotation where
  results : List PodResult
  revertResults : List PodResult
  plane : DataPlane

/-- Roll the new password out, and take it back unless every pod took it. -/
def rotatePods (oldPwd newPwd : String) (faults : RotationFaults) (replicas : List String)
    (master : String) (plane : DataPlane) : Rotation :=
  let forward := rotateAuth oldPwd newPwd faults.forward replicas master plane
  let classified := classifyRotateResults forward.1
  if classified.1 = [] then ⟨forward.1, [], forward.2⟩
  else
    let endpoints := splitRevertEndpoints classified.2
    let revert := rotateAuth newPwd oldPwd faults.revert endpoints.1 endpoints.2 forward.2
    ⟨forward.1, revert.1, revert.2⟩

/-- The driver's view of the two legs. -/
def AuthInput.under (input : AuthInput) (rotation : Rotation) : AuthInput :=
  { input with
    rotates := fun name => name ∉ (classifyRotateResults rotation.results).1.map PodResult.endpoint
    reverts := fun name =>
      name ∉ (classifyRotateResults rotation.revertResults).1.map PodResult.endpoint }

/-- The client may send commands to a server with this `requirepass`. -/
def Attempt.enters (attempt : Attempt) (oldPwd newPwd requirepass : String) : Prop :=
  attempt.dialFails = false ∧
    if oldPwd = "" then requirepass = ""
    else requirepass = oldPwd ∧ attempt.auth = .none ∨
      newPwd ≠ "" ∧ newPwd ≠ oldPwd ∧ requirepass = newPwd ∧ attempt.auth ≠ .unsent ∧
        attempt.authNew = .none

instance (attempt : Attempt) (oldPwd newPwd requirepass : String) :
    Decidable (attempt.enters oldPwd newPwd requirepass) :=
  inferInstanceAs (Decidable (attempt.dialFails = false ∧ if oldPwd = "" then _ else _))

/-- What the CONFIG commands of a client that entered come to. -/
def Attempt.written (attempt : Attempt) (newPwd : String) (creds : Credentials) :
    Option RotateError × Credentials :=
  match attempt.masterauth, attempt.requirepass with
  | .none, .none =>
      (if attempt.rewrite = .none then none else some .rewriteFailed, ⟨newPwd, newPwd⟩)
  | .none, .lost => (some .failed, ⟨newPwd, newPwd⟩)
  | .none, _ | .lost, _ => (some .failed, { creds with masterauth := newPwd })
  | _, _ => (some .failed, creds)

private def Attempt.outcome (attempt : Attempt) (oldPwd newPwd : String) (creds : Credentials) :
    Option RotateError × Credentials :=
  if attempt.enters oldPwd newPwd creds.requirepass then attempt.written newPwd creds
  else (some .failed, creds)

variable {password : String}

section Attempt

variable {attempt : Attempt} {oldPwd newPwd : String} {creds : Credentials}

variable {conn : Connection}

theorem accepts_auth_iff :
    conn.accepts (.auth password) = true ↔
      conn.creds.requirepass ≠ "" ∧ conn.creds.requirepass = password :=
  decide_eq_true_iff

variable {fault : Fault} {command : Command}

theorem send_ok_iff :
    ((send fault command).run conn).value = .ok ↔
      fault = .none ∧ conn.accepts command = true := by
  cases fault <;> cases accepted : conn.accepts command <;> simp [send, accepted]

private theorem send_unsent_iff :
    ((send fault command).run conn).value = .unsent ↔ fault = .unsent := by
  cases fault <;> cases accepted : conn.accepts command <;> simp [send, accepted]

theorem send_final :
    ((send fault command).run conn).final =
      if fault = .none ∨ fault = .lost then conn.serve command else conn := by
  cases fault <;> simp [send]

theorem serve_auth (password : String) (conn : Connection) :
    conn.serve (.auth password) = { conn with
      authenticated := conn.authenticated || conn.accepts (.auth password) } := by
  unfold Connection.serve
  split <;> simp_all

theorem send_auth_creds : ((send fault (.auth password)).run conn).final.creds = conn.creds := by
  rw [send_final]
  split
  · rw [serve_auth]
  · rfl

/-- A reply to AUTH that is not an error leaves the client signed in. -/
theorem send_auth_authenticated (answer : ((send fault (.auth password)).run conn).value = .ok) :
    ((send fault (.auth password)).run conn).final.authenticated = true := by
  obtain ⟨delivered, accepted⟩ := send_ok_iff.mp answer
  rw [send_final, if_pos (.inl delivered), serve_auth, accepted, Bool.or_true]

private theorem fallback_ok_iff {fault second : Fault} {password newPwd : String}
    {creds : Credentials} (filled : newPwd ≠ "") :
    let first := ((send fault (.auth password)).run (.dial creds)).final
    ((send second (.auth newPwd)).run first).value = .ok ↔
      creds.requirepass = newPwd ∧ second = .none := by
  intro first
  have kept : first.creds = creds := send_auth_creds
  rw [send_ok_iff, accepts_auth_iff, kept]
  constructor
  · rintro ⟨delivered, -, known⟩
    exact ⟨known, delivered⟩
  · rintro ⟨known, delivered⟩
    exact ⟨delivered, fun empty => filled (known.symm.trans empty), known⟩

/-- Passwords are left alone; the server listens if the attempt enters. -/
theorem signIn_run (oldPwd newPwd : String) (creds : Credentials)
    (dialled : attempt.dialFails = false) :
    let outcome := (signIn attempt oldPwd newPwd).run (.dial creds)
    outcome.final.creds = creds ∧ ((outcome.value = true ∧ outcome.final.authenticated = true) ↔
      attempt.enters oldPwd newPwd creds.requirepass) := by
  unfold signIn Attempt.enters
  by_cases blank : oldPwd = ""
  · simp [blank, dialled, Connection.dial]
  · simp only [blank, if_false, final_bind, value_bind, dialled, true_and]
    cases answer : ((send attempt.auth (.auth oldPwd)).run (.dial creds)).value with
    | ok =>
        obtain ⟨auth, accepted⟩ := send_ok_iff.mp answer
        have known := (accepts_auth_iff.mp accepted).2
        refine ⟨send_auth_creds, iff_of_true ⟨rfl, send_auth_authenticated answer⟩
          (.inl ⟨known, auth⟩)⟩
    | unsent =>
        have auth := send_unsent_iff.mp answer
        refine ⟨send_auth_creds, iff_of_false (fun entered => ?_) ?_⟩
        · cases entered.1
        · simp [auth]
    | error =>
        have sent : attempt.auth ≠ .unsent := fun auth => by
          rw [send_unsent_iff.mpr auth] at answer
          cases answer
        have wrong : ¬(creds.requirepass = oldPwd ∧ attempt.auth = .none) := fun ⟨known, auth⟩ => by
          have accepted : (Connection.dial creds).accepts (.auth oldPwd) = true :=
            accepts_auth_iff.mpr ⟨fun empty => blank (known.symm.trans empty), known⟩
          rw [send_ok_iff.mpr ⟨auth, accepted⟩] at answer
          cases answer
        simp only [run_ite, wrong, false_or, sent, ne_eq, not_false_eq_true, true_and]
        split
        · rename_i fallback
          refine ⟨send_auth_creds, iff_of_false (fun entered => ?_) ?_⟩
          · cases entered.1
          · grind
        · rename_i fallback
          have filled : newPwd ≠ "" := fun empty => fallback (.inl empty)
          simp only [final_bind, value_bind, final_pure, value_pure,
            decide_eq_true_eq]
          have second_iff := @fallback_ok_iff attempt.auth attempt.authNew oldPwd _ creds filled
          refine ⟨send_auth_creds.trans send_auth_creds, ?_⟩
          constructor
          · rintro ⟨second, -⟩
            obtain ⟨known, delivered⟩ := second_iff.mp second
            exact ⟨filled, (fallback <| .inr ·), known, delivered⟩
          · rintro ⟨-, -, known, delivered⟩
            have second := second_iff.mpr ⟨known, delivered⟩
            exact ⟨second, send_auth_authenticated second⟩

private theorem setPasswords_run (attempt : Attempt) (newPwd : String) (conn : Connection) :
    let outcome := (setPasswords attempt newPwd).run conn
    (outcome.value, outcome.final.creds) =
      if conn.authenticated then attempt.written newPwd conn.creds
      else (some .failed, conn.creds) := by
  obtain ⟨creds, authenticated⟩ := conn
  cases authenticated <;> cases masterauth : attempt.masterauth <;>
    cases requirepass : attempt.requirepass <;> cases rewrite : attempt.rewrite <;>
    simp [setPasswords, Attempt.written, send, Connection.serve, Connection.accepts, masterauth,
      requirepass, rewrite]

theorem rotateOne_eq (attempt : Attempt) (oldPwd newPwd : String) (creds : Credentials) :
    rotateOne oldPwd newPwd attempt creds = attempt.outcome oldPwd newPwd creds := by
  unfold rotateOne Attempt.outcome
  cases dialled : attempt.dialFails with
  | true => simp [Attempt.enters, dialled]
  | false =>
      obtain ⟨kept, entered⟩ := signIn_run oldPwd newPwd creds dialled
      simp only [← entered, value_bind, final_bind, run_ite, Bool.false_eq_true,
        if_false]
      split
      · rename_i signedIn
        have written := setPasswords_run attempt newPwd
          ((signIn attempt oldPwd newPwd).run (.dial creds)).final
        simp only [kept] at written
        simpa [signedIn] using written
      · simp_all

end Attempt

section Retry

variable {oldPwd newPwd : String}

/-- The attempt sets `masterauth` on a pod that still has the old password. -/
def Attempt.touches (attempt : Attempt) (oldPwd newPwd : String) : Prop :=
  attempt.enters oldPwd newPwd oldPwd ∧ (attempt.masterauth = .none ∨ attempt.masterauth = .lost)

/-- The attempt moves the pod. -/
def Attempt.moves (attempt : Attempt) (oldPwd newPwd requirepass : String) : Prop :=
  attempt.enters oldPwd newPwd requirepass ∧ attempt.masterauth = .none ∧
    (attempt.requirepass = .none ∨ attempt.requirepass = .lost)

/-- The attempt hears that both passwords are set. -/
def Attempt.completes (attempt : Attempt) (oldPwd newPwd requirepass : String) : Prop :=
  attempt.enters oldPwd newPwd requirepass ∧ attempt.masterauth = .none ∧
    attempt.requirepass = .none

instance (attempt : Attempt) (oldPwd newPwd : String) :
    Decidable (attempt.touches oldPwd newPwd) :=
  inferInstanceAs (Decidable (_ ∧ _))

instance (attempt : Attempt) (oldPwd newPwd requirepass : String) :
    Decidable (attempt.moves oldPwd newPwd requirepass) :=
  inferInstanceAs (Decidable (_ ∧ _ ∧ (_ ∨ _)))

instance (attempt : Attempt) (oldPwd newPwd requirepass : String) :
    Decidable (attempt.completes oldPwd newPwd requirepass) :=
  inferInstanceAs (Decidable (_ ∧ _ ∧ _))

/-- Some attempt before the context's end sets `masterauth`. -/
def Touches (oldPwd newPwd : String) : List (Option Attempt) → Prop
  | some attempt :: rest => attempt.touches oldPwd newPwd ∨ Touches oldPwd newPwd rest
  | _ => False

/-- The last attempt made hears that both passwords are set. -/
def Lands (oldPwd newPwd : String) : String → List (Option Attempt) → Prop
  | requirepass, some attempt :: rest =>
      attempt.completes oldPwd newPwd requirepass ∧ (attempt.rewrite = .none ∨ rest = []) ∨
        Lands oldPwd newPwd
          (if attempt.moves oldPwd newPwd requirepass then newPwd else requirepass) rest
  | _, _ => False

instance decidableTouches (oldPwd newPwd : String) :
    (attempts : List (Option Attempt)) → Decidable (Touches oldPwd newPwd attempts)
  | some attempt :: rest =>
      have := decidableTouches oldPwd newPwd rest
      inferInstanceAs (Decidable (attempt.touches oldPwd newPwd ∨ Touches oldPwd newPwd rest))
  | none :: _ | [] => isFalse id

instance decidableLands (oldPwd newPwd : String) : (requirepass : String) →
    (attempts : List (Option Attempt)) → Decidable (Lands oldPwd newPwd requirepass attempts)
  | requirepass, some attempt :: rest =>
      have := decidableLands oldPwd newPwd
        (if attempt.moves oldPwd newPwd requirepass then newPwd else requirepass) rest
      inferInstanceAs (Decidable (_ ∧ (_ ∨ _) ∨ Lands oldPwd newPwd _ rest))
  | _, none :: _ | _, [] => isFalse id

section Outcome

variable {attempt : Attempt} {creds : Credentials}

/-- An attempt may set the password and fail. -/
example (lost : attempt.requirepass = .lost) : (attempt.written newPwd creds).1 = some .failed := by
  unfold Attempt.written
  grind

theorem Attempt.outcome_unfailed_iff :
    (attempt.outcome oldPwd newPwd creds).1 ≠ some .failed ↔
      attempt.completes oldPwd newPwd creds.requirepass := by
  unfold Attempt.outcome Attempt.written Attempt.completes
  grind

private theorem Attempt.outcome_eq_none_iff :
    (attempt.outcome oldPwd newPwd creds).1 = none ↔
      attempt.completes oldPwd newPwd creds.requirepass ∧ attempt.rewrite = .none := by
  unfold Attempt.outcome Attempt.written Attempt.completes
  grind

private theorem Attempt.outcome_requirepass :
    (attempt.outcome oldPwd newPwd creds).2.requirepass =
      if attempt.moves oldPwd newPwd creds.requirepass then newPwd else creds.requirepass := by
  unfold Attempt.outcome Attempt.written Attempt.moves
  grind

private theorem Attempt.outcome_masterauth (held : creds.masterauth = newPwd) :
    (attempt.outcome oldPwd newPwd creds).2.masterauth = newPwd := by
  unfold Attempt.outcome Attempt.written
  grind

theorem Attempt.outcome_moved (unfailed : (attempt.outcome oldPwd newPwd creds).1 ≠ some .failed) :
    (attempt.outcome oldPwd newPwd creds).2 = ⟨newPwd, newPwd⟩ := by
  obtain ⟨entered, masterauth, requirepass⟩ := Attempt.outcome_unfailed_iff.mp unfailed
  simp [Attempt.outcome, Attempt.written, entered, masterauth, requirepass]

private theorem Attempt.outcome_untouched {masterauth : String}
    (untouched : ¬attempt.touches oldPwd newPwd) :
    attempt.outcome oldPwd newPwd ⟨oldPwd, masterauth⟩ = (some .failed, ⟨oldPwd, masterauth⟩) := by
  unfold Attempt.outcome Attempt.written
  unfold Attempt.touches at untouched
  grind

private theorem Attempt.outcome_touched (touched : attempt.touches oldPwd newPwd)
    {masterauth : String} :
    (attempt.outcome oldPwd newPwd ⟨oldPwd, masterauth⟩).2.masterauth = newPwd := by
  unfold Attempt.outcome Attempt.written
  unfold Attempt.touches at touched
  grind

end Outcome

variable {rest : List (Option Attempt)} {result : Option RotateError × Credentials}

private theorem retry_moved (start : result.1 ≠ some .failed → result.2 = ⟨newPwd, newPwd⟩) :
    (retry oldPwd newPwd rest result).1 ≠ some .failed →
      (retry oldPwd newPwd rest result).2 = ⟨newPwd, newPwd⟩ := by
  fun_induction retry with
  | case1 rest creds => exact start
  | case2 error creds => exact start
  | case3 rest error creds => exact fun unfailed => absurd rfl unfailed
  | case4 attempt rest error creds ih =>
      apply ih
      rw [rotateOne_eq]
      exact Attempt.outcome_moved

private theorem retry_masterauth (held : result.2.masterauth = newPwd) :
    (retry oldPwd newPwd rest result).2.masterauth = newPwd := by
  fun_induction retry with
  | case1 rest creds => exact held
  | case2 error creds => exact held
  | case3 rest error creds => exact held
  | case4 attempt rest error creds ih =>
      apply ih
      rw [rotateOne_eq]
      exact Attempt.outcome_masterauth held

private theorem retry_unfailed_iff {attempt : Attempt} {creds : Credentials} :
    (retry oldPwd newPwd rest (attempt.outcome oldPwd newPwd creds)).1 ≠ some .failed ↔
      Lands oldPwd newPwd creds.requirepass (some attempt :: rest) := by
  induction rest generalizing attempt creds with
  | nil =>
      rw [Lands, ← Attempt.outcome_unfailed_iff]
      cases attempt.outcome oldPwd newPwd creds with
      | mk error after => cases error <;> simp [retry, Lands]
  | cons next rest ih =>
      rw [Lands, ← Attempt.outcome_requirepass]
      have settled := @Attempt.outcome_eq_none_iff oldPwd newPwd attempt creds
      cases result : attempt.outcome oldPwd newPwd creds with
      | mk error after =>
          rw [result] at settled
          cases error with
          | none => simp [retry, (settled.mp rfl).1, (settled.mp rfl).2]
          | some error =>
              have unsettled : ¬(attempt.completes oldPwd newPwd creds.requirepass ∧
                  attempt.rewrite = .none) := fun both => by cases settled.mpr both
              cases next with
              | none => simp [retry, Lands, unsettled]
              | some following =>
                  rw [retry, rotateOne_eq, ih]
                  simp [unsettled]

private theorem retry_touched (differ : oldPwd ≠ newPwd) {attempt : Attempt}
    (touched : attempt.touches oldPwd newPwd) :
    (retry oldPwd newPwd rest (attempt.outcome oldPwd newPwd ⟨oldPwd, oldPwd⟩)).2 ≠
      ⟨oldPwd, oldPwd⟩ := by
  intro kept
  have held : (retry oldPwd newPwd rest
      (attempt.outcome oldPwd newPwd ⟨oldPwd, oldPwd⟩)).2.masterauth = newPwd :=
    retry_masterauth (Attempt.outcome_touched touched)
  rw [kept] at held
  exact differ held

/-- A pod keeps the old passwords exactly when no attempt sets `masterauth`. -/
theorem retry_unmoved_iff (differ : oldPwd ≠ newPwd) {attempt : Attempt} :
    (retry oldPwd newPwd rest (attempt.outcome oldPwd newPwd ⟨oldPwd, oldPwd⟩)).2 =
        ⟨oldPwd, oldPwd⟩ ↔ ¬Touches oldPwd newPwd (some attempt :: rest) := by
  induction rest generalizing attempt with
  | nil =>
      by_cases touched : attempt.touches oldPwd newPwd
      · simp [retry_touched differ touched, Touches, touched]
      · simp [Attempt.outcome_untouched touched, retry, Touches, touched]
  | cons next rest ih =>
      by_cases touched : attempt.touches oldPwd newPwd
      · simp [retry_touched differ touched, Touches, touched]
      · rw [Attempt.outcome_untouched touched, Touches]
        -- The pod is as it was, so that the remaining attempts decide.
        cases next with
        | none => simp [retry, Touches, touched]
        | some following =>
            rw [retry, rotateOne_eq, ih]
            simp [touched]

private theorem retry_same (start : result.2 = ⟨password, password⟩) :
    (retry password password rest result).2 = ⟨password, password⟩ := by
  fun_induction retry with
  | case1 rest creds => exact start
  | case2 error creds => exact start
  | case3 rest error creds => exact start
  | case4 attempt rest error creds ih =>
      apply ih
      rw [rotateOne_eq, show creds = ⟨password, password⟩ from start]
      unfold Attempt.outcome Attempt.written
      grind

/-- The attempts of a pod. -/
def PodFaults.attempts (faults : PodFaults) : List (Option Attempt) :=
  [some faults.first, faults.second, faults.third]

variable {faults : PodFaults} {creds : Credentials}

theorem rotateOneWithRetry_moved
    (unfailed : (rotateOneWithRetry oldPwd newPwd faults creds).1 ≠ some .failed) :
    (rotateOneWithRetry oldPwd newPwd faults creds).2 = ⟨newPwd, newPwd⟩ := by
  refine retry_moved ?_ unfailed
  rw [rotateOne_eq]
  exact Attempt.outcome_moved

private theorem rotateOneWithRetry_unfailed_iff :
    (rotateOneWithRetry oldPwd newPwd faults creds).1 ≠ some .failed ↔
      Lands oldPwd newPwd creds.requirepass faults.attempts := by
  rw [rotateOneWithRetry, rotateOne_eq, PodFaults.attempts, retry_unfailed_iff]

/-- The pod keeps the old password exactly when no attempt sets `masterauth`. -/
theorem rotateOneWithRetry_unmoved_iff :
    (rotateOneWithRetry oldPwd newPwd faults ⟨oldPwd, oldPwd⟩).2 = ⟨oldPwd, oldPwd⟩ ↔
      oldPwd = newPwd ∨ ¬Touches oldPwd newPwd faults.attempts := by
  rw [rotateOneWithRetry, rotateOne_eq, PodFaults.attempts]
  by_cases same : oldPwd = newPwd
  · subst same
    refine iff_of_true (retry_same ?_) (.inl rfl)
    unfold Attempt.outcome Attempt.written
    grind
  · rw [retry_unmoved_iff same]
    simp [same]

end Retry

section Rotation

variable {oldPwd newPwd : String} {faults : String → PodFaults} {replicas : List String}
  {master : String} {plane : DataPlane}

/-- The pods that a leg sends to. -/
def legEndpoints (oldPwd newPwd : String) (replicas : List String) (master : String) :
    List String :=
  if oldPwd = "" ∧ newPwd = "" then []
  else if master = "" then replicas
  else replicas ++ [master]

theorem rotateAuth_plane (apart : master ∉ replicas) (name : String) :
    (rotateAuth oldPwd newPwd faults replicas master plane).2 name =
      if name ∈ legEndpoints oldPwd newPwd replicas master then
        (rotateOneWithRetry oldPwd newPwd (faults name) (plane name)).2
      else plane name := by
  unfold rotateAuth legEndpoints
  split
  · simp
  · split
    · rfl
    · simp only [rotateMany, List.mem_append, List.mem_singleton]
      by_cases isMaster : name = master
      · subst isMaster
        simp [apart]
      · simp [isMaster]

theorem rotateAuth_results (apart : master ∉ replicas) :
    let err := fun name => (rotateOneWithRetry oldPwd newPwd (faults name) (plane name)).1
    (rotateAuth oldPwd newPwd faults replicas master plane).1 =
      if oldPwd = "" ∧ newPwd = "" then []
      else (replicas.map fun name => ⟨name, .replica, err name⟩) ++
        if master = "" then [] else [⟨master, .master, err master⟩] := by
  unfold rotateAuth
  split
  · rfl
  · split <;> simp [rotateMany, apart]

theorem mem_classify_failed (apart : master ∉ replicas) (name : String) :
    name ∈ (classifyRotateResults
        (rotateAuth oldPwd newPwd faults replicas master plane).1).1.map PodResult.endpoint ↔
      name ∈ legEndpoints oldPwd newPwd replicas master ∧
        (rotateOneWithRetry oldPwd newPwd (faults name) (plane name)).1 = some .failed := by
  rw [rotateAuth_results apart, classifyRotateResults, List.partition_eq_filter_filter,
    legEndpoints]
  split
  · simp
  · by_cases isMaster : name = master
    · subst isMaster
      split <;> simp [PodResult.isFailed, apart]
    · split <;> simp [PodResult.isFailed, isMaster, Ne.symm isMaster]

/-- The pod is not classified as failed. -/
def takes (oldPwd newPwd : String) (faults : String → PodFaults) (plane : DataPlane)
    (name : String) : Bool :=
  (rotateOneWithRetry oldPwd newPwd (faults name) (plane name)).1 ≠ some .failed

private theorem splitRevertEndpoints_eq (faults : String → PodFaults) (plane : DataPlane)
    (apart : master ∉ replicas) (named : master ≠ "")
    (secret : ¬(oldPwd = "" ∧ newPwd = "")) :
    splitRevertEndpoints
        (classifyRotateResults (rotateAuth oldPwd newPwd faults replicas master plane).1).2 =
      (replicas.filter (takes oldPwd newPwd faults plane),
        if takes oldPwd newPwd faults plane master then master else "") := by
  have unfailed : ∀ name phase, (!PodResult.isFailed ⟨name, phase,
      (rotateOneWithRetry oldPwd newPwd (faults name) (plane name)).1⟩) =
        takes oldPwd newPwd faults plane name := fun name phase => by
    simp [PodResult.isFailed, takes]
  rw [rotateAuth_results apart, classifyRotateResults, List.partition_eq_filter_filter,
    if_neg secret, if_neg named, splitRevertEndpoints]
  cases moved : takes oldPwd newPwd faults plane master <;>
    simp [unfailed, moved, List.filter_map, Function.comp_def]

theorem mem_revertEndpoints (took : String → Bool) (apart : master ∉ replicas)
    (named : "" ∉ replicas ++ [master]) (secret : ¬(oldPwd = "" ∧ newPwd = "")) :
    (if took master then master else "") ∉ replicas.filter took ∧
      ∀ name, name ∈ legEndpoints newPwd oldPwd (replicas.filter took)
        (if took master then master else "") ↔ name ∈ replicas ++ [master] ∧ took name = true := by
  obtain ⟨namedReplicas, namedMaster⟩ : "" ∉ replicas ∧ master ≠ "" := by
    simpa [eq_comm] using named
  have blank : ¬(newPwd = "" ∧ oldPwd = "") := fun both => secret both.symm
  unfold legEndpoints
  cases taken : took master with
  | true =>
      simp only [blank, namedMaster, if_true, if_false]
      refine ⟨fun mem => apart (List.mem_filter.mp mem).1, fun name => ?_⟩
      rw [List.mem_append, List.mem_append, List.mem_filter, List.mem_singleton]
      grind
  | false =>
      simp only [blank, if_true, if_false, Bool.false_eq_true]
      refine ⟨fun mem => namedReplicas (List.mem_filter.mp mem).1, fun name => ?_⟩
      rw [List.mem_append, List.mem_filter, List.mem_singleton]
      grind

variable {faults : RotationFaults}

theorem rotatePods_results :
    (rotatePods oldPwd newPwd faults replicas master plane).results =
      (rotateAuth oldPwd newPwd faults.forward replicas master plane).1 := by
  unfold rotatePods
  simp only
  split <;> rfl

section Reverted

variable {faults : RotationFaults} (apart : master ∉ replicas)
  (named : "" ∉ replicas ++ [master])
  (failed : (classifyRotateResults
    (rotatePods oldPwd newPwd faults replicas master plane).results).1 ≠ [])

include apart failed in
theorem rotatePods_secret : ¬(oldPwd = "" ∧ newPwd = "") := by
  intro blank
  rw [rotatePods_results, rotateAuth_results apart, if_pos blank] at failed
  exact failed rfl

include apart named failed in
theorem rotatePods_eq :
    let took := takes oldPwd newPwd faults.forward plane
    let forward := rotateAuth oldPwd newPwd faults.forward replicas master plane
    let revert := rotateAuth newPwd oldPwd faults.revert (replicas.filter took)
      (if took master then master else "") forward.2
    rotatePods oldPwd newPwd faults replicas master plane = ⟨forward.1, revert.1, revert.2⟩ := by
  have hasMaster : master ≠ "" := fun eq => named (by simp [eq])
  have split := splitRevertEndpoints_eq faults.forward plane apart hasMaster
    (rotatePods_secret apart failed)
  rw [rotatePods_results] at failed
  unfold rotatePods
  simp only [failed, if_false, split]

include apart named failed in
theorem rotatePods_revertFailed {name : String}
    (unreverted : name ∈ (classifyRotateResults
      (rotatePods oldPwd newPwd faults replicas master plane).revertResults).1.map
        PodResult.endpoint) :
    name ∈ replicas ++ [master] ∧ name ∉ (classifyRotateResults
      (rotatePods oldPwd newPwd faults replicas master plane).results).1.map
        PodResult.endpoint := by
  obtain ⟨revertApart, revertTo⟩ := mem_revertEndpoints (takes oldPwd newPwd faults.forward plane)
    apart named (rotatePods_secret apart failed)
  rw [rotatePods_eq apart named failed] at unreverted ⊢
  obtain ⟨listed, took⟩ :=
    (revertTo name).mp ((mem_classify_failed revertApart name).mp unreverted).1
  refine ⟨listed, fun mem => ?_⟩
  exact of_decide_eq_true took ((mem_classify_failed apart name).mp mem).2

include apart named failed in
/-- A reverted pod is back if it took the password or no `masterauth`. -/
theorem rotatePods_plane_iff
    (reverted : (classifyRotateResults
      (rotatePods oldPwd newPwd faults replicas master plane).revertResults).1 = [])
    {name : String} (listed : name ∈ replicas ++ [master])
    (start : plane name = ⟨oldPwd, oldPwd⟩) :
    (rotatePods oldPwd newPwd faults replicas master plane).plane name = ⟨oldPwd, oldPwd⟩ ↔
      oldPwd = newPwd ∨ (Touches oldPwd newPwd (faults.forward name).attempts →
        Lands oldPwd newPwd oldPwd (faults.forward name).attempts) := by
  have secret := rotatePods_secret apart failed
  have hasMaster : master ≠ "" := fun eq => named (by simp [eq])
  have forward : (rotateAuth oldPwd newPwd faults.forward replicas master plane).2 name =
      (rotateOneWithRetry oldPwd newPwd (faults.forward name) ⟨oldPwd, oldPwd⟩).2 := by
    rw [rotateAuth_plane apart, legEndpoints, if_neg secret, if_neg hasMaster, if_pos listed, start]
  have took : takes oldPwd newPwd faults.forward plane name = true ↔
      Lands oldPwd newPwd oldPwd (faults.forward name).attempts := by
    rw [takes, decide_eq_true_iff, rotateOneWithRetry_unfailed_iff, start]
  obtain ⟨revertApart, revertTo⟩ := mem_revertEndpoints (takes oldPwd newPwd faults.forward plane)
    apart named secret
  rw [rotatePods_eq apart named failed] at reverted ⊢
  simp only at reverted ⊢
  rw [rotateAuth_plane revertApart, forward]
  by_cases taken : takes oldPwd newPwd faults.forward plane name = true
  · have sent := (revertTo name).mpr ⟨listed, taken⟩
    rw [if_pos sent]
    refine iff_of_true (rotateOneWithRetry_moved fun unreverted => ?_) (.inr fun _ => took.mp taken)
    rw [← forward] at unreverted
    have mem := (mem_classify_failed revertApart name).mpr ⟨sent, unreverted⟩
    rw [reverted] at mem
    cases mem
  · rw [if_neg fun sent => taken ((revertTo name).mp sent).2, rotateOneWithRetry_unmoved_iff]
    simp [mt took.mpr taken]

end Reverted

theorem rotatePods_moved (apart : master ∉ replicas) (named : master ≠ "") (secret : newPwd ≠ "")
    (unfailed : (classifyRotateResults
      (rotatePods oldPwd newPwd faults replicas master plane).results).1 = []) {name : String}
    (listed : name ∈ replicas ++ [master]) :
    (rotatePods oldPwd newPwd faults replicas master plane).plane name = ⟨newPwd, newPwd⟩ := by
  rw [rotatePods_results] at unfailed
  have reached : name ∈ legEndpoints oldPwd newPwd replicas master := by
    rwa [legEndpoints, if_neg fun blank => secret blank.2, if_neg named]
  unfold rotatePods
  simp only [unfailed, if_true]
  rw [rotateAuth_plane apart, if_pos reached]
  refine rotateOneWithRetry_moved fun failed => ?_
  have mem := (mem_classify_failed apart name).mpr ⟨reached, failed⟩
  rw [unfailed] at mem
  cases mem

end Rotation

end Velkir
