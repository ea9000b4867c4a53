import Velkir.Procedure

/-!
# Serving certificates

The authority keeps one root and any number of leaves in Secrets. Encodings and keys are arbitrary.
-/

namespace Velkir.Dynauth

open Crash Proc

/-- What the authority reads of a certificate. -/
structure Certificate (κ : Type) where
  publicKey : κ
  signedBy : Option κ
  /-- Basic constraints and key usage allow it to sign certificates. -/
  mayCertify : Bool
  dnsNames : List String
  deriving DecidableEq

/-- `CheckSignatureFrom`: the constraints of the parent, then the signature. -/
def Certificate.checkSignatureFrom {κ : Type} [DecidableEq κ] (cert parent : Certificate κ) :
    Bool :=
  parent.mayCertify && decide (cert.signedBy = some parent.publicKey)

/-- A certificate with its key, encoded. -/
structure CertMaterial (β : Type) where
  certPEM : β
  keyPEM : β

/-- The encoding of certificates and private keys. -/
structure Pem (κ β : Type) where
  parseCert : β → Option (Certificate κ)
  /-- A private key of any kind. -/
  parseKey : β → Option κ
  parseRSAKeyPEM : β → Option κ
  encodeCert : Certificate κ → β
  marshalRSAKeyPEM : κ → β
  parse_encode : ∀ cert, parseCert (encodeCert cert) = some cert
  parse_marshal : ∀ key, parseRSAKeyPEM (marshalRSAKeyPEM key) = some key
  parse_rsa : ∀ bytes key, parseRSAKeyPEM bytes = some key → parseKey bytes = some key

/-- What issuing fails with. -/
inductive Failure
  | api
  | notFound
  | keyGeneration
  | noNames
  | unparseable
  | keyMismatch
  deriving DecidableEq

section Generating

variable {κ β : Type} [DecidableEq κ] (pem : Pem κ β)

/-- The CA signs itself. -/
def caTemplate (key : κ) : Certificate κ where
  publicKey := key
  signedBy := some key
  mayCertify := true
  dnsNames := []

/-- A leaf signed by the CA. -/
def leafTemplate (key caKey : κ) (dnsNames : List String) : Certificate κ where
  publicKey := key
  signedBy := some caKey
  mayCertify := false
  dnsNames := dnsNames

/-- The fresh key is missing where the random source fails. -/
def generateCA (fresh : Option κ) : Except Failure (CertMaterial β) :=
  match fresh with
  | none => .error .keyGeneration
  | some key => .ok ⟨pem.encodeCert (caTemplate key), pem.marshalRSAKeyPEM key⟩

/-- Issue a leaf. -/
def generateLeaf (fresh : Option κ) (dnsNames : List String) (ca : CertMaterial β) :
    Except Failure (CertMaterial β) :=
  if dnsNames = [] then .error .noNames
  else
    match pem.parseCert ca.certPEM, pem.parseRSAKeyPEM ca.keyPEM, fresh with
    | some caCert, some caKey, some key =>
        -- `x509.CreateCertificate` compares the key with the parent's
        if caKey = caCert.publicKey then
          .ok ⟨pem.encodeCert (leafTemplate key caKey dnsNames), pem.marshalRSAKeyPEM key⟩
        else .error .keyMismatch
    | some _, some _, none => .error .keyGeneration
    | _, _, _ => .error .unparseable

end Generating

/-- What a Secret holds. -/
structure Secret (β : Type) where
  tlsCrt : β
  tlsKey : β
  caCrt : β
  certRole : String
  forceRotate : Bool

/-- The Secrets of the namespace by name. -/
def Store (β : Type) : Type := String → Option (Secret β)

def Store.put {β : Type} (store : Store β) (name : String) (secret : Secret β) : Store β :=
  Function.update store name (some secret)

def caSecretName : String := "velkir-webhook-ca"

def certRoleCA : String := "ca"

def expiryLabelCA : String := "ca"

section Requests

variable {β : Type}

/-- The pair in a Secret. -/
def materialFromSecret (secret : Secret β) : CertMaterial β := ⟨secret.tlsCrt, secret.tlsKey⟩

/-- Read a Secret. -/
def getSecret (answered : Bool) (name : String) :
    Proc (Store β) (Except Failure (Secret β)) :=
  Proc.read fun store =>
    if answered then
      match store name with
      | none => .error .notFound
      | some secret => .ok secret
    else .error .api

/-- Write a Secret. -/
def putSecret (reply : Crash.Answer) (name : String) (secret : Secret β) :
    Proc (Store β) (Option Failure) := do
  if ← Proc.request reply fun store => store.put name secret then return none
  else return some .api

/-- That the Secret exists by now is no error. -/
def createSecret (reply : Crash.Answer) (name role : String) (material : CertMaterial β)
    (caPEM : β) : Proc (Store β) (Option Failure) := do
  if (← Proc.read fun store => (store name).isSome) = true then return none
  else
    putSecret reply name
      { tlsCrt := material.certPEM
        tlsKey := material.keyPEM
        caCrt := caPEM
        certRole := role
        forceRotate := false }

/-- Write a pair into a Secret. -/
def updateSecret (reply : Crash.Answer) (name : String) (secret : Secret β)
    (material : CertMaterial β) (caPEM : β) : Proc (Store β) (Option Failure) :=
  putSecret reply name
    { secret with
      tlsCrt := material.certPEM
      tlsKey := material.keyPEM
      caCrt := caPEM
      forceRotate := false }

/-- Read the pair in a Secret. -/
def loadSecretMaterial (answered : Bool) (name : String) :
    Proc (Store β) (Except Failure (CertMaterial β)) := do
  match ← getSecret answered name with
  | .error failure => return .error failure
  | .ok secret => return .ok (materialFromSecret secret)

end Requests

/-- What a leaf is to be. -/
structure LeafSpec where
  secretName : String
  dnsNames : List String
  certRole : String
  expiryGaugeLabel : String

/-- The leaves to keep, whose Secrets are not that of the CA. -/
structure Authority where
  leaves : List LeafSpec
  nonempty : leaves ≠ []
  distinct : (leaves.map LeafSpec.secretName).Nodup
  apart : caSecretName ∉ leaves.map LeafSpec.secretName

/-- The answers to a pass, the keys it draws, and what is due. -/
structure Replies (κ : Type) where
  getCA : Bool
  loadCA : Bool
  writeCA : Crash.Answer
  freshCA : Option κ
  dueCA : Certificate κ → Bool
  getLeaf : String → Bool
  writeLeaf : String → Crash.Answer
  freshLeaf : String → Option κ
  dueLeaf : String → Certificate κ → Bool

/-- The three results of `ensureCA` and `ensureLeaf`. -/
structure Ensured (κ : Type) where
  cert : Option (Certificate κ)
  rotated : Bool
  error : Option Failure

/-- What a pass fails with. -/
inductive PassError
  | ensureCA (cause : Failure)
  | loadCA (cause : Failure)
  | ensureLeaf (secret : String) (cause : Failure)
  | observeLeaf (secret : String) (cause : Failure)
  deriving DecidableEq

/-- What a pass collects: errors, gauges and reissued Secrets. -/
structure PassResult (κ : Type) where
  errs : List PassError
  observed : List (String × Certificate κ)
  reissued : List String

section Pass

variable {κ β : Type} [DecidableEq κ] (pem : Pem κ β)

/-- What is returned once fresh material is stored. -/
def issued (material : CertMaterial β) : Ensured κ :=
  match pem.parseCert material.certPEM with
  | some cert => ⟨some cert, true, none⟩
  | none => ⟨none, true, some .unparseable⟩

/-- The branch of a missing Secret. -/
def mint (reply : Crash.Answer) (name role : String) (generated : Except Failure (CertMaterial β))
    (caPEM : CertMaterial β → β) : Proc (Store β) (Ensured κ) :=
  match generated with
  | .error failure => return ⟨none, false, some failure⟩
  | .ok material => do
      match ← createSecret reply name role material (caPEM material) with
      | some failure => return ⟨none, false, some failure⟩
      | none => return issued pem material

/-- `rotateCA` and `rotateLeaf`. -/
def rotate (reply : Crash.Answer) (name : String) (generated : Except Failure (CertMaterial β))
    (caPEM : CertMaterial β → β) (secret : Secret β) : Proc (Store β) (Ensured κ) :=
  match generated with
  | .error failure => return ⟨none, false, some failure⟩
  | .ok material => do
      match ← updateSecret reply name secret material (caPEM material) with
      | some failure => return ⟨none, false, some failure⟩
      | none => return issued pem material

/-- Keep the certificate in a Secret, or issue one if needed. -/
def ensure (answered : Bool) (reply : Crash.Answer) (name role : String)
    (generated : Except Failure (CertMaterial β)) (caPEM : CertMaterial β → β)
    (reissue : Secret β → Certificate κ → Bool) : Proc (Store β) (Ensured κ) := do
  match ← getSecret answered name with
  | .error .notFound => mint pem reply name role generated caPEM
  | .error failure => return ⟨none, false, some failure⟩
  | .ok secret =>
      match pem.parseCert (materialFromSecret secret).certPEM with
      | none => rotate pem reply name generated caPEM secret
      | some cert =>
          if reissue secret cert then
            let rotated ← rotate pem reply name generated caPEM secret
            match rotated.error with
            -- the old certificate is still in use
            | some failure => return ⟨some cert, false, some failure⟩
            | none => return rotated
          else return ⟨some cert, false, none⟩

variable (replies : Replies κ)

/-- The CA is to be reissued. -/
def reissueCA (secret : Secret β) (cert : Certificate κ) : Bool :=
  secret.forceRotate || replies.dueCA cert

/-- Keep the CA. -/
def ensureCA : Proc (Store β) (Ensured κ) :=
  ensure pem replies.getCA replies.writeCA caSecretName certRoleCA
    (generateCA pem replies.freshCA) (fun material => material.certPEM) (reissueCA replies)

/-- The leaf is not signed by the CA at hand. -/
def staleChain (ca : CertMaterial β) (cert : Certificate κ) : Bool :=
  match pem.parseCert ca.certPEM with
  | some caCert => !cert.checkSignatureFrom caCert
  | none => false

/-- The leaf is to be reissued. -/
def reissueLeaf (spec : LeafSpec) (ca : CertMaterial β) (caRotated : Bool) (secret : Secret β)
    (cert : Certificate κ) : Bool :=
  caRotated || staleChain pem ca cert || secret.forceRotate ||
    replies.dueLeaf spec.secretName cert

/-- Keep a leaf. -/
def ensureLeaf (spec : LeafSpec) (ca : CertMaterial β) (caRotated : Bool) :
    Proc (Store β) (Ensured κ) :=
  ensure pem (replies.getLeaf spec.secretName) (replies.writeLeaf spec.secretName)
    spec.secretName spec.certRole
    (generateLeaf pem (replies.freshLeaf spec.secretName) spec.dnsNames ca)
    (fun _ => ca.certPEM) (reissueLeaf pem replies spec ca caRotated)

/-- Look at a leaf. -/
def observeLeaf (spec : LeafSpec) : Proc (Store β) (Except Failure (Certificate κ)) := do
  match ← getSecret (replies.getLeaf spec.secretName) spec.secretName with
  | .error failure => return .error failure
  | .ok secret =>
      match pem.parseCert (materialFromSecret secret).certPEM with
      | some cert => return .ok cert
      | none => return .error .unparseable

/-- Collect what was ensured. -/
def PassResult.record (result : PassResult κ) (label secret : String)
    (wrap : Failure → PassError) (ensured : Ensured κ) : PassResult κ where
  errs := result.errs ++ (ensured.error.map wrap).toList
  observed := result.observed ++ (ensured.cert.map fun cert => (label, cert)).toList
  reissued := result.reissued ++
    (if ensured.error.isNone && ensured.rotated then [secret] else [])

/-- One round over the leaves; without a CA the leaf is only looked at. -/
def visitLeaf (usable : Option (CertMaterial β)) (caRotated : Bool) (result : PassResult κ)
    (spec : LeafSpec) : Proc (Store β) (PassResult κ) :=
  match usable with
  | some ca => do
      let ensured ← ensureLeaf pem replies spec ca caRotated
      return result.record spec.expiryGaugeLabel spec.secretName
        (.ensureLeaf spec.secretName) ensured
  | none => do
      match ← observeLeaf pem replies spec with
      | .ok cert =>
          return { result with observed := result.observed ++ [(spec.expiryGaugeLabel, cert)] }
      | .error failure =>
          return { result with errs := result.errs ++ [.observeLeaf spec.secretName failure] }

/-- Load the material of a healthy CA for signing. -/
def usableCA (ca : Ensured κ) (result : PassResult κ) :
    Proc (Store β) (Option (CertMaterial β) × PassResult κ) := do
  if ca.cert.isSome && ca.error.isNone then
    match ← loadSecretMaterial replies.loadCA caSecretName with
    | .ok material => return (some material, result)
    | .error failure => return (none, { result with errs := result.errs ++ [.loadCA failure] })
  else return (none, result)

/-- One pass over the CA and every leaf. -/
def Authority.reconcileOnce (authority : Authority) : Proc (Store β) (PassResult κ) := do
  let ca ← ensureCA pem replies
  let result := PassResult.record ⟨[], [], []⟩ expiryLabelCA caSecretName .ensureCA ca
  let (usable, result) ← usableCA replies ca result
  authority.leaves.foldlM (visitLeaf pem replies usable ca.rotated) result

/-- Passes, crashes, and edits of the Secrets by others. -/
def Authority.system (authority : Authority) :
    System (Store β) (Replies κ) (Store β → Store β) (PassResult κ) where
  call := fun replies => authority.reconcileOnce pem replies
  restart := id
  drift := id

end Pass

section Specifications

variable {κ β : Type} {pem : Pem κ β} {reply : Crash.Answer} {name role : String}
  {material : CertMaterial β} {caPEM : β} {store : Store β}

/-- Whether fresh material is to be stored, given what is there. -/
def needsIssue (pem : Pem κ β) (reissue : Secret β → Certificate κ → Bool)
    (stored : Option (Secret β)) : Bool :=
  match stored with
  | none => true
  | some secret =>
      match pem.parseCert secret.tlsCrt with
      | none => true
      | some cert => reissue secret cert

/-- The Secret holds this pair. -/
def Holds (material : CertMaterial β) (stored : Option (Secret β)) : Prop :=
  ∃ secret, stored = some secret ∧ materialFromSecret secret = material

/-- All Secrets but one are as they were. -/
def Elsewhere (name : String) (before after : Store β) : Prop :=
  ∀ other, other ≠ name → after other = before other

/-- What one Secret becomes without an error: fresh material, or what it was. -/
def Kept (pem : Pem κ β) (generated : Except Failure (CertMaterial β))
    (reissue : Secret β → Certificate κ → Bool) (before after : Option (Secret β)) : Prop :=
  if needsIssue pem reissue before = true then
    ∃ material, generated = .ok material ∧ Holds material after
  else after = before

/-- A write touches its Secret only, and is in place unless it failed. -/
def Puts (name : String) (material : CertMaterial β) (before : Store β) (failed : Option Failure)
    (after : Store β) : Prop :=
  Elsewhere name before after ∧ (failed = none → Holds material (after name))

theorem Elsewhere.refl (name : String) (store : Store β) : Elsewhere name store store :=
  fun _ _ => rfl

theorem putSecret_puts (secret : Secret β) :
    (putSecret reply name secret).wp (fun _ => True)
      (Puts name (materialFromSecret secret) store) store := by
  have written : Elsewhere name store (store.put name secret) := fun other different =>
    Function.update_of_ne different _ _
  have placed : Holds (materialFromSecret secret) (store.put name secret name) :=
    ⟨secret, Function.update_self _ _ _, rfl⟩
  simp only [putSecret, wp_bind, wp_ite, wp_pure]
  apply wp_request
  · intro _
    exact ⟨trivial, fun _ => ⟨written, fun _ => placed⟩, fun _ => ⟨written, by simp⟩⟩
  · intro _
    exact ⟨by simp, fun _ => ⟨Elsewhere.refl name store, by simp⟩⟩

private theorem createSecret_puts (absent : store name = none) :
    (createSecret reply name role material caPEM).wp (fun _ => True)
      (Puts name material store) store := by
  simp only [createSecret, wp_bind, wp_read, wp_ite, absent]
  exact ⟨by simp, fun _ => putSecret_puts _⟩

private theorem updateSecret_puts (secret : Secret β) :
    (updateSecret reply name secret material caPEM).wp (fun _ => True)
      (Puts name material store) store :=
  putSecret_puts _

variable {generated : Except Failure (CertMaterial β)} {anchor : CertMaterial β → β}
  {reissue : Secret β → Certificate κ → Bool}

/-- Fresh material is stored, or there is an error. -/
def Issues (name : String) (generated : Except Failure (CertMaterial β)) (before : Store β)
    (ensured : Ensured κ) (after : Store β) : Prop :=
  Elsewhere name before after ∧ (ensured.error = none →
    ensured.cert.isSome = true ∧ ensured.rotated = true ∧
      ∃ material, generated = .ok material ∧ Holds material (after name))

theorem issues_of_puts {failed : Option Failure} {after : Store β}
    (puts : Puts name material store failed after) (made : generated = .ok material) :
    (match failed with
      | some failure => (pure ⟨none, false, some failure⟩ : Proc (Store β) (Ensured κ))
      | none => pure (issued pem material)).wp (fun _ => True)
        (Issues name generated store) after := by
  cases failed with
  | some failure => exact wp_pure.mpr ⟨puts.1, nofun⟩
  | none =>
      refine wp_pure.mpr ⟨puts.1, fun silent => ?_⟩
      unfold issued at silent ⊢
      split
      next cert parsed => exact ⟨rfl, rfl, material, made, puts.2 rfl⟩
      next unparsed => simp [unparsed] at silent

private theorem rotate_issues (secret : Secret β) :
    (rotate pem reply name generated anchor secret).wp (fun _ => True)
      (Issues name generated store) store := by
  unfold rotate
  cases made : generated with
  | error failure => exact wp_pure.mpr ⟨Elsewhere.refl name store, nofun⟩
  | ok material =>
      rw [wp_bind]
      refine wp_mono (updateSecret_puts secret) (fun _ => id) fun failed after puts => ?_
      exact issues_of_puts puts rfl

private theorem mint_issues (absent : store name = none) :
    (mint pem reply name role generated anchor).wp (fun _ => True)
      (Issues name generated store) store := by
  unfold mint
  cases made : generated with
  | error failure => exact wp_pure.mpr ⟨Elsewhere.refl name store, nofun⟩
  | ok material =>
      rw [wp_bind]
      refine wp_mono (createSecret_puts absent) (fun _ => id) fun failed after puts => ?_
      exact issues_of_puts puts rfl

/-- What one Secret becomes, and what is returned about it. -/
def Ensures (pem : Pem κ β) (name : String) (generated : Except Failure (CertMaterial β))
    (reissue : Secret β → Certificate κ → Bool) (before : Store β) (ensured : Ensured κ)
    (after : Store β) : Prop :=
  Elsewhere name before after ∧ (ensured.error = none →
    ensured.cert.isSome = true ∧ ensured.rotated = needsIssue pem reissue (before name) ∧
      Kept pem generated reissue (before name) (after name))

private theorem Issues.ensures {ensured : Ensured κ} {after : Store β}
    (issues : Issues name generated store ensured after)
    (needed : needsIssue pem reissue (store name) = true) :
    Ensures pem name generated reissue store ensured after := by
  refine ⟨issues.1, fun silent => ?_⟩
  obtain ⟨some_cert, rotated, fresh⟩ := issues.2 silent
  refine ⟨some_cert, rotated.trans needed.symm, ?_⟩
  rw [Kept, if_pos needed]
  exact fresh

/-- The CA and the leaves are kept in the same way. -/
theorem ensure_spec (answered : Bool) :
    (ensure pem answered reply name role generated anchor reissue).wp (fun _ => True)
      (Ensures pem name generated reissue store) store := by
  simp only [ensure, wp_bind, getSecret, wp_read]
  cases answered with
  | false => exact wp_pure.mpr ⟨Elsewhere.refl name store, by simp⟩
  | true =>
      simp only [if_true]
      cases stored : store name with
      | none =>
          refine wp_mono (mint_issues stored) (fun _ => id) fun ensured after issues => ?_
          exact issues.ensures (by rw [stored]; rfl)
      | some secret =>
          cases parsed : pem.parseCert secret.tlsCrt with
          | none =>
              simp only [materialFromSecret, parsed]
              refine wp_mono (rotate_issues secret) (fun _ => id)
                fun ensured after issues => ?_
              exact issues.ensures (by simp [stored, needsIssue, parsed])
          | some cert =>
              have needed : needsIssue pem reissue (store name) = reissue secret cert := by
                simp [stored, needsIssue, parsed]
              simp only [materialFromSecret, parsed, wp_ite, wp_bind, wp_pure]
              constructor
              · intro due
                refine wp_mono (rotate_issues secret) (fun _ => id)
                  fun ensured after issues => ?_
                cases failed : ensured.error with
                | some failure => exact wp_pure.mpr ⟨issues.1, by simp⟩
                | none => exact wp_pure.mpr (issues.ensures (needed.trans due))
              · intro fresh
                refine ⟨Elsewhere.refl name store, fun _ => ⟨rfl, ?_, ?_⟩⟩
                · rw [needed]
                  simpa using fresh
                · rw [Kept, needed, if_neg fresh]

end Specifications

end Velkir.Dynauth
