import Velkir.ServingCerts

/-!
# Passes of the authority

A pass leaves every leaf signed by the stored CA. It looks at the signature of a leaf, not at its
key or its names.
-/

namespace Velkir.Dynauth

open Crash Proc

section Loop

variable {κ β : Type} [DecidableEq κ] {pem : Pem κ β} {replies : Replies κ} {store : Store β}
  {ca : CertMaterial β} {caRotated : Bool}

/-- What a leaf becomes in a pass without errors. -/
def LeafKept (pem : Pem κ β) (replies : Replies κ) (ca : CertMaterial β) (caRotated : Bool)
    (leaf : LeafSpec) (before after : Option (Secret β)) : Prop :=
  Kept pem (generateLeaf pem (replies.freshLeaf leaf.secretName) leaf.dnsNames ca)
    (reissueLeaf pem replies leaf ca caRotated) before after

omit [DecidableEq κ] in
theorem errs_record {result : PassResult κ} {label secret : String} {wrap : Failure → PassError}
    {ensured : Ensured κ} :
    (result.record label secret wrap ensured).errs = [] ↔
      result.errs = [] ∧ ensured.error = none := by
  simp only [PassResult.record, List.append_eq_nil_iff]
  cases ensured.error <;> simp

private theorem visitLeaf_spec (result : PassResult κ) (leaf : LeafSpec) :
    (visitLeaf pem replies (some ca) caRotated result leaf).wp (fun _ => True)
      (fun out after => Elsewhere leaf.secretName store after ∧ (out.errs = [] →
        result.errs = [] ∧ LeafKept pem replies ca caRotated leaf (store leaf.secretName)
          (after leaf.secretName))) store := by
  simp only [visitLeaf, wp_bind]
  refine wp_mono (ensure_spec _) (fun _ => id) fun ensured after ensures => ?_
  refine wp_pure.mpr ⟨ensures.1, fun clean => ?_⟩
  obtain ⟨before, silent⟩ := errs_record.mp clean
  exact ⟨before, (ensures.2 silent).2.2⟩

variable {leaves : List LeafSpec}

private theorem visitLeaves_spec (distinct : (leaves.map LeafSpec.secretName).Nodup)
    (result : PassResult κ) :
    (leaves.foldlM (visitLeaf pem replies (some ca) caRotated) result).wp (fun _ => True)
      (fun out after =>
        (∀ name, name ∉ leaves.map LeafSpec.secretName → after name = store name) ∧
          (out.errs = [] → result.errs = [] ∧ ∀ leaf ∈ leaves,
            LeafKept pem replies ca caRotated leaf (store leaf.secretName)
              (after leaf.secretName))) store := by
  induction leaves generalizing result store with
  | nil =>
      refine wp_pure.mpr ⟨fun _ _ => rfl, fun clean => ⟨clean, ?_⟩⟩
      simp
  | cons leaf leaves ih =>
      rw [List.map_cons, List.nodup_cons] at distinct
      rw [List.foldlM_cons, wp_bind]
      refine wp_mono (visitLeaf_spec result leaf) (fun _ => id) fun out middle first => ?_
      refine wp_mono (ih distinct.2 out) (fun _ => id) fun last after rest => ?_
      have untouched : after leaf.secretName = middle leaf.secretName :=
        rest.1 leaf.secretName distinct.1
      refine ⟨fun name other => ?_, fun clean => ?_⟩
      · rw [List.map_cons, List.mem_cons, not_or] at other
        rw [rest.1 name other.2, first.1 name other.1]
      · obtain ⟨middle_clean, later⟩ := rest.2 clean
        obtain ⟨before, here⟩ := first.2 middle_clean
        refine ⟨before, fun spec listed => ?_⟩
        rcases List.mem_cons.mp listed with rfl | inside
        · rwa [untouched]
        · have elsewhere : middle spec.secretName = store spec.secretName := by
            refine first.1 spec.secretName fun same => distinct.1 ?_
            rw [← same]
            exact List.mem_map_of_mem inside
          rw [← elsewhere]
          exact later spec inside

private theorem observe_errs (result : PassResult κ) (leaf : LeafSpec) :
    (visitLeaf pem replies none caRotated result leaf).wp (fun _ => True)
      (fun out _ => out.errs = [] → result.errs = []) store := by
  simp only [visitLeaf, observeLeaf, wp_bind, getSecret, wp_read]
  split
  · simp
  · split
    · simp
    · simp

private theorem observeLeaves_errs (result : PassResult κ) :
    (leaves.foldlM (visitLeaf pem replies none caRotated) result).wp (fun _ => True)
      (fun out _ => out.errs = [] → result.errs = []) store := by
  induction leaves generalizing result store with
  | nil => exact wp_pure.mpr id
  | cons leaf leaves ih =>
      rw [List.foldlM_cons, wp_bind]
      refine wp_mono (observe_errs result leaf) (fun _ => id) fun out middle first => ?_
      exact wp_mono (ih out) (fun _ => id) fun last after rest clean => first (rest clean)

/-- What the Secrets become in a pass without errors. -/
structure PassKept (pem : Pem κ β) (replies : Replies κ) (authority : Authority)
    (before after : Store β) : Prop where
  ca : Kept pem (generateCA pem replies.freshCA) (reissueCA replies) (before caSecretName)
    (after caSecretName)
  leaves : ∃ secret, after caSecretName = some secret ∧ ∀ leaf ∈ authority.leaves,
    LeafKept pem replies (materialFromSecret secret)
      (needsIssue pem (reissueCA replies) (before caSecretName)) leaf
      (before leaf.secretName) (after leaf.secretName)

omit [DecidableEq κ] in
private theorem usableCA_spec (ensured : Ensured κ) (result : PassResult κ) :
    (usableCA replies ensured result).wp (fun _ => True) (fun loaded after => after = store ∧
      match loaded.1 with
      | some material => loaded.2 = result ∧
          ∃ secret, store caSecretName = some secret ∧ materialFromSecret secret = material
      | none => loaded.2.errs = [] →
          result.errs = [] ∧ (ensured.cert.isSome && ensured.error.isNone) = false) store := by
  unfold usableCA
  split
  next =>
    simp only [loadSecretMaterial, wp_bind, getSecret, wp_read]
    cases replies.loadCA with
    | false => simp
    | true =>
        cases stored : store caSecretName with
        | none => simp
        | some secret => simp
  next unusable =>
    exact wp_pure.mpr ⟨rfl, fun clean => ⟨clean, Bool.eq_false_iff.mpr unusable⟩⟩

theorem reconcileOnce_spec (authority : Authority) :
    (authority.reconcileOnce pem replies).wp (fun _ => True)
      (fun out after => out.errs = [] → PassKept pem replies authority store after) store := by
  simp only [Authority.reconcileOnce, wp_bind]
  refine wp_mono (ensure_spec _) (fun _ => id) fun ensured middle ensures => ?_
  refine wp_mono (usableCA_spec ensured _) (fun _ => id) ?_
  rintro ⟨usable, result⟩ _ ⟨rfl, loaded⟩
  cases usable with
  | none =>
      refine wp_mono (observeLeaves_errs result) (fun _ => id) fun out after errs clean => ?_
      obtain ⟨started, unusable⟩ := loaded (errs clean)
      have silent := (errs_record.mp started).2
      simp [silent, (ensures.2 silent).1] at unusable
  | some material =>
      obtain ⟨rfl, secret, stored, rfl⟩ := loaded
      refine wp_mono (visitLeaves_spec authority.distinct _) (fun _ => id)
        fun out after kept clean => ?_
      obtain ⟨started, leaves⟩ := kept.2 clean
      obtain ⟨-, rotated, root⟩ := ensures.2 (errs_record.mp started).2
      have same := kept.1 caSecretName authority.apart
      refine ⟨same ▸ root, secret, same.trans stored, fun leaf listed => ?_⟩
      have untouched := ensures.1 leaf.secretName fun clash =>
        authority.apart (clash ▸ List.mem_map_of_mem listed)
      rw [← untouched, ← rotated]
      exact leaves leaf listed

end Loop

section Results

variable {κ β : Type} [DecidableEq κ]

/-- The certificate in a Secret. -/
def storedCert (pem : Pem κ β) (store : Store β) (name : String) : Option (Certificate κ) :=
  (store name).bind fun secret => pem.parseCert secret.tlsCrt

/-- The leaf is signed with the key of the stored CA certificate. -/
def signed (pem : Pem κ β) (store : Store β) (leaf : LeafSpec) : Bool :=
  match storedCert pem store leaf.secretName, storedCert pem store caSecretName with
  | some cert, some ca => decide (cert.signedBy = some ca.publicKey)
  | _, _ => false

/-- The leaf verifies against the stored CA certificate. -/
def verifies (pem : Pem κ β) (store : Store β) (leaf : LeafSpec) : Bool :=
  match storedCert pem store leaf.secretName, storedCert pem store caSecretName with
  | some cert, some ca => cert.checkSignatureFrom ca
  | _, _ => false

/-- The stored key is that of the certificate, which has the leaf's names. -/
def servable (pem : Pem κ β) (store : Store β) (leaf : LeafSpec) : Bool :=
  match store leaf.secretName with
  | none => false
  | some secret =>
      match pem.parseCert secret.tlsCrt, pem.parseKey secret.tlsKey with
      | some cert, some key =>
          decide (key = cert.publicKey) && decide (cert.dnsNames = leaf.dnsNames)
      | _, _ => false

/-- A pass without errors issues the leaf afresh. -/
def reissues (pem : Pem κ β) (replies : Replies κ) (store : Store β) (leaf : LeafSpec) : Bool :=
  match store caSecretName with
  | none => true
  | some ca =>
      needsIssue pem (reissueCA replies) (some ca) ||
        needsIssue pem (reissueLeaf pem replies leaf (materialFromSecret ca) false)
          (store leaf.secretName)

/-- A pass issues the CA certificate afresh, or the stored one may sign. -/
def Certifies (pem : Pem κ β) (replies : Replies κ) (store : Store β) : Prop :=
  needsIssue pem (reissueCA replies) (store caSecretName) = true ∨
    ∃ ca, storedCert pem store caSecretName = some ca ∧ ca.mayCertify = true

variable {pem : Pem κ β} {replies : Replies κ} {authority : Authority} {before after : Store β}

variable {ca material : CertMaterial β}

private theorem generateLeaf_ok {fresh : Option κ} {dnsNames : List String}
    (made : generateLeaf pem fresh dnsNames ca = .ok material) :
    ∃ caCert key, pem.parseCert ca.certPEM = some caCert ∧
      material.certPEM = pem.encodeCert (leafTemplate key caCert.publicKey dnsNames) ∧
      material.keyPEM = pem.marshalRSAKeyPEM key := by
  unfold generateLeaf at made
  split at made
  · cases made
  · split at made
    next caCert caKey key parsed _ =>
      split at made
      next same =>
        cases made
        exact ⟨caCert, key, parsed, by rw [same], rfl⟩
      next => cases made
    · cases made
    · cases made

variable {leaf : LeafSpec}

/-- An issued leaf is signed by the CA, and has its names. -/
theorem leaf_of_holds {stored : Option (Secret β)}
    (made : generateLeaf pem (replies.freshLeaf leaf.secretName) leaf.dnsNames ca = .ok material)
    (holds : Holds material stored) :
    ∃ secret caCert key, stored = some secret ∧ pem.parseCert ca.certPEM = some caCert ∧
      pem.parseCert secret.tlsCrt = some (leafTemplate key caCert.publicKey leaf.dnsNames) ∧
      pem.parseKey secret.tlsKey = some key := by
  obtain ⟨caCert, key, parsed, cert, marshalled⟩ := generateLeaf_ok made
  obtain ⟨secret, stored, rfl⟩ := holds
  refine ⟨secret, caCert, key, stored, parsed, ?_, ?_⟩
  · rw [show secret.tlsCrt = _ from cert, pem.parse_encode]
  · rw [show secret.tlsKey = _ from marshalled]
    exact pem.parse_rsa _ _ (pem.parse_marshal key)

omit [DecidableEq κ] in
theorem current_of_kept {reissue : Secret β → Certificate κ → Bool} {stored : Option (Secret β)}
    (current : ¬ needsIssue pem reissue stored = true) :
    ∃ secret cert, stored = some secret ∧ pem.parseCert secret.tlsCrt = some cert ∧
      reissue secret cert = false := by
  unfold needsIssue at current
  split at current
  · exact absurd rfl current
  next secret =>
    split at current
    · exact absurd rfl current
    next cert parsed => exact ⟨secret, cert, rfl, parsed, Bool.eq_false_iff.mpr current⟩

theorem PassKept.readable (kept : PassKept pem replies authority before after) :
    ∃ caCert, storedCert pem after caSecretName = some caCert ∧
      (caCert.mayCertify = true ↔ Certifies pem replies before) := by
  have root := kept.ca
  unfold Kept at root
  split at root
  next needed =>
    obtain ⟨material, made, secret, stored, rfl⟩ := root
    unfold generateCA at made
    split at made
    · cases made
    next key _ =>
      have cert : pem.encodeCert (caTemplate key) = secret.tlsCrt := by
        injection made with same
        exact congrArg CertMaterial.certPEM same
      exact ⟨caTemplate key, by simp [storedCert, stored, ← cert, pem.parse_encode],
        fun _ => .inl needed, fun _ => rfl⟩
  next current =>
    obtain ⟨secret, cert, stored, parsed, -⟩ := current_of_kept current
    refine ⟨cert, by simp [storedCert, root, stored, parsed], ?_⟩
    rw [Certifies, or_iff_right current]
    simp [storedCert, stored, parsed]

/-- A leaf is issued under the stored CA, or it was found to be signed by it. -/
theorem PassKept.signed (kept : PassKept pem replies authority before after)
    (listed : leaf ∈ authority.leaves) : signed pem after leaf = true := by
  obtain ⟨caCert, readable, -⟩ := kept.readable
  obtain ⟨ca, stored, leaves⟩ := kept.leaves
  have root : pem.parseCert (materialFromSecret ca).certPEM = some caCert := by
    simpa [storedCert, stored, materialFromSecret] using readable
  have under := leaves leaf listed
  unfold LeafKept Kept at under
  split at under
  next =>
    obtain ⟨material, made, holds⟩ := under
    obtain ⟨secret, parent, key, here, parsed, cert, -⟩ := leaf_of_holds made holds
    obtain rfl : caCert = parent := Option.some.inj (root.symm.trans parsed)
    have leafCert : storedCert pem after leaf.secretName =
        some (leafTemplate key caCert.publicKey leaf.dnsNames) := by
      simp [storedCert, here, cert]
    simp [Dynauth.signed, leafCert, readable, leafTemplate]
  next current =>
    obtain ⟨secret, cert, here, parsed, chained⟩ := current_of_kept current
    have leafCert : storedCert pem after leaf.secretName = some cert := by
      simp [storedCert, under, here, parsed]
    simp only [reissueLeaf, staleChain, root, Bool.or_eq_false_iff, Bool.not_eq_false'] at chained
    have checked := chained.1.1.2
    simp only [Certificate.checkSignatureFrom, Bool.and_eq_true] at checked
    simp only [Dynauth.signed, leafCert, readable]
    exact checked.2

/-- A signed leaf verifies if the CA could sign or is a new one. -/
theorem PassKept.verifies_iff (kept : PassKept pem replies authority before after)
    (listed : leaf ∈ authority.leaves) :
    verifies pem after leaf = true ↔ Certifies pem replies before := by
  obtain ⟨caCert, readable, may⟩ := kept.readable
  have chained := kept.signed listed
  unfold Dynauth.signed at chained
  unfold verifies
  split at chained
  next cert ca _ found =>
    obtain rfl : caCert = ca := Option.some.inj (readable.symm.trans found)
    simp only [Certificate.checkSignatureFrom, chained, Bool.and_true, ← may]
  next => cases chained

/-- Leaves are signed by the stored CA, and verify exactly if that was issued or may sign. -/
theorem serving_chain_iff (pem : Pem κ β) (authority : Authority)
    (acts : List (Act (Replies κ) (Store β → Store β))) (start : Store β) (replies : Replies κ)
    (clean : ((authority.reconcileOnce pem replies).run
      ((authority.system pem).run acts start)).value.errs = []) :
    let before := (authority.system pem).run acts start
    let after := ((authority.reconcileOnce pem replies).run before).final
    (∀ leaf ∈ authority.leaves, signed pem after leaf = true) ∧
      ((∀ leaf ∈ authority.leaves, verifies pem after leaf = true) ↔
        Certifies pem replies before) := by
  intro before after
  have kept : PassKept pem replies authority before after := (reconcileOnce_spec authority).2 clean
  refine ⟨fun leaf listed => kept.signed listed, fun all => ?_, fun root leaf listed => ?_⟩
  · obtain ⟨leaf, listed⟩ := List.exists_mem_of_ne_nil _ authority.nonempty
    exact (kept.verifies_iff listed).mp (all leaf listed)
  · exact (kept.verifies_iff listed).mpr root

/-- In terms of the Secrets before the pass. -/
theorem PassKept.needsIssue_eq (kept : PassKept pem replies authority before after)
    {ca : Secret β} (stored : after caSecretName = some ca) (leaf : LeafSpec) :
    needsIssue pem (reissueLeaf pem replies leaf (materialFromSecret ca)
      (needsIssue pem (reissueCA replies) (before caSecretName))) (before leaf.secretName) =
        reissues pem replies before leaf := by
  have root := kept.ca
  unfold Kept at root
  split at root
  next needed =>
    have always : reissues pem replies before leaf = true := by
      unfold reissues
      split
      · rfl
      next found => rw [← found, needed, Bool.true_or]
    rw [always, needed]
    unfold needsIssue
    split
    · rfl
    · split
      · rfl
      · simp [reissueLeaf]
  next current =>
    have still : needsIssue pem (reissueCA replies) (before caSecretName) = false :=
      Bool.eq_false_iff.mpr current
    rw [stored] at root
    rw [← root] at still ⊢
    simp only [reissues, ← root, still, Bool.false_or]

/-- A reissued leaf can be served, a kept one if it could be before. -/
theorem PassKept.servable_iff (kept : PassKept pem replies authority before after)
    (listed : leaf ∈ authority.leaves) :
    servable pem after leaf = true ↔
      reissues pem replies before leaf = true ∨ servable pem before leaf = true := by
  obtain ⟨ca, stored, leaves⟩ := kept.leaves
  have under := leaves leaf listed
  unfold LeafKept Kept at under
  rw [kept.needsIssue_eq stored leaf] at under
  split at under
  next needed =>
    obtain ⟨material, made, holds⟩ := under
    obtain ⟨secret, parent, key, here, -, cert, private_key⟩ := leaf_of_holds made holds
    simp [needed, servable, here, cert, private_key, leafTemplate]
  next current =>
    simp [current, servable, under]

/-- Every leaf can be served exactly if those not reissued could be before. -/
theorem serving_leaves_iff (pem : Pem κ β) (authority : Authority) (before : Store β)
    (replies : Replies κ)
    (clean : ((authority.reconcileOnce pem replies).run before).value.errs = []) :
    (∀ leaf ∈ authority.leaves,
        servable pem ((authority.reconcileOnce pem replies).run before).final leaf = true) ↔
      ∀ leaf ∈ authority.leaves,
        reissues pem replies before leaf = true ∨ servable pem before leaf = true := by
  have kept := (reconcileOnce_spec authority).2 clean
  exact forall₂_congr fun leaf listed => kept.servable_iff listed

end Results

/-- What a Secret may hold, with keys as numbers. -/
inductive Content
  | other
  | certificate (cert : Certificate Nat)
  | privateKey (key : Nat)
  deriving DecidableEq

/-- Certificates and keys that are stored as they are. -/
def plainPem : Pem Nat Content where
  parseCert
    | .certificate cert => some cert
    | _ => none
  parseKey
    | .privateKey key => some key
    | _ => none
  parseRSAKeyPEM
    | .privateKey key => some key
    | _ => none
  encodeCert := .certificate
  marshalRSAKeyPEM := .privateKey
  parse_encode := fun _ => rfl
  parse_marshal := fun _ => rfl
  parse_rsa := fun _ _ parsed => parsed

def webhookLeaf : LeafSpec where
  secretName := "velkir-webhook-cert"
  dnsNames := ["velkir.system.svc"]
  certRole := "webhook-leaf"
  expiryGaugeLabel := "webhook-leaf"

def webhookAuthority : Authority where
  leaves := [webhookLeaf]
  nonempty := by simp
  distinct := by simp
  apart := by decide

/-- Every request is answered and nothing is due; fresh keys are 8 and 9. -/
def quietReplies : Replies Nat where
  getCA := true
  loadCA := true
  writeCA := .done
  freshCA := some 8
  dueCA := fun _ => false
  getLeaf := fun _ => true
  writeLeaf := fun _ => .done
  freshLeaf := fun _ => some 9
  dueLeaf := fun _ _ => false

def storeOf (ca : Certificate Nat) (key : Nat) (leaf : Option (Secret Content)) : Store Content :=
  fun name =>
    if name = caSecretName then
      some
        { tlsCrt := .certificate ca
          tlsKey := .privateKey key
          caCrt := .certificate ca
          certRole := "ca"
          forceRotate := false }
    else if name = webhookLeaf.secretName then leaf
    else none

/-- The pass from these Secrets. -/
def quietPass (store : Store Content) : Outcome (Store Content) (PassResult Nat) :=
  (webhookAuthority.reconcileOnce plainPem quietReplies).run store

/-- Somebody put a serving certificate with its key into the CA Secret. -/
def servingRoot : Certificate Nat where
  publicKey := 7
  signedBy := some 3
  mayCertify := false
  dnsNames := ["elsewhere.svc"]

theorem serving_chain_not_ca :
    (quietPass (storeOf servingRoot 7 none)).value.errs = [] ∧
      storedCert plainPem (quietPass (storeOf servingRoot 7 none)).final caSecretName =
        some servingRoot ∧
      verifies plainPem (quietPass (storeOf servingRoot 7 none)).final webhookLeaf = false := by
  decide

theorem serving_chain_fresh :
    (quietPass (storeOf (caTemplate 7) 7 none)).value.errs = [] ∧
      verifies plainPem (quietPass (storeOf (caTemplate 7) 7 none)).final webhookLeaf = true := by
  have clean : (quietPass (storeOf (caTemplate 7) 7 none)).value.errs = [] := by decide
  refine ⟨clean, ?_⟩
  have chain := serving_chain_iff plainPem webhookAuthority [] (storeOf (caTemplate 7) 7 none)
    quietReplies clean
  exact chain.2.mpr (.inr ⟨caTemplate 7, rfl, rfl⟩) webhookLeaf (by simp [webhookAuthority])

/-- A leaf of the CA without its key and for another namespace. -/
def strayLeaf : Secret Content where
  tlsCrt := .certificate (leafTemplate 5 7 ["velkir.other.svc"])
  tlsKey := .other
  caCrt := .certificate (caTemplate 7)
  certRole := "webhook-leaf"
  forceRotate := false

/-- The pass finds nothing to do. -/
theorem serving_leaves_stray :
    (quietPass (storeOf (caTemplate 7) 7 (some strayLeaf))).value.errs = [] ∧
      (quietPass (storeOf (caTemplate 7) 7 (some strayLeaf))).value.reissued = [] ∧
      verifies plainPem (quietPass (storeOf (caTemplate 7) 7 (some strayLeaf))).final
        webhookLeaf = true ∧
      servable plainPem (quietPass (storeOf (caTemplate 7) 7 (some strayLeaf))).final
        webhookLeaf = false := by
  decide

theorem serving_leaves_fresh :
    (quietPass (storeOf (caTemplate 7) 7 none)).value.errs = [] ∧
      servable plainPem (quietPass (storeOf (caTemplate 7) 7 none)).final webhookLeaf = true := by
  have clean : (quietPass (storeOf (caTemplate 7) 7 none)).value.errs = [] := by decide
  refine ⟨clean, ?_⟩
  refine (serving_leaves_iff plainPem webhookAuthority (storeOf (caTemplate 7) 7 none)
    quietReplies clean).mpr ?_ webhookLeaf (by simp [webhookAuthority])
  intro leaf listed
  rw [List.mem_singleton.mp listed]
  exact .inl (by decide)

end Velkir.Dynauth
