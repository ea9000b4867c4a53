import Mathlib.Data.List.Forall2
import Velkir.Machine
import Velkir.ServerSideApply

/-!
# The CA bundle of the webhooks

The injector of an install writes its CA into the webhook entries of its namespace. All installs
apply under one owner.
-/

namespace Velkir.CABundle

open ServerSideApply

/-- The two kinds of webhook configurations. -/
inductive Kind
  | mutating
  | validating
  deriving DecidableEq

/-- The fields of a webhook entry. -/
inductive Field
  /-- Absent for an entry with a URL. -/
  | serviceNamespace
  | caBundle
  | other (path : String)
  deriving DecidableEq

/-- The value of a field. -/
inductive Value
  | text (value : String)
  | bytes (value : List UInt8)
  deriving DecidableEq

/-- A field owner. -/
abbrev Owner := String

def caBundleFieldOwner : Owner := "velkir-ca-injector"

/-- A configuration of either kind; an entry's name is the key of its fields. -/
structure WebhookConfiguration where
  kind : Kind
  name : String
  /-- The label that asks for the certificate. -/
  injectCA : Bool
  webhooks : List String
  fields : Object Owner (String × Field) Value

namespace WebhookConfiguration

variable (config : WebhookConfiguration) (install : String)

/-- The entry has a service in the namespace of the install. -/
def ownsClientConfig (webhook : String) : Bool :=
  config.fields.value (webhook, .serviceNamespace) = some (.text install)

/-- The certificate of an entry. -/
def caBundle (webhook : String) : List UInt8 :=
  match config.fields.value (webhook, .caBundle) with
  | some (.bytes bundle) => bundle
  | _ => []

/-- The entries of this install. -/
def owned : List String := config.webhooks.filter (config.ownsClientConfig install)

end WebhookConfiguration

/-- Some entry has another certificate. -/
def needsPatch (current : List (List UInt8)) (want : List UInt8) : Bool :=
  current = [] || current.any (· ≠ want)

/-- The certificate for the listed entries, and nothing else. -/
def bundles (webhooks : List String) (caBundle : List UInt8) :
    Configuration (String × Field) Value :=
  fun key => if key.2 = .caBundle ∧ webhooks.contains key.1 then some (.bytes caBundle) else none

/-- What a pass of the injector fails with. -/
inductive InjectorError
  | getCASecret
  | list (kind : Kind)
  | apply (kind : Kind) (name : String)
  deriving DecidableEq

/-- One kind of configurations, in list order, up to the first failed request. -/
def patch (kind : Kind) (install : String) (caBundle : List UInt8)
    (applyFails : Kind → String → Bool) :
    List WebhookConfiguration → Option InjectorError × List WebhookConfiguration
  | [] => (none, [])
  | config :: configs =>
      let rest := patch kind install caBundle applyFails configs
      if config.kind ≠ kind ∨ !config.injectCA then (rest.1, config :: rest.2)
      else
        let owned := config.owned install
        if owned = [] then (rest.1, config :: rest.2)
        else if !needsPatch (owned.map config.caBundle) caBundle then (rest.1, config :: rest.2)
        else if applyFails kind config.name then (some (.apply kind config.name), config :: configs)
        else
          let fields := config.fields.apply caBundleFieldOwner (bundles owned caBundle)
          (rest.1, { config with fields } :: rest.2)

def patchMutating := patch .mutating

def patchValidating := patch .validating

/-- How the CA Secret is read. -/
inductive SecretRead
  | notFound
  | failed
  | found (tlsCrt : Option (List UInt8))
  deriving DecidableEq

/-- A pass of the injector of an install, and how its requests are answered. -/
structure Pass where
  install : String
  secret : SecretRead
  listFails : Kind → Bool
  applyFails : Kind → String → Bool

/-- Inject the certificate into both kinds. -/
def reconcile (pass : Pass) (configs : List WebhookConfiguration) :
    Option InjectorError × List WebhookConfiguration :=
  match pass.secret with
  | .notFound => (none, configs)
  | .failed => (some .getCASecret, configs)
  | .found tlsCrt =>
      let caBundle := tlsCrt.getD []
      -- The Secret has no payload yet.
      if caBundle = [] then (none, configs)
      else if pass.listFails .mutating then (some (.list .mutating), configs)
      else
        match patchMutating pass.install caBundle pass.applyFails configs with
        | (some error, configs) => (some error, configs)
        | (none, configs) =>
            if pass.listFails .validating then (some (.list .validating), configs)
            else patchValidating pass.install caBundle pass.applyFails configs

/-- Passes by any installs in any order. -/
def run (passes : List Pass) (configs : List WebhookConfiguration) : List WebhookConfiguration :=
  Machine.run (fun pass configs => (reconcile pass configs).2) passes configs

/-- The certificate that a pass reads. -/
def Pass.certificate (pass : Pass) : Option (List UInt8) :=
  match pass.secret with
  | .found tlsCrt => if tlsCrt.getD [] = [] then none else tlsCrt
  | .notFound | .failed => none

namespace WebhookConfiguration

variable (config : WebhookConfiguration) (install : String) (caBundle : List UInt8)

/-- An entry of the install does not carry the certificate. -/
def Lacks : Prop :=
  config.injectCA = true ∧
    ∃ webhook ∈ config.owned install, config.caBundle webhook ≠ caBundle

instance : Decidable (config.Lacks install caBundle) := inferInstanceAs (Decidable (_ ∧ _))

/-- What a pass that succeeds makes of a configuration. -/
def injected : WebhookConfiguration :=
  if config.Lacks install caBundle then
    { config with
      fields := config.fields.apply caBundleFieldOwner (bundles (config.owned install) caBundle) }
  else config

variable {config install caBundle}

variable {webhook : String}

private theorem mem_owned :
    webhook ∈ config.owned install ↔
      webhook ∈ config.webhooks ∧ config.ownsClientConfig install webhook = true :=
  List.mem_filter

private theorem lacks_iff (labelled : config.injectCA = true) :
    config.Lacks install caBundle ↔
      config.owned install ≠ [] ∧
        needsPatch ((config.owned install).map config.caBundle) caBundle = true := by
  constructor
  · rintro ⟨-, webhook, mem, differ⟩
    refine ⟨List.ne_nil_of_mem mem, ?_⟩
    rw [needsPatch, Bool.or_eq_true, List.any_eq_true]
    exact .inr ⟨_, List.mem_map_of_mem mem, decide_eq_true differ⟩
  · rintro ⟨some, needs⟩
    rw [needsPatch, Bool.or_eq_true, List.any_eq_true] at needs
    rcases needs with none | ⟨bundle, mem, differ⟩
    · exact absurd (List.map_eq_nil_iff.mp (of_decide_eq_true none)) some
    · obtain ⟨webhook, listed, rfl⟩ := List.mem_map.mp mem
      exact ⟨labelled, webhook, listed, of_decide_eq_true differ⟩

/-- Every entry of the install gets the certificate, or has it already. -/
theorem value_injected_owned (labelled : config.injectCA = true) (payload : caBundle ≠ [])
    (mem : webhook ∈ config.owned install) :
    (config.injected install caBundle).fields.value (webhook, .caBundle) =
      some (.bytes caBundle) := by
  unfold injected
  split_ifs with lacks
  · exact value_apply_listed (by simp [bundles, mem])
  · have same : config.caBundle webhook = caBundle := by
      by_contra differ
      exact lacks ⟨labelled, webhook, mem, differ⟩
    unfold WebhookConfiguration.caBundle at same
    split at same
    next bundle found => rw [found, same]
    next => exact absurd same.symm payload

/-- Other entries keep a field unless it is dropped from what the owner applied. -/
theorem value_injected_foreign (foreign : webhook ∉ config.owned install) (field : Field) :
    (config.injected install caBundle).fields.value (webhook, field) =
        config.fields.value (webhook, field) ↔
      (config.Lacks install caBundle →
        config.fields.applied caBundleFieldOwner (webhook, field) = true →
        config.fields.value (webhook, field) = none) := by
  unfold injected
  split_ifs with lacks
  · rw [value_apply_eq_iff (by simp [bundles, foreign])]
    exact ⟨fun keeps _ => keeps, fun keeps => keeps lacks⟩
  · simp [lacks]

end WebhookConfiguration

variable {pass : Pass}

section Pass

variable {kind : Kind} {install : String} {caBundle : List UInt8}
  {applyFails : Kind → String → Bool} {configs : List WebhookConfiguration}

private theorem patch_of_ok (ok : (patch kind install caBundle applyFails configs).1 = none) :
    (patch kind install caBundle applyFails configs).2 =
      configs.map fun config =>
        if config.kind = kind then config.injected install caBundle else config := by
  induction configs with
  | nil => rfl
  | cons config configs ih =>
      unfold patch at ok ⊢
      dsimp only at ok ⊢
      split_ifs at ok ⊢ with skipped none fresh fails
      · have same : (if config.kind = kind then config.injected install caBundle else config) =
            config := by
          rcases skipped with other | unlabelled
          · exact if_neg other
          · have unlacking : ¬config.Lacks install caBundle := fun lacks => by
              simp [lacks.1] at unlabelled
            simp [WebhookConfiguration.injected, unlacking]
        rw [ih ok, List.map_cons, same]
      · obtain ⟨rfl, labelled⟩ : config.kind = kind ∧ config.injectCA = true := by
          simpa using skipped
        have unlacking : ¬config.Lacks install caBundle := fun lacks =>
          ((WebhookConfiguration.lacks_iff labelled).mp lacks).1 none
        rw [ih ok, List.map_cons, if_pos rfl, WebhookConfiguration.injected, if_neg unlacking]
      · obtain ⟨rfl, labelled⟩ : config.kind = kind ∧ config.injectCA = true := by
          simpa using skipped
        have unlacking : ¬config.Lacks install caBundle := fun lacks => by
          simp [((WebhookConfiguration.lacks_iff labelled).mp lacks).2] at fresh
        rw [ih ok, List.map_cons, if_pos rfl, WebhookConfiguration.injected, if_neg unlacking]
      · obtain ⟨rfl, labelled⟩ : config.kind = kind ∧ config.injectCA = true := by
          simpa using skipped
        have lacks : config.Lacks install caBundle :=
          (WebhookConfiguration.lacks_iff labelled).mpr ⟨none, by simpa using fresh⟩
        rw [ih ok, List.map_cons, if_pos rfl, WebhookConfiguration.injected, if_pos lacks]

private theorem injected_kind (config : WebhookConfiguration) :
    (config.injected install caBundle).kind = config.kind := by
  unfold WebhookConfiguration.injected
  split_ifs
  · rfl
  · rfl

private theorem patch_both_of_ok {middle : List WebhookConfiguration}
    (mutating : patch .mutating install caBundle applyFails configs = (none, middle))
    (ok : (patch .validating install caBundle applyFails middle).1 = none) :
    (patch .validating install caBundle applyFails middle).2 =
      configs.map (·.injected install caBundle) := by
  have first := patch_of_ok (congrArg Prod.fst mutating)
  rw [mutating] at first
  dsimp only at first
  rw [patch_of_ok ok, first, List.map_map]
  refine List.map_congr_left fun config _ => ?_
  -- A configuration is of one kind, before and after.
  cases kind : config.kind with
  | mutating => simp [kind, injected_kind]
  | validating => simp [kind]

/-- A pass without errors that reads a certificate treats all configurations. -/
theorem reconcile_of_ok (ok : (reconcile pass configs).1 = none) :
    (reconcile pass configs).2 =
      match pass.certificate with
      | none => configs
      | some caBundle => configs.map (·.injected pass.install caBundle) := by
  unfold reconcile at ok ⊢
  unfold Pass.certificate
  cases secret : pass.secret with
  | notFound => rfl
  | failed => simp [secret] at ok
  | found tlsCrt =>
      rw [secret] at ok
      dsimp only at ok ⊢
      by_cases empty : tlsCrt.getD [] = []
      · rw [if_pos empty, if_pos empty]
      · obtain ⟨caBundle, rfl⟩ : ∃ caBundle, tlsCrt = some caBundle := by
          cases tlsCrt with
          | none => exact absurd rfl empty
          | some caBundle => exact ⟨caBundle, rfl⟩
        rw [if_neg empty, Option.getD_some] at ok
        rw [if_neg empty, if_neg empty, Option.getD_some]
        by_cases unlisted : pass.listFails .mutating = true
        · simp [unlisted] at ok
        rw [if_neg unlisted] at ok ⊢
        cases mutating : patchMutating pass.install caBundle pass.applyFails configs with
        | mk error middle =>
            rw [mutating] at ok
            cases error with
            | some error => cases ok
            | none =>
                dsimp only at ok ⊢
                split_ifs at ok ⊢
                exact patch_both_of_ok mutating ok

end Pass

/-- What a pass makes of one configuration. -/
structure Injected (pass : Pass) (before after : WebhookConfiguration) : Prop where
  /-- Every entry of the install carries the certificate that was read. -/
  carried : ∀ caBundle, pass.certificate = some caBundle → before.injectCA = true →
    ∀ webhook ∈ before.webhooks, before.ownsClientConfig pass.install webhook = true →
      after.fields.value (webhook, .caBundle) = some (.bytes caBundle)
  /-- No field of another entry changes. -/
  kept : ∀ webhook ∈ before.webhooks, before.ownsClientConfig pass.install webhook = false →
    ∀ field, after.fields.value (webhook, field) = before.fields.value (webhook, field)

/-- If an entry lacks the certificate, no injector has reached another one. -/
def Unshared (pass : Pass) (config : WebhookConfiguration) : Prop :=
  ∀ caBundle, pass.certificate = some caBundle → config.Lacks pass.install caBundle →
    ∀ webhook ∈ config.webhooks, config.ownsClientConfig pass.install webhook = false →
      ∀ field, config.fields.applied caBundleFieldOwner (webhook, field) = true →
        config.fields.value (webhook, field) = none

variable {caBundle : List UInt8}

private theorem certificate_ne_nil (read : pass.certificate = some caBundle) : caBundle ≠ [] := by
  unfold Pass.certificate at read
  split at read
  next tlsCrt _ =>
    split_ifs at read with empty
    rintro rfl
    simp [read] at empty
  all_goals cases read

private theorem injected_iff {config : WebhookConfiguration}
    (read : pass.certificate = some caBundle) :
    Injected pass config (config.injected pass.install caBundle) ↔ Unshared pass config := by
  have foreign {webhook : String} (other : config.ownsClientConfig pass.install webhook = false) :
      webhook ∉ config.owned pass.install := fun mem => by
    simp [(WebhookConfiguration.mem_owned.mp mem).2] at other
  constructor
  · intro injected _ same lacks webhook mem other field
    obtain rfl := Option.some_inj.mp (read.symm.trans same)
    exact (WebhookConfiguration.value_injected_foreign (foreign other) field).mp
      (injected.kept webhook mem other field) lacks
  · intro unshared
    refine ⟨fun _ same labelled webhook mem owns => ?_, fun webhook mem other field => ?_⟩
    · obtain rfl := Option.some_inj.mp (read.symm.trans same)
      exact WebhookConfiguration.value_injected_owned labelled (certificate_ne_nil read)
        (WebhookConfiguration.mem_owned.mpr ⟨mem, owns⟩)
    · exact (WebhookConfiguration.value_injected_foreign (foreign other) field).mpr fun lacks =>
        unshared caBundle read lacks webhook mem other field

/-- Entries of other installs are left alone exactly if none that an injector reached is patched. -/
theorem reconcile_injected_iff (start : List WebhookConfiguration) (passes : List Pass)
    {pass : Pass} (ok : (reconcile pass (run passes start)).1 = none) :
    List.Forall₂ (Injected pass) (run passes start) (reconcile pass (run passes start)).2 ↔
      ∀ config ∈ run passes start, Unshared pass config := by
  rw [reconcile_of_ok ok]
  cases read : pass.certificate with
  | none =>
      dsimp only
      rw [List.forall₂_same]
      refine iff_of_true (fun config _ => ⟨fun _ same => ?_, fun _ _ _ _ => rfl⟩)
        fun config _ _ same => ?_
      · cases read.symm.trans same
      · cases read.symm.trans same
  | some caBundle =>
      dsimp only
      rw [List.forall₂_map_right_iff, List.forall₂_same]
      exact forall₂_congr fun config _ => injected_iff read

/-- One configuration with an entry of either install. -/
def mixed : WebhookConfiguration where
  kind := .mutating
  name := "velkir"
  injectCA := true
  webhooks := ["first", "second"]
  fields :=
    { value := fun key =>
        if key = ("first", .serviceNamespace) then some (.text "one")
        else if key = ("second", .serviceNamespace) then some (.text "two")
        else none
      applied := fun _ _ => false }

/-- A pass that reads this certificate. -/
def passOf (install : String) (caBundle : List UInt8) : Pass where
  install := install
  secret := .found (some caBundle)
  listFails _ := false
  applyFails _ _ := false

/-- The pass of the second install removes the certificate of the first. -/
theorem reconcile_removes :
    let before := run [passOf "one" [1]] [mixed]
    let after := reconcile (passOf "two" [2]) before
    after.1 = none ∧
      before.map (·.fields.value ("first", .caBundle)) = [some (.bytes [1])] ∧
      after.2.map (·.fields.value ("first", .caBundle)) = [none] ∧
      ¬List.Forall₂ (Injected (passOf "two" [2])) before after.2 := by
  refine ⟨by decide, by decide, by decide, fun injected => ?_⟩
  cases injected with
  | cons head _ =>
      have kept := head.kept "first" (by decide) (by decide) .caBundle
      revert kept
      decide

/-- Before any other pass, the first install reaches its entry and no other. -/
theorem reconcile_injected_first :
    (reconcile (passOf "one" [1]) (run [] [mixed])).1 = none ∧
      List.Forall₂ (Injected (passOf "one" [1])) (run [] [mixed])
        (reconcile (passOf "one" [1]) (run [] [mixed])).2 := by
  have ok : (reconcile (passOf "one" [1]) (run [] [mixed])).1 = none := by decide
  refine ⟨ok, (reconcile_injected_iff [mixed] [] ok).mpr fun config mem => ?_⟩
  obtain rfl := List.mem_singleton.mp mem
  intro _ _ _ webhook _ _ field applied
  cases applied

end Velkir.CABundle
