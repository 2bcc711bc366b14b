import PhiOS.Model.ReflexAuthority

/-!
# The trust lifecycle plane

`ReflexTrustLifecyclePlane` (lifecycle.py:235): signed transitions that rotate or disable a key,
use policies, provider manifests, lease renewals and checkpoints on top of the authority plane. A
key is live while no transition that names exactly its two identifiers is effective; an effective
rotation installs the anchor that it carries.
-/

set_option autoImplicit false

namespace PhiOS

open Interaction Reflex

/-- What `status` of the lifecycle plane returns. -/
structure ReflexLifecycleStatus where
  enforcement : Option ReflexDeactivation
  authority : ReflexAuthorityStatus
  transitions : List ReflexTrustTransition
  checkpoints : List ReflexLedgerCheckpoint
  usePolicies : List ReflexGrantUsePolicy
  usage : List ReflexGrantUsage
  manifests : List ReflexProviderManifest
  renewals : List ReflexLeaseRenewal

/-- `_receipt` of the lifecycle plane. -/
def lifecycleReceipt (rt : ReflexRuntime) (status reason : String) (epoch : ℕ)
    (issuerId keyId : Option String) (relatedSha : String) : Row :=
  let payload : Row :=
    [("schema", .str "phios.reflex_lifecycle_receipt.v0.9"), ("status", .str status),
      ("reason", .str reason), ("evaluation_epoch", .int epoch),
      ("issuer_id", Json.optStr issuerId), ("key_id", Json.optStr keyId),
      ("related_sha256", .str relatedSha), ("routing_influence_authority", .bool false),
      ("action_authority", .bool false), ("execution_authority", .bool false)]
  payload ++ [("receipt_sha256", .str (rt.sha256 (.obj payload)))]

namespace ReflexTrustLifecyclePlane

open ReflexAuthorityPlane

/-- `_idempotent_write`; `digestOf` reads the field `envelope_sha256` of a record on file. -/
def idempotentWrite (d : ReflexDir) (name : String) (item : d.Item) (digestOf : d.Item → String) :
    ReflexProg Unit := do
  match ← ReflexProg.load d (name ++ ".json") with
  | some existing => .ofExcept (raiseIf (digestOf existing ≠ digestOf item)
      (reflexLifecycleErr (name ++ " already exists with different authenticated contents")))
  | none => ReflexProg.store d (name ++ ".json") item

/-! ## Transitions -/

def listTransitions (rt : ReflexRuntime) : ReflexProg (List ReflexTrustTransition) :=
  readTyped .transitions (validateTrustTransitionShape rt)

def verifyTransitionSignature (rt : ReflexRuntime) (transition : ReflexTrustTransition) :
    ReflexProg Unit := do
  let _ ← verifySignedPayload rt transition.issuerId transition.keyId
    AuthorityPurpose.trustTransition.value transition.signingPayload transition.signatureB64

/-- The end of the loop body of `_materialize_effective_rotations`: install the replacement, or
find it installed. -/
def installReplacement (rt : ReflexRuntime) (replacement : ReflexAuthorityTrustAnchor) (epoch : ℕ) :
    ReflexProg Unit :=
  onAuthorityError (requireAnchor rt replacement.issuerId replacement.keyId)
    (fun _ => do
      let _ ← ingestTrustAnchor rt replacement.toDict epoch none)
    fun existing =>
      .ofExcept (raiseIf (existing.anchorSha256 ≠ replacement.anchorSha256)
        (reflexLifecycleErr "materialized replacement trust anchor conflicts"))

/-- The loop body of `_materialize_effective_rotations`. -/
def materializeTransition (rt : ReflexRuntime) (epoch : ℕ) (transition : ReflexTrustTransition) :
    ReflexProg Unit :=
  if epoch < transition.effectiveEpoch then return ()
  else do
    verifyTransitionSignature rt transition
    match transition.replacementAnchor with
    | some replacement =>
        if transition.action = "ROTATE" then installReplacement rt replacement epoch
        else return ()
    | none => return ()

/-- The loop of `_materialize_effective_rotations`. -/
def materializeAll (rt : ReflexRuntime) (epoch : ℕ) :
    List ReflexTrustTransition → ReflexProg Unit
  | [] => return ()
  | transition :: rest => do
      materializeTransition rt epoch transition
      materializeAll rt epoch rest

def materializeEffectiveRotations (rt : ReflexRuntime) (epoch : ℕ) : ReflexProg Unit := do
  let transitions ← listTransitions rt
  materializeAll rt epoch transitions

/-- A transition that retires exactly the key of these two identifiers. -/
def retires (issuerId keyId : String) (epoch : ℕ) (transition : ReflexTrustTransition) : Bool :=
  transition.issuerId = issuerId ∧ transition.keyId = keyId ∧ transition.effectiveEpoch ≤ epoch

def keyIsLive (rt : ReflexRuntime) (issuerId keyId : String) (epoch : ℕ) : ReflexProg Bool :=
  onAuthorityError (requireAnchor rt issuerId keyId)
    (fun _ => return false)
    fun _ => do
      let transitions ← listTransitions rt
      match transitions.find? (retires issuerId keyId epoch) with
      | some transition => do
          verifyTransitionSignature rt transition
          return false
      | none => return true

def requireLiveSigner (rt : ReflexRuntime) (issuerId keyId : String) (epoch : ℕ) :
    ReflexProg Unit := do
  if ← keyIsLive rt issuerId keyId epoch then return ()
  else .raise (reflexLifecycleErr "authority signer key is retired, disabled, or untrusted")

/-- `_require_live_signer` and `verify_signed_payload`, which the calls make in this order. -/
def requireSignedBy (rt : ReflexRuntime) (issuerId keyId : String) (purpose : AuthorityPurpose)
    (payload : Row) (signatureB64 : String) (epoch : ℕ) : ReflexProg Unit := do
  requireLiveSigner rt issuerId keyId epoch
  let _ ← verifySignedPayload rt issuerId keyId purpose.value payload signatureB64

/-! ## What an activation must come with -/

def requireGrant (rt : ReflexRuntime) (grantSha256 : String) :
    ReflexProg SignedActivationGrantEnvelope := do
  match ← findSignedGrantBySha256 rt grantSha256 with
  | some envelope => return envelope
  | none => .raise (reflexLifecycleErr "authenticated grant envelope not found")

def requireGrantById (rt : ReflexRuntime) (grantId : String) :
    ReflexProg SignedActivationGrantEnvelope := do
  match ← findSignedGrantById rt grantId with
  | some envelope => return envelope
  | none => .raise (reflexLifecycleErr "authenticated grant_id not found")

def requireSameIssuer (envelope : SignedActivationGrantEnvelope) (issuerId : String) :
    Except PyError Unit :=
  raiseIf (envelope.issuerId ≠ issuerId)
    (reflexLifecycleErr "signed policy issuer does not match activation-grant issuer")

/-- The tests of `_require_provider_manifest` that come before the signer's. -/
def manifestCovers (envelope : SignedActivationGrantEnvelope) (provider : String)
    (models : List String) (adapterId adapterVersion : String) (epoch : ℕ)
    (manifest : ReflexProviderManifest) : Bool :=
  manifest.issuerId = envelope.issuerId ∧ manifest.provider = provider ∧
    (∀ model ∈ models, model ∈ manifest.models) ∧
    (manifest.adapterId = adapterId ∧ manifest.adapterVersion = adapterVersion) ∧
    manifest.effectiveEpoch ≤ epoch ∧ ¬ manifest.validUntilEpoch.any (· ≤ epoch)

/-- The loop of `_require_provider_manifest`. -/
def firstLiveManifest (rt : ReflexRuntime) (epoch : ℕ) (covers : ReflexProviderManifest → Bool) :
    List ReflexProviderManifest → ReflexProg ReflexProviderManifest
  | [] => .raise (reflexLifecycleErr
      "no effective authenticated provider manifest matches runtime adapter")
  | manifest :: rest =>
      if covers manifest then do
        if ← keyIsLive rt manifest.issuerId manifest.keyId epoch then do
          let _ ← verifySignedPayload rt manifest.issuerId manifest.keyId
            AuthorityPurpose.providerManifest.value manifest.signingPayload manifest.signatureB64
          return manifest
        else firstLiveManifest rt epoch covers rest
      else firstLiveManifest rt epoch covers rest

def requireProviderManifest (rt : ReflexRuntime) (envelope : SignedActivationGrantEnvelope)
    (provider : String) (models : List String) (adapterId adapterVersion : String) (epoch : ℕ) :
    ReflexProg ReflexProviderManifest := do
  let manifests ← readTyped .manifests (validateProviderManifestShape rt)
  firstLiveManifest rt epoch
    (manifestCovers envelope provider models adapterId adapterVersion epoch) manifests

def requireUsePolicy (rt : ReflexRuntime) (grantSha256 : String) (epoch : ℕ) :
    ReflexProg ReflexGrantUsePolicy := do
  match ← ReflexProg.load .usePolicies (grantSha256 ++ ".json") with
  | none => .raise (reflexLifecycleErr
      "v0.9 activation requires an authenticated grant-use policy")
  | some policy => do
      .ofExcept do
        validateGrantUsePolicyShape rt policy
        raiseIf (epoch < policy.effectiveEpoch)
          (reflexLifecycleErr "grant-use policy is not effective yet")
      requireSignedBy rt policy.issuerId policy.keyId .grantUsePolicy policy.signingPayload
        policy.signatureB64 epoch
      return policy

/-- The dictionary of the usage of a grant without the hash. -/
def usageBody (usage : ReflexGrantUsage) : Row :=
  [("schema", .str "phios.reflex_grant_usage.v0.9"), ("grant_sha256", .str usage.grantSha256),
    ("activation_count", .int usage.activationCount),
    ("last_evaluation_epoch", .int usage.lastEvaluationEpoch),
    ("last_activation_state_sha256", .str usage.lastActivationStateSha256)]

/-- `_usage`. -/
def usageOf (rt : ReflexRuntime) (grantSha256 : String) : ReflexProg ℕ := do
  match ← ReflexProg.load .usage (grantSha256 ++ ".json") with
  | none => return 0
  | some usage => do
      .ofExcept do
        raiseIf (usage.grantSha256 ≠ grantSha256) (reflexLifecycleErr "grant-usage scope mismatch")
        raiseIf (rt.sha256 (.obj (usageBody usage)) ≠ usage.usageSha256)
          (reflexLifecycleErr "grant-usage hash mismatch")
      return usage.activationCount

def setUsage (rt : ReflexRuntime) (grantSha256 : String) (count epoch : ℕ)
    (activationStateSha256 : String) : ReflexProg Unit := do
  let usage : ReflexGrantUsage := ⟨grantSha256, count, epoch, activationStateSha256, ""⟩
  let digest := rt.sha256 (.obj (usageBody usage))
  ReflexProg.store .usage (grantSha256 ++ ".json") { usage with usageSha256 := digest }
  ReflexRuntimeControlPlane.appendAuditReceipt rt "usage" epoch
    (lifecycleReceipt rt "GRANT_USE_CONSUMED" "successful_authenticated_activation_counted" epoch
      none none digest)

/-! ## Enforcement -/

def collapseIfKeyRetired (rt : ReflexRuntime) (issuerId keyId : String) (epoch : ℕ) :
    ReflexProg Unit := do
  let status ← ReflexAuthorityPlane.status rt epoch
  match activeActivation status.control with
  | none => return ()
  | some activation => do
      let envelope ← requireGrant rt activation.activatedByGrantSha256
      if envelope.issuerId = issuerId ∧ envelope.keyId = keyId then
        let _ ← ReflexAuthorityPlane.deactivate rt "authenticated_signing_key_retired" epoch
      return ()

/-- `try: p except ReflexLifecycleContractError: handler`. -/
def onLifecycleError {α β : Type} (p : ReflexProg α) (handler : ReflexProg β)
    (go : α → ReflexProg β) : ReflexProg β :=
  p.attempt.bind fun
    | .ok a => go a
    | .error e => if e.cls = .reflexLifecycleContractError then handler else .raise e

/-- The end of `_enforce_live_lifecycle`: the manifest of the adapter, where one is named. -/
def enforceManifest (rt : ReflexRuntime) (envelope : SignedActivationGrantEnvelope)
    (activation : ReflexActivationState) (adapter : Option (String × String)) (epoch : ℕ) :
    ReflexProg (Option ReflexDeactivation) :=
  match adapter with
  | none => return none
  | some (adapterId, adapterVersion) =>
      onLifecycleError
        (requireProviderManifest rt envelope activation.provider activation.models adapterId
          adapterVersion epoch)
        (do
          let deactivation ← ReflexAuthorityPlane.deactivate rt
            "authenticated_provider_manifest_missing_or_invalid" epoch
          return some deactivation)
        fun _ => return none

/-- `_enforce_live_lifecycle`; an adapter is given by its identifier and its version. -/
def enforceLiveLifecycle (rt : ReflexRuntime) (epoch : ℕ) (adapter : Option (String × String)) :
    ReflexProg (Option ReflexDeactivation) := do
  materializeEffectiveRotations rt epoch
  let status ← ReflexAuthorityPlane.status rt epoch
  match activeActivation status.control with
  | none => return none
  | some activation => do
      let envelope ← requireGrant rt activation.activatedByGrantSha256
      if ← keyIsLive rt envelope.issuerId envelope.keyId epoch then
        enforceManifest rt envelope activation adapter epoch
      else do
        let deactivation ← ReflexAuthorityPlane.deactivate rt "authenticated_signing_key_retired"
          epoch
        return some deactivation

/-! ## The calls -/

/-- The end of `status`: the records that it reports. -/
def statusRecords (rt : ReflexRuntime) (enforcement : Option ReflexDeactivation)
    (authority : ReflexAuthorityStatus) : ReflexProg ReflexLifecycleStatus := do
  let transitions ← listTransitions rt
  let checkpoints ← readTyped .checkpoints (validateCheckpointShape rt)
  let usePolicies ← readTyped .usePolicies (validateGrantUsePolicyShape rt)
  let usage ← ReflexProg.list .usage
  let manifests ← readTyped .manifests (validateProviderManifestShape rt)
  let renewals ← readTyped .renewals (validateLeaseRenewalShape rt)
  return ⟨enforcement, authority, transitions, checkpoints, usePolicies, usage, manifests, renewals⟩

def status (rt : ReflexRuntime) (epoch : ℕ) (adapter : Option (String × String)) :
    ReflexProg ReflexLifecycleStatus := do
  materializeEffectiveRotations rt epoch
  let first ← ReflexAuthorityPlane.status rt epoch
  match ← enforceLiveLifecycle rt epoch adapter with
  | some enforcement => do
      let again ← ReflexAuthorityPlane.status rt epoch
      statusRecords rt enforcement again
  | none => statusRecords rt none first

def evaluateActive (rt : ReflexRuntime) (input : ReflexInput) (adapterId adapterVersion : String)
    (epoch : ℕ) :
    ReflexProg (Option ReflexRoutingInfluenceSignal ×
      (ReflexDeactivation ⊕ ReflexEvaluationReport)) := do
  match ← enforceLiveLifecycle rt epoch (some (adapterId, adapterVersion)) with
  | some enforcement => return (none, .inl enforcement)
  | none => ReflexAuthorityPlane.evaluateActive rt input epoch

/-- The end of the calls that ingest: the audit receipt. -/
def audited {α : Type} (rt : ReflexRuntime) (kind : String) (epoch : ℕ) (item : α) (receipt : Row) :
    ReflexProg (ReflexIngest α) := do
  ReflexRuntimeControlPlane.appendAuditReceipt rt kind epoch receipt
  return ⟨false, item, receipt⟩

/-- What `ingest_trust_transition` does about a transition that is effective already. -/
def applyTransition (rt : ReflexRuntime) (transition : ReflexTrustTransition) (epoch : ℕ) :
    ReflexProg Unit :=
  if transition.effectiveEpoch ≤ epoch then do
    materializeEffectiveRotations rt epoch
    collapseIfKeyRetired rt transition.issuerId transition.keyId epoch
  else return ()

def ingestTrustTransition (rt : ReflexRuntime) (payload : Row) (epoch : ℕ) :
    ReflexProg (ReflexIngest ReflexTrustTransition) := do
  let transition ← .ofExcept (trustTransitionFromPayload rt payload)
  .ofExcept do
    validateTrustTransitionShape rt transition
    raiseIf (epoch < transition.issuedAtEpoch)
      (reflexLifecycleErr "trust transition cannot be ingested before issued_at_epoch")
  let live ← keyIsLive rt transition.issuerId transition.keyId epoch
  .ofExcept (raiseIf (¬ live)
    (reflexLifecycleErr "trust transition signer is not live at ingestion epoch"))
  verifyTransitionSignature rt transition
  let name ← .ofExcept (lifecycleId transition.transitionId)
  idempotentWrite .transitions name transition ReflexTrustTransition.envelopeSha256
  applyTransition rt transition epoch
  audited rt "lifecycle" epoch transition
    (lifecycleReceipt rt "TRUST_TRANSITION_INGESTED"
      (if transition.effectiveEpoch ≤ epoch then "effective_trust_transition"
        else "future_trust_transition_persisted")
      epoch transition.issuerId transition.keyId transition.envelopeSha256)

/-- The checks of `ingest_grant_use_policy` against the policy on file. -/
def mayReplacePolicy (rt : ReflexRuntime) (existing : Option ReflexGrantUsePolicy)
    (policy : ReflexGrantUsePolicy) : Except PyError Unit :=
  match existing with
  | some existing => do
      validateGrantUsePolicyShape rt existing
      raiseIf (existing.maxActivations < policy.maxActivations)
        (reflexLifecycleErr "grant-use policy may reduce but not increase max_activations")
  | none => return ()

def ingestGrantUsePolicy (rt : ReflexRuntime) (payload : Row) (epoch : ℕ) :
    ReflexProg (ReflexIngest ReflexGrantUsePolicy) := do
  let policy ← .ofExcept (grantUsePolicyFromPayload rt payload)
  .ofExcept (validateGrantUsePolicyShape rt policy)
  let envelope ← requireGrant rt policy.targetGrantSha256
  .ofExcept (requireSameIssuer envelope policy.issuerId)
  requireSignedBy rt policy.issuerId policy.keyId .grantUsePolicy policy.signingPayload
    policy.signatureB64 epoch
  let file := policy.targetGrantSha256 ++ ".json"
  let existing : Option ReflexGrantUsePolicy ← ReflexProg.load .usePolicies file
  .ofExcept (mayReplacePolicy rt existing policy)
  if existing.any (·.envelopeSha256 = policy.envelopeSha256) then
    return ⟨true, existing.getD policy, []⟩
  else do
    ReflexProg.store .usePolicies file policy
    audited rt "usage" epoch policy
      (lifecycleReceipt rt "GRANT_USE_POLICY_INGESTED" "signed_activation_count_limit_persisted"
        epoch policy.issuerId policy.keyId policy.envelopeSha256)

def ingestProviderManifest (rt : ReflexRuntime) (payload : Row) (epoch : ℕ) :
    ReflexProg (ReflexIngest ReflexProviderManifest) := do
  let manifest ← .ofExcept (providerManifestFromPayload rt payload)
  .ofExcept (validateProviderManifestShape rt manifest)
  requireSignedBy rt manifest.issuerId manifest.keyId .providerManifest manifest.signingPayload
    manifest.signatureB64 epoch
  let name ← .ofExcept (lifecycleId manifest.manifestId)
  idempotentWrite .manifests name manifest ReflexProviderManifest.envelopeSha256
  audited rt "manifest" epoch manifest
    (lifecycleReceipt rt "PROVIDER_MANIFEST_INGESTED"
      "authenticated_runtime_adapter_manifest_persisted" epoch manifest.issuerId manifest.keyId
      manifest.envelopeSha256)

def activationSha (result : ReflexActivationResult) : Except PyError String :=
  match result.activation with
  | none => .error (reflexLifecycleErr "activation result omitted state")
  | some activation => do
      validateSha256 .reflexLifecycleContractError activation.stateSha256 "activation state_sha256"
      return activation.stateSha256

/-- `activate_verified`: the result, and how many uses of the grant it leaves used. -/
def activateVerified (rt : ReflexRuntime) (request : ReflexActivationRequest)
    (grantId adapterId adapterVersion : String) (epoch : ℕ) (leaseUntilEpoch : Option ℕ)
    (expectedControlSha256 : Option String) : ReflexProg (ReflexActivationResult × ℕ) := do
  materializeEffectiveRotations rt epoch
  let envelope ← requireGrantById rt grantId
  requireLiveSigner rt envelope.issuerId envelope.keyId epoch
  let _ ← requireProviderManifest rt envelope request.provider request.models adapterId
    adapterVersion epoch
  let grantSha := envelope.grant.grantSha256 rt
  let usePolicy ← requireUsePolicy rt grantSha epoch
  let usage ← usageOf rt grantSha
  .ofExcept (raiseIf (usePolicy.maxActivations ≤ usage)
    (reflexLifecycleErr "authenticated activation grant use limit exhausted"))
  let result ← ReflexAuthorityPlane.activateVerified rt request grantId epoch leaseUntilEpoch
    expectedControlSha256
  if result.ok then do
    let sha ← .ofExcept (activationSha result)
    setUsage rt grantSha (usage + 1) epoch sha
    return (result, usage + 1)
  else return (result, usage)

/-- The scope checks of `renew_lease`. -/
def renewalScope (renewal : ReflexLeaseRenewal) (status : ReflexControlStatus) :
    Except PyError Unit :=
  match status.activation, status.lease with
  | some activation, some lease => do
      raiseIf (activation.stateSha256 ≠ renewal.activationStateSha256)
        (reflexLifecycleErr "lease renewal activation scope mismatch")
      raiseIf (lease.leaseSha256 ≠ renewal.currentLeaseSha256)
        (reflexLifecycleErr "lease renewal current-lease scope mismatch")
      raiseIf (activation.activatedByGrantSha256 ≠ renewal.targetGrantSha256)
        (reflexLifecycleErr "lease renewal grant scope mismatch")
  | _, _ => .error (reflexLifecycleErr
      "lease renewal requires active persisted activation and lease")

def renewLease (rt : ReflexRuntime) (payload : Row) (epoch : ℕ) :
    ReflexProg (ReflexIngest ReflexLeaseRenewal) := do
  let renewal ← .ofExcept (leaseRenewalFromPayload rt payload)
  .ofExcept (validateLeaseRenewalShape rt renewal)
  let envelope ← requireGrant rt renewal.targetGrantSha256
  .ofExcept (requireSameIssuer envelope renewal.issuerId)
  requireSignedBy rt renewal.issuerId renewal.keyId .leaseRenewal renewal.signingPayload
    renewal.signatureB64 epoch
  let status ← ReflexAuthorityPlane.status rt epoch
  .ofExcept (renewalScope renewal status.control)
  let name ← .ofExcept (lifecycleId renewal.renewalId)
  idempotentWrite .renewals name renewal ReflexLeaseRenewal.envelopeSha256
  let _ ← ReflexRuntimeControlPlane.renewLeaseAuthorized rt renewal.newValidThroughEpoch epoch
    renewal.envelopeSha256
  audited rt "lease" epoch renewal
    (lifecycleReceipt rt "LEASE_RENEWAL_APPLIED" "authenticated_grant_bound_lease_extension" epoch
      renewal.issuerId renewal.keyId renewal.envelopeSha256)

/-- The checks of `ingest_checkpoint` against the ledger and the control fingerprint. -/
def checkpointMatches (rt : ReflexRuntime) (checkpoint : ReflexLedgerCheckpoint)
    (ledger : List Row) (controlSha256 : String) : Except PyError Unit := do
  raiseIf (checkpoint.ledgerEntryCount ≠ ledger.length)
    (reflexLifecycleErr "checkpoint ledger-entry count does not match current ledger")
  raiseIf (checkpoint.ledgerHeadSha256 ≠ ReflexRuntimeControlPlane.ledgerHead rt ledger)
    (reflexLifecycleErr "checkpoint ledger head does not match current ledger")
  raiseIf (checkpoint.controlSha256 ≠ controlSha256)
    (reflexLifecycleErr "checkpoint control fingerprint does not match current state")

def ingestCheckpoint (rt : ReflexRuntime) (payload : Row) (epoch : ℕ) :
    ReflexProg (ReflexIngest ReflexLedgerCheckpoint) := do
  let checkpoint ← .ofExcept (ledgerCheckpointFromPayload rt payload)
  .ofExcept (validateCheckpointShape rt checkpoint)
  requireSignedBy rt checkpoint.issuerId checkpoint.keyId .ledgerCheckpoint
    checkpoint.signingPayload checkpoint.signatureB64 epoch
  let status ← ReflexAuthorityPlane.status rt epoch
  let ledger ← ReflexRuntimeControlPlane.loadLedger rt
  .ofExcept (checkpointMatches rt checkpoint ledger status.controlSha256)
  let name ← .ofExcept (lifecycleId checkpoint.checkpointId)
  idempotentWrite .checkpoints name checkpoint ReflexLedgerCheckpoint.envelopeSha256
  audited rt "attestation" epoch checkpoint
    (lifecycleReceipt rt "LEDGER_CHECKPOINT_INGESTED" "signed_runtime_ledger_checkpoint_verified"
      epoch checkpoint.issuerId checkpoint.keyId checkpoint.envelopeSha256)

end ReflexTrustLifecyclePlane

end PhiOS
