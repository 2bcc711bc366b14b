import PhiOS.Model.ReflexRecords

/-!
# The signed records of the reflex planes

The trust anchors, signed grants and revocations of `reflex/authority.py` and the transitions,
checkpoints, use policies, manifests and renewals of `reflex/lifecycle.py`. A record names the
anchor it is signed under by two identifiers; its digest covers the signed payload and the
signature.
-/

set_option autoImplicit false

namespace PhiOS

open Reflex

/-- `ReflexAuthorityContractError(message)`. -/
def reflexAuthorityErr (message : String) : PyError := ⟨.reflexAuthorityContractError, message, []⟩

/-- `ReflexLifecycleContractError(message)`. -/
def reflexLifecycleErr (message : String) : PyError := ⟨.reflexLifecycleContractError, message, []⟩

namespace Reflex

/-- `_safe_id` of `authority.py`. -/
def authorityId (value : String) : Except PyError String :=
  safeId (reflexAuthorityErr "authority identifier contains unsupported characters") value

/-- `_safe_id` of `lifecycle.py`. -/
def lifecycleId (value : String) : Except PyError String :=
  safeId (reflexLifecycleErr "lifecycle identifier contains unsupported characters") value

def decodeB64 (rt : ReflexRuntime) (value label : String) : Except PyError (List UInt8) :=
  match rt.b64decode value with
  | some bytes => .ok bytes
  | none => .error (reflexAuthorityErr (label ++ " must be canonical base64"))

/-- `_verify_ed25519` on the canonical bytes of a payload. -/
def verifyEd25519 (rt : ReflexRuntime) (publicKeyB64 : String) (message : Row)
    (signatureB64 : String) : Except PyError Unit := do
  let publicBytes ← decodeB64 rt publicKeyB64 "public_key_b64"
  let signature ← decodeB64 rt signatureB64 "signature_b64"
  raiseIf (¬ rt.verify publicBytes (.obj message) signature)
    (reflexAuthorityErr "Ed25519 authority signature verification failed")

/-- `_validate_envelope_hash`, and the same check of the two envelopes of `authority.py`. -/
def validateEnvelopeHash (rt : ReflexRuntime) (cls : ErrorClass) (mismatch : String) (body : Row)
    (digest field : String) : Except PyError Unit := do
  validateSha256 cls digest field
  raiseIf (rt.sha256 (.obj body) ≠ digest) ⟨cls, mismatch, []⟩

/-- `_validate_envelope_hash`. -/
def validateLifecycleHash (rt : ReflexRuntime) (body : Row) (digest : String) :
    Except PyError Unit :=
  validateEnvelopeHash rt .reflexLifecycleContractError "envelope_sha256 does not match contents"
    body digest "envelope_sha256"

end Reflex

/-! ## Purposes -/

/-- The purposes that a trust anchor may allow. -/
inductive AuthorityPurpose
  | activationGrant
  | grantRevocation
  | trustTransition
  | ledgerCheckpoint
  | grantUsePolicy
  | providerManifest
  | leaseRenewal
  | providerArtifact
  | activationNonce
  | replicationSnapshot

/-- The texts of the purposes. -/
def AuthorityPurpose.value : AuthorityPurpose → String
  | .activationGrant => "activation_grant"
  | .grantRevocation => "grant_revocation"
  | .trustTransition => "trust_transition"
  | .ledgerCheckpoint => "ledger_checkpoint"
  | .grantUsePolicy => "grant_use_policy"
  | .providerManifest => "provider_manifest"
  | .leaseRenewal => "lease_renewal"
  | .providerArtifact => "provider_artifact"
  | .activationNonce => "activation_nonce"
  | .replicationSnapshot => "replication_snapshot"

def allowedPurposes : List String :=
  [AuthorityPurpose.activationGrant, .grantRevocation, .trustTransition, .ledgerCheckpoint,
    .grantUsePolicy, .providerManifest, .leaseRenewal, .providerArtifact, .activationNonce,
    .replicationSnapshot].map AuthorityPurpose.value

/-! ## `authority.py` -/

structure ReflexAuthorityTrustAnchor where
  issuerId : String
  keyId : String
  algorithm : String
  publicKeyB64 : String
  allowedPurposes : List String
  anchorSha256 : String
  deriving DecidableEq

/-- `to_dict` without the hash. -/
def ReflexAuthorityTrustAnchor.body (anchor : ReflexAuthorityTrustAnchor) : Row :=
  [("schema", .str "phios.reflex_authority_trust_anchor.v0.8"), ("issuer_id", .str anchor.issuerId),
    ("key_id", .str anchor.keyId), ("algorithm", .str anchor.algorithm),
    ("public_key_b64", .str anchor.publicKeyB64),
    ("allowed_purposes", Json.strs anchor.allowedPurposes)]

def ReflexAuthorityTrustAnchor.toDict (anchor : ReflexAuthorityTrustAnchor) : Row :=
  anchor.body ++ [("anchor_sha256", .str anchor.anchorSha256)]

def trustAnchorFromPayload (rt : ReflexRuntime) (payload : Row) :
    Except PyError ReflexAuthorityTrustAnchor := do
  requireSchema payload "phios.reflex_authority_trust_anchor.v0.8"
    (reflexAuthorityErr "unsupported authority trust-anchor schema")
  let allowedPurposes ← match payload.lookup "allowed_purposes" with
    | some (.arr items) => pure (items.map rt.pyStr)
    | _ => .error (reflexAuthorityErr "allowed_purposes must be a list")
  raiseIf (allowedPurposes.any (strip · = ""))
    (reflexAuthorityErr "allowed_purposes cannot contain empty strings")
  return {
    issuerId := textField rt payload "issuer_id"
    keyId := textField rt payload "key_id"
    algorithm := textField rt payload "algorithm"
    publicKeyB64 := textField rt payload "public_key_b64"
    allowedPurposes
    anchorSha256 := textField rt payload "anchor_sha256" }

def validateTrustAnchor (rt : ReflexRuntime) (anchor : ReflexAuthorityTrustAnchor) :
    Except PyError Unit := do
  let _ ← authorityId anchor.issuerId
  let _ ← authorityId anchor.keyId
  raiseIf (anchor.algorithm ≠ "ed25519")
    (reflexAuthorityErr "only ed25519 trust anchors are supported")
  let purposes := sortedSet anchor.allowedPurposes
  raiseIf (purposes = [] ∨ purposes ≠ anchor.allowedPurposes)
    (reflexAuthorityErr "allowed_purposes must be unique and canonical")
  raiseIf (purposes.any fun purpose => purpose ∉ allowedPurposes)
    (reflexAuthorityErr "unsupported authority purpose")
  let raw ← decodeB64 rt anchor.publicKeyB64 "public_key_b64"
  raiseIf (raw.length ≠ 32) (reflexAuthorityErr "ed25519 public key must contain exactly 32 bytes")
  validateEnvelopeHash rt .reflexAuthorityContractError "trust-anchor hash does not match contents"
    anchor.body anchor.anchorSha256 "anchor_sha256"

/-- The check of a signature's length that the two envelopes share. -/
def validateSignatureLength (rt : ReflexRuntime) (signatureB64 : String) : Except PyError Unit := do
  let signature ← decodeB64 rt signatureB64 "signature_b64"
  raiseIf (signature.length ≠ 64) (reflexAuthorityErr "ed25519 signature must contain exactly 64 bytes")

structure SignedActivationGrantEnvelope where
  issuerId : String
  keyId : String
  issuedAtEpoch : ℕ
  validFromEpoch : ℕ
  validUntilEpoch : Option ℕ
  grant : ReflexActivationGrant
  signatureB64 : String
  envelopeSha256 : String

def SignedActivationGrantEnvelope.signingPayload (envelope : SignedActivationGrantEnvelope) : Row :=
  [("schema", .str "phios.reflex_signed_activation_grant.v0.8"), ("issuer_id", .str envelope.issuerId),
    ("key_id", .str envelope.keyId), ("issued_at_epoch", .int envelope.issuedAtEpoch),
    ("valid_from_epoch", .int envelope.validFromEpoch),
    ("valid_until_epoch", Json.optInt envelope.validUntilEpoch),
    ("grant", .obj envelope.grant.toPayload)]

/-- `to_dict` without the hash. -/
def SignedActivationGrantEnvelope.body (envelope : SignedActivationGrantEnvelope) : Row :=
  envelope.signingPayload ++ [("signature_b64", .str envelope.signatureB64)]

def signedActivationGrantFromPayload (rt : ReflexRuntime) (payload : Row) :
    Except PyError SignedActivationGrantEnvelope := do
  let cls := ErrorClass.reflexAuthorityContractError
  requireSchema payload "phios.reflex_signed_activation_grant.v0.8"
    (reflexAuthorityErr "unsupported signed activation-grant schema")
  let grantObj ← match payload.lookup "grant" with
    | some (.obj fields) => pure fields
    | some (.keyed _) => pure []
    | _ => .error (reflexAuthorityErr "signed grant must contain grant object")
  let issuedAtEpoch ← epochField cls payload "issued_at_epoch"
  let validFromEpoch ← epochField cls payload "valid_from_epoch"
  let validUntilEpoch ← optionalEpochField cls payload "valid_until_epoch"
  let grant ← activationGrantFromPayload rt grantObj
  return {
    issuerId := textField rt payload "issuer_id"
    keyId := textField rt payload "key_id"
    issuedAtEpoch
    validFromEpoch
    validUntilEpoch
    grant
    signatureB64 := textField rt payload "signature_b64"
    envelopeSha256 := textField rt payload "envelope_sha256" }

def validateSignedGrantShape (rt : ReflexRuntime) (envelope : SignedActivationGrantEnvelope) :
    Except PyError Unit := do
  let _ ← authorityId envelope.issuerId
  let _ ← authorityId envelope.keyId
  raiseIf (envelope.validFromEpoch < envelope.issuedAtEpoch)
    (reflexAuthorityErr "issued_at_epoch cannot be after valid_from_epoch")
  raiseIf (envelope.validUntilEpoch.any (· ≤ envelope.validFromEpoch))
    (reflexAuthorityErr "valid_until_epoch must be greater than valid_from_epoch")
  validateSignatureLength rt envelope.signatureB64
  validateEnvelopeHash rt .reflexAuthorityContractError
    "signed activation-grant envelope hash does not match contents" envelope.body
    envelope.envelopeSha256 "envelope_sha256"

structure ReflexGrantRevocation where
  revocationId : String
  issuerId : String
  keyId : String
  targetGrantSha256 : String
  effectiveEpoch : ℕ
  reason : String
  signatureB64 : String
  envelopeSha256 : String

def ReflexGrantRevocation.signingPayload (revocation : ReflexGrantRevocation) : Row :=
  [("schema", .str "phios.reflex_grant_revocation.v0.8"),
    ("revocation_id", .str revocation.revocationId), ("issuer_id", .str revocation.issuerId),
    ("key_id", .str revocation.keyId), ("target_grant_sha256", .str revocation.targetGrantSha256),
    ("effective_epoch", .int revocation.effectiveEpoch), ("reason", .str revocation.reason)]

/-- `to_dict` without the hash. -/
def ReflexGrantRevocation.body (revocation : ReflexGrantRevocation) : Row :=
  revocation.signingPayload ++ [("signature_b64", .str revocation.signatureB64)]

def grantRevocationFromPayload (rt : ReflexRuntime) (payload : Row) :
    Except PyError ReflexGrantRevocation := do
  requireSchema payload "phios.reflex_grant_revocation.v0.8"
    (reflexAuthorityErr "unsupported grant-revocation schema")
  let effectiveEpoch ← epochField .reflexAuthorityContractError payload "effective_epoch"
  return {
    revocationId := textField rt payload "revocation_id"
    issuerId := textField rt payload "issuer_id"
    keyId := textField rt payload "key_id"
    targetGrantSha256 := textField rt payload "target_grant_sha256"
    effectiveEpoch
    reason := textField rt payload "reason"
    signatureB64 := textField rt payload "signature_b64"
    envelopeSha256 := textField rt payload "envelope_sha256" }

def validateRevocationShape (rt : ReflexRuntime) (revocation : ReflexGrantRevocation) :
    Except PyError Unit := do
  let _ ← authorityId revocation.revocationId
  let _ ← authorityId revocation.issuerId
  let _ ← authorityId revocation.keyId
  validateSha256 .reflexAuthorityContractError revocation.targetGrantSha256 "target_grant_sha256"
  raiseIf (strip revocation.reason = "") (reflexAuthorityErr "revocation reason must be non-empty")
  validateSignatureLength rt revocation.signatureB64
  validateEnvelopeHash rt .reflexAuthorityContractError
    "revocation envelope hash does not match contents" revocation.body revocation.envelopeSha256
    "envelope_sha256"

/-! ## `lifecycle.py` -/

structure ReflexTrustTransition where
  transitionId : String
  issuerId : String
  keyId : String
  action : String
  issuedAtEpoch : ℕ
  effectiveEpoch : ℕ
  reason : String
  replacementAnchor : Option ReflexAuthorityTrustAnchor
  signatureB64 : String
  envelopeSha256 : String
  deriving DecidableEq

def ReflexTrustTransition.signingPayload (transition : ReflexTrustTransition) : Row :=
  [("schema", .str "phios.reflex_trust_transition.v0.9"),
    ("transition_id", .str transition.transitionId), ("issuer_id", .str transition.issuerId),
    ("key_id", .str transition.keyId), ("action", .str transition.action),
    ("issued_at_epoch", .int transition.issuedAtEpoch),
    ("effective_epoch", .int transition.effectiveEpoch), ("reason", .str transition.reason),
    ("replacement_anchor", match transition.replacementAnchor with
      | some anchor => .obj anchor.toDict
      | none => .null)]

/-- `to_dict` without the hash. -/
def ReflexTrustTransition.body (transition : ReflexTrustTransition) : Row :=
  transition.signingPayload ++ [("signature_b64", .str transition.signatureB64)]

def trustTransitionFromPayload (rt : ReflexRuntime) (payload : Row) :
    Except PyError ReflexTrustTransition := do
  let cls := ErrorClass.reflexLifecycleContractError
  requireSchema payload "phios.reflex_trust_transition.v0.9"
    (reflexLifecycleErr "unsupported trust-transition schema")
  let replacementAnchor ← match payload.lookup "replacement_anchor" with
    | some (.obj fields) => some <$> trustAnchorFromPayload rt fields
    | some (.keyed _) => some <$> trustAnchorFromPayload rt []
    | _ => pure none
  let issuedAtEpoch ← epochField cls payload "issued_at_epoch"
  let effectiveEpoch ← epochField cls payload "effective_epoch"
  return {
    transitionId := textField rt payload "transition_id"
    issuerId := textField rt payload "issuer_id"
    keyId := textField rt payload "key_id"
    action := textField rt payload "action"
    issuedAtEpoch
    effectiveEpoch
    reason := textField rt payload "reason"
    replacementAnchor
    signatureB64 := textField rt payload "signature_b64"
    envelopeSha256 := textField rt payload "envelope_sha256" }

/-- The part of `_validate_trust_transition_shape` about the replacement. -/
def validateReplacement (transition : ReflexTrustTransition) : Except PyError Unit :=
  if transition.action = "ROTATE" then
    match transition.replacementAnchor with
    | none => .error (reflexLifecycleErr "rotation requires replacement anchor")
    | some anchor => do
        raiseIf (anchor.issuerId ≠ transition.issuerId)
          (reflexLifecycleErr "replacement anchor must keep issuer_id")
        raiseIf (anchor.keyId = transition.keyId)
          (reflexLifecycleErr "replacement key_id must differ")
        raiseIf (AuthorityPurpose.trustTransition.value ∉ anchor.allowedPurposes)
          (reflexLifecycleErr "replacement anchor must retain trust-transition purpose")
  else
    raiseIf transition.replacementAnchor.isSome
      (reflexLifecycleErr "disable transition cannot include replacement anchor")

def validateTrustTransitionShape (rt : ReflexRuntime) (transition : ReflexTrustTransition) :
    Except PyError Unit := do
  let _ ← lifecycleId transition.transitionId
  let _ ← lifecycleId transition.issuerId
  let _ ← lifecycleId transition.keyId
  raiseIf (transition.action ≠ "ROTATE" ∧ transition.action ≠ "DISABLE")
    (reflexLifecycleErr "trust transition action must be ROTATE or DISABLE")
  raiseIf (transition.effectiveEpoch < transition.issuedAtEpoch)
    (reflexLifecycleErr "transition effective epoch cannot precede issue")
  raiseIf (strip transition.reason = "")
    (reflexLifecycleErr "trust transition reason must be non-empty")
  validateReplacement transition
  validateLifecycleHash rt transition.body transition.envelopeSha256

structure ReflexLedgerCheckpoint where
  checkpointId : String
  issuerId : String
  keyId : String
  createdAtEpoch : ℕ
  ledgerEntryCount : ℕ
  ledgerHeadSha256 : Option String
  controlSha256 : String
  signatureB64 : String
  envelopeSha256 : String

def ReflexLedgerCheckpoint.signingPayload (checkpoint : ReflexLedgerCheckpoint) : Row :=
  [("schema", .str "phios.reflex_ledger_checkpoint.v0.9"),
    ("checkpoint_id", .str checkpoint.checkpointId), ("issuer_id", .str checkpoint.issuerId),
    ("key_id", .str checkpoint.keyId), ("created_at_epoch", .int checkpoint.createdAtEpoch),
    ("ledger_entry_count", .int checkpoint.ledgerEntryCount),
    ("ledger_head_sha256", Json.optStr checkpoint.ledgerHeadSha256),
    ("control_sha256", .str checkpoint.controlSha256)]

/-- `to_dict` without the hash. -/
def ReflexLedgerCheckpoint.body (checkpoint : ReflexLedgerCheckpoint) : Row :=
  checkpoint.signingPayload ++ [("signature_b64", .str checkpoint.signatureB64)]

/-- `_positive_int(payload.get(name), name)`. -/
def Reflex.positiveIntField (payload : Row) (name : String) : Except PyError ℕ :=
  match payload.lookup name with
  | some (.int n) =>
      if n < 1 then .error (reflexLifecycleErr (name ++ " must be a positive integer"))
      else .ok n.toNat
  | _ => .error (reflexLifecycleErr (name ++ " must be a positive integer"))

def ledgerCheckpointFromPayload (rt : ReflexRuntime) (payload : Row) :
    Except PyError ReflexLedgerCheckpoint := do
  let cls := ErrorClass.reflexLifecycleContractError
  requireSchema payload "phios.reflex_ledger_checkpoint.v0.9"
    (reflexLifecycleErr "unsupported ledger-checkpoint schema")
  let createdAtEpoch ← epochField cls payload "created_at_epoch"
  let ledgerEntryCount ← epochField cls payload "ledger_entry_count"
  return {
    checkpointId := textField rt payload "checkpoint_id"
    issuerId := textField rt payload "issuer_id"
    keyId := textField rt payload "key_id"
    createdAtEpoch
    ledgerEntryCount
    ledgerHeadSha256 := match payload.lookup "ledger_head_sha256" with
      | none | some .null => none
      | some head => some (rt.pyStr head)
    controlSha256 := textField rt payload "control_sha256"
    signatureB64 := textField rt payload "signature_b64"
    envelopeSha256 := textField rt payload "envelope_sha256" }

def validateCheckpointShape (rt : ReflexRuntime) (checkpoint : ReflexLedgerCheckpoint) :
    Except PyError Unit := do
  let _ ← lifecycleId checkpoint.checkpointId
  let _ ← lifecycleId checkpoint.issuerId
  let _ ← lifecycleId checkpoint.keyId
  match checkpoint.ledgerHeadSha256 with
  | some head => validateSha256 .reflexLifecycleContractError head "ledger_head_sha256"
  | none => pure ()
  validateSha256 .reflexLifecycleContractError checkpoint.controlSha256 "control_sha256"
  validateLifecycleHash rt checkpoint.body checkpoint.envelopeSha256

structure ReflexGrantUsePolicy where
  policyId : String
  issuerId : String
  keyId : String
  targetGrantSha256 : String
  maxActivations : ℕ
  issuedAtEpoch : ℕ
  effectiveEpoch : ℕ
  signatureB64 : String
  envelopeSha256 : String

def ReflexGrantUsePolicy.signingPayload (policy : ReflexGrantUsePolicy) : Row :=
  [("schema", .str "phios.reflex_grant_use_policy.v0.9"), ("policy_id", .str policy.policyId),
    ("issuer_id", .str policy.issuerId), ("key_id", .str policy.keyId),
    ("target_grant_sha256", .str policy.targetGrantSha256),
    ("max_activations", .int policy.maxActivations), ("issued_at_epoch", .int policy.issuedAtEpoch),
    ("effective_epoch", .int policy.effectiveEpoch)]

/-- `to_dict` without the hash. -/
def ReflexGrantUsePolicy.body (policy : ReflexGrantUsePolicy) : Row :=
  policy.signingPayload ++ [("signature_b64", .str policy.signatureB64)]

def grantUsePolicyFromPayload (rt : ReflexRuntime) (payload : Row) :
    Except PyError ReflexGrantUsePolicy := do
  let cls := ErrorClass.reflexLifecycleContractError
  requireSchema payload "phios.reflex_grant_use_policy.v0.9"
    (reflexLifecycleErr "unsupported grant-use-policy schema")
  let maxActivations ← positiveIntField payload "max_activations"
  let issuedAtEpoch ← epochField cls payload "issued_at_epoch"
  let effectiveEpoch ← epochField cls payload "effective_epoch"
  return {
    policyId := textField rt payload "policy_id"
    issuerId := textField rt payload "issuer_id"
    keyId := textField rt payload "key_id"
    targetGrantSha256 := textField rt payload "target_grant_sha256"
    maxActivations
    issuedAtEpoch
    effectiveEpoch
    signatureB64 := textField rt payload "signature_b64"
    envelopeSha256 := textField rt payload "envelope_sha256" }

def validateGrantUsePolicyShape (rt : ReflexRuntime) (policy : ReflexGrantUsePolicy) :
    Except PyError Unit := do
  let _ ← lifecycleId policy.policyId
  let _ ← lifecycleId policy.issuerId
  let _ ← lifecycleId policy.keyId
  validateSha256 .reflexLifecycleContractError policy.targetGrantSha256 "target_grant_sha256"
  raiseIf (policy.effectiveEpoch < policy.issuedAtEpoch)
    (reflexLifecycleErr "use policy effective epoch cannot precede issue")
  validateLifecycleHash rt policy.body policy.envelopeSha256

structure ReflexProviderManifest where
  manifestId : String
  issuerId : String
  keyId : String
  provider : String
  models : List String
  adapterId : String
  adapterVersion : String
  issuedAtEpoch : ℕ
  effectiveEpoch : ℕ
  validUntilEpoch : Option ℕ
  signatureB64 : String
  envelopeSha256 : String
  deriving DecidableEq

def ReflexProviderManifest.signingPayload (manifest : ReflexProviderManifest) : Row :=
  [("schema", .str "phios.reflex_provider_manifest.v0.9"), ("manifest_id", .str manifest.manifestId),
    ("issuer_id", .str manifest.issuerId), ("key_id", .str manifest.keyId),
    ("provider", .str manifest.provider), ("models", Json.strs manifest.models),
    ("adapter_id", .str manifest.adapterId), ("adapter_version", .str manifest.adapterVersion),
    ("issued_at_epoch", .int manifest.issuedAtEpoch), ("effective_epoch", .int manifest.effectiveEpoch),
    ("valid_until_epoch", Json.optInt manifest.validUntilEpoch)]

/-- `to_dict` without the hash. -/
def ReflexProviderManifest.body (manifest : ReflexProviderManifest) : Row :=
  manifest.signingPayload ++ [("signature_b64", .str manifest.signatureB64)]

def providerManifestFromPayload (rt : ReflexRuntime) (payload : Row) :
    Except PyError ReflexProviderManifest := do
  let cls := ErrorClass.reflexLifecycleContractError
  requireSchema payload "phios.reflex_provider_manifest.v0.9"
    (reflexLifecycleErr "unsupported provider-manifest schema")
  let models ← match payload.lookup "models" with
    | some (.arr items) => pure (items.map rt.pyStr)
    | _ => .error (reflexLifecycleErr "provider manifest models must be a list")
  let issuedAtEpoch ← epochField cls payload "issued_at_epoch"
  let effectiveEpoch ← epochField cls payload "effective_epoch"
  let validUntilEpoch ← optionalEpochField cls payload "valid_until_epoch"
  return {
    manifestId := textField rt payload "manifest_id"
    issuerId := textField rt payload "issuer_id"
    keyId := textField rt payload "key_id"
    provider := textField rt payload "provider"
    models
    adapterId := textField rt payload "adapter_id"
    adapterVersion := textField rt payload "adapter_version"
    issuedAtEpoch
    effectiveEpoch
    validUntilEpoch
    signatureB64 := textField rt payload "signature_b64"
    envelopeSha256 := textField rt payload "envelope_sha256" }

def validateProviderManifestShape (rt : ReflexRuntime) (manifest : ReflexProviderManifest) :
    Except PyError Unit := do
  let _ ← lifecycleId manifest.manifestId
  let _ ← lifecycleId manifest.issuerId
  let _ ← lifecycleId manifest.keyId
  raiseIf (strip manifest.provider = "" ∨ strip manifest.adapterId = "" ∨
    strip manifest.adapterVersion = "")
    (reflexLifecycleErr "provider manifest identity fields must be non-empty")
  raiseIf (manifest.models = [] ∨ manifest.models.any (strip · = ""))
    (reflexLifecycleErr "provider manifest models must be non-empty")
  raiseIf (manifest.models.dedup.length ≠ manifest.models.length)
    (reflexLifecycleErr "provider manifest models must be unique")
  raiseIf (manifest.effectiveEpoch < manifest.issuedAtEpoch)
    (reflexLifecycleErr "manifest effective epoch cannot precede issue")
  raiseIf (manifest.validUntilEpoch.any (· ≤ manifest.effectiveEpoch))
    (reflexLifecycleErr "manifest expiry must follow effective epoch")
  validateLifecycleHash rt manifest.body manifest.envelopeSha256

structure ReflexLeaseRenewal where
  renewalId : String
  issuerId : String
  keyId : String
  targetGrantSha256 : String
  activationStateSha256 : String
  currentLeaseSha256 : String
  newValidThroughEpoch : ℕ
  issuedAtEpoch : ℕ
  signatureB64 : String
  envelopeSha256 : String

def ReflexLeaseRenewal.signingPayload (renewal : ReflexLeaseRenewal) : Row :=
  [("schema", .str "phios.reflex_lease_renewal.v0.9"), ("renewal_id", .str renewal.renewalId),
    ("issuer_id", .str renewal.issuerId), ("key_id", .str renewal.keyId),
    ("target_grant_sha256", .str renewal.targetGrantSha256),
    ("activation_state_sha256", .str renewal.activationStateSha256),
    ("current_lease_sha256", .str renewal.currentLeaseSha256),
    ("new_valid_through_epoch", .int renewal.newValidThroughEpoch),
    ("issued_at_epoch", .int renewal.issuedAtEpoch)]

/-- `to_dict` without the hash. -/
def ReflexLeaseRenewal.body (renewal : ReflexLeaseRenewal) : Row :=
  renewal.signingPayload ++ [("signature_b64", .str renewal.signatureB64)]

def leaseRenewalFromPayload (rt : ReflexRuntime) (payload : Row) :
    Except PyError ReflexLeaseRenewal := do
  let cls := ErrorClass.reflexLifecycleContractError
  requireSchema payload "phios.reflex_lease_renewal.v0.9"
    (reflexLifecycleErr "unsupported lease-renewal schema")
  let newValidThroughEpoch ← epochField cls payload "new_valid_through_epoch"
  let issuedAtEpoch ← epochField cls payload "issued_at_epoch"
  return {
    renewalId := textField rt payload "renewal_id"
    issuerId := textField rt payload "issuer_id"
    keyId := textField rt payload "key_id"
    targetGrantSha256 := textField rt payload "target_grant_sha256"
    activationStateSha256 := textField rt payload "activation_state_sha256"
    currentLeaseSha256 := textField rt payload "current_lease_sha256"
    newValidThroughEpoch
    issuedAtEpoch
    signatureB64 := textField rt payload "signature_b64"
    envelopeSha256 := textField rt payload "envelope_sha256" }

def validateLeaseRenewalShape (rt : ReflexRuntime) (renewal : ReflexLeaseRenewal) :
    Except PyError Unit := do
  let cls := ErrorClass.reflexLifecycleContractError
  let _ ← lifecycleId renewal.renewalId
  let _ ← lifecycleId renewal.issuerId
  let _ ← lifecycleId renewal.keyId
  validateSha256 cls renewal.targetGrantSha256 "target_grant_sha256"
  validateSha256 cls renewal.activationStateSha256 "activation_state_sha256"
  validateSha256 cls renewal.currentLeaseSha256 "current_lease_sha256"
  validateLifecycleHash rt renewal.body renewal.envelopeSha256

end PhiOS
