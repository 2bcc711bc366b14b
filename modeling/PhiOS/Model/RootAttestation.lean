import PhiOS.Model.ReflexLifecycle

/-!
# The root attestation plane

`ReflexRootAttestationPlane` (root_attestation.py:170): on top of the lifecycle plane, a root anchor
that is pinned from outside, attestations of the source digest of a provider adapter, and signed
nonces that are good for one activation. The plane keeps three directories of its own; what it
delegates goes to the files of the lower planes.
-/

set_option autoImplicit false

namespace PhiOS

open Interaction KeyOrder Reflex

/-- `ReflexRootAttestationContractError(message)`. -/
def reflexRootErr (message : String) : PyError := ⟨.reflexRootAttestationContractError, message, []⟩

structure ReflexRootPin where
  issuerId : String
  keyId : String
  anchorSha256 : String

/-! ## Provider artifacts -/

structure ReflexProviderArtifactAttestation where
  attestationId : String
  issuerId : String
  keyId : String
  providerManifestSha256 : String
  adapterId : String
  adapterVersion : String
  adapterSourceSha256 : String
  issuedAtEpoch : ℕ
  effectiveEpoch : ℕ
  validUntilEpoch : Option ℕ
  signatureB64 : String
  envelopeSha256 : String
  deriving DecidableEq

/-- `provider_artifact_signature_payload` of the fields. -/
def ReflexProviderArtifactAttestation.signingPayload (item : ReflexProviderArtifactAttestation) :
    Row :=
  [("schema", .str "phios.reflex_provider_artifact.v0.10"),
    ("attestation_id", .str item.attestationId), ("issuer_id", .str item.issuerId),
    ("key_id", .str item.keyId), ("provider_manifest_sha256", .str item.providerManifestSha256),
    ("adapter_id", .str item.adapterId), ("adapter_version", .str item.adapterVersion),
    ("adapter_source_sha256", .str item.adapterSourceSha256),
    ("issued_at_epoch", .int item.issuedAtEpoch), ("effective_epoch", .int item.effectiveEpoch),
    ("valid_until_epoch", Json.optInt item.validUntilEpoch)]

/-- `to_dict` without the hash. -/
def ReflexProviderArtifactAttestation.body (item : ReflexProviderArtifactAttestation) : Row :=
  item.signingPayload ++ [("signature_b64", .str item.signatureB64)]

def providerArtifactFromPayload (rt : ReflexRuntime) (payload : Row) :
    Except PyError ReflexProviderArtifactAttestation := do
  let cls := ErrorClass.reflexRootAttestationContractError
  requireSchema payload "phios.reflex_provider_artifact.v0.10"
    (reflexRootErr "unsupported schema; expected phios.reflex_provider_artifact.v0.10")
  let issuedAtEpoch ← epochField cls payload "issued_at_epoch"
  let effectiveEpoch ← epochField cls payload "effective_epoch"
  let validUntilEpoch ← optionalEpochField cls payload "valid_until_epoch"
  return {
    attestationId := textField rt payload "attestation_id"
    issuerId := textField rt payload "issuer_id"
    keyId := textField rt payload "key_id"
    providerManifestSha256 := textField rt payload "provider_manifest_sha256"
    adapterId := textField rt payload "adapter_id"
    adapterVersion := textField rt payload "adapter_version"
    adapterSourceSha256 := textField rt payload "adapter_source_sha256"
    issuedAtEpoch
    effectiveEpoch
    validUntilEpoch
    signatureB64 := textField rt payload "signature_b64"
    envelopeSha256 := textField rt payload "envelope_sha256" }

/-- `_validate_envelope_hash`; the shape of a digest is checked by `authority.py`. -/
def validateRootHash (rt : ReflexRuntime) (body : Row) (digest : String) : Except PyError Unit := do
  validateSha256 .reflexAuthorityContractError digest "envelope_sha256"
  raiseIf (rt.sha256 (.obj body) ≠ digest)
    (reflexRootErr "signed v0.10 envelope hash does not match contents")

def validateProviderArtifact (rt : ReflexRuntime) (item : ReflexProviderArtifactAttestation) :
    Except PyError Unit := do
  raiseIf ([item.attestationId, item.issuerId, item.keyId, item.adapterId,
      item.adapterVersion].any (strip · = ""))
    (reflexRootErr "provider-artifact identifiers must be non-empty")
  validateSha256 .reflexAuthorityContractError item.providerManifestSha256 "provider_manifest_sha256"
  validateSha256 .reflexAuthorityContractError item.adapterSourceSha256 "adapter_source_sha256"
  raiseIf (item.effectiveEpoch < item.issuedAtEpoch)
    (reflexRootErr "provider artifact cannot be effective before issuance")
  raiseIf (item.validUntilEpoch.any (· ≤ item.effectiveEpoch))
    (reflexRootErr "provider artifact validity window is invalid")
  validateRootHash rt item.body item.envelopeSha256

/-! ## Activation nonces -/

structure ReflexActivationNonce where
  nonceId : String
  issuerId : String
  keyId : String
  targetGrantSha256 : String
  activationRequestSha256 : String
  issuedAtEpoch : ℕ
  validUntilEpoch : ℕ
  signatureB64 : String
  envelopeSha256 : String
  deriving DecidableEq

/-- `activation_nonce_signature_payload` of the fields. -/
def ReflexActivationNonce.signingPayload (nonce : ReflexActivationNonce) : Row :=
  [("schema", .str "phios.reflex_activation_nonce.v0.10"), ("nonce_id", .str nonce.nonceId),
    ("issuer_id", .str nonce.issuerId), ("key_id", .str nonce.keyId),
    ("target_grant_sha256", .str nonce.targetGrantSha256),
    ("activation_request_sha256", .str nonce.activationRequestSha256),
    ("issued_at_epoch", .int nonce.issuedAtEpoch), ("valid_until_epoch", .int nonce.validUntilEpoch)]

/-- `to_dict` without the hash. -/
def ReflexActivationNonce.body (nonce : ReflexActivationNonce) : Row :=
  nonce.signingPayload ++ [("signature_b64", .str nonce.signatureB64)]

def activationNonceFromPayload (rt : ReflexRuntime) (payload : Row) :
    Except PyError ReflexActivationNonce := do
  let cls := ErrorClass.reflexRootAttestationContractError
  requireSchema payload "phios.reflex_activation_nonce.v0.10"
    (reflexRootErr "unsupported schema; expected phios.reflex_activation_nonce.v0.10")
  let issuedAtEpoch ← epochField cls payload "issued_at_epoch"
  let validUntilEpoch ← epochField cls payload "valid_until_epoch"
  return {
    nonceId := textField rt payload "nonce_id"
    issuerId := textField rt payload "issuer_id"
    keyId := textField rt payload "key_id"
    targetGrantSha256 := textField rt payload "target_grant_sha256"
    activationRequestSha256 := textField rt payload "activation_request_sha256"
    issuedAtEpoch
    validUntilEpoch
    signatureB64 := textField rt payload "signature_b64"
    envelopeSha256 := textField rt payload "envelope_sha256" }

def validateActivationNonce (rt : ReflexRuntime) (nonce : ReflexActivationNonce) :
    Except PyError Unit := do
  let _ ← authorityId nonce.nonceId
  let _ ← authorityId nonce.issuerId
  let _ ← authorityId nonce.keyId
  validateSha256 .reflexAuthorityContractError nonce.targetGrantSha256 "target_grant_sha256"
  validateSha256 .reflexAuthorityContractError nonce.activationRequestSha256
    "activation_request_sha256"
  raiseIf (nonce.validUntilEpoch ≤ nonce.issuedAtEpoch)
    (reflexRootErr "activation nonce validity window is invalid")
  validateRootHash rt nonce.body nonce.envelopeSha256

/-- The dictionary that `_consume_nonce` writes. -/
structure ReflexNonceConsumption where
  nonceId : String
  nonceEnvelopeSha256 : String
  evaluationEpoch : ℕ
  activationStateSha256 : Option String
  outcome : String
  consumptionSha256 : String

/-- The dictionary without the hash. -/
def ReflexNonceConsumption.body (consumption : ReflexNonceConsumption) : Row :=
  [("schema", .str "phios.reflex_nonce_consumption.v0.10"), ("nonce_id", .str consumption.nonceId),
    ("nonce_envelope_sha256", .str consumption.nonceEnvelopeSha256),
    ("evaluation_epoch", .int consumption.evaluationEpoch),
    ("activation_state_sha256", Json.optStr consumption.activationStateSha256),
    ("outcome", .str consumption.outcome)]

/-! ## Files -/

/-- The directories of the plane. -/
inductive RootDir
  | providerArtifacts
  | activationNonces
  | nonceUsage
  deriving DecidableEq

/-- The records of a directory. -/
abbrev RootDir.Item : RootDir → Type
  | .providerArtifacts => ReflexProviderArtifactAttestation
  | .activationNonces => ReflexActivationNonce
  | .nonceUsage => ReflexNonceConsumption

/-- What the plane asks of the file system, and what it hands to the lower planes. -/
inductive RootOp
  | lower (o : ReflexOp)
  /-- `path.exists()` and reading the record. -/
  | load (d : RootDir) (file : String)
  /-- The records of `sorted(dir.glob("*.json"))`. -/
  | list (d : RootDir)
  /-- `path.exists()`. -/
  | exists (d : RootDir) (file : String)
  | store (d : RootDir) (file : String) (item : d.Item)

/-- What an operation is answered with. -/
abbrev RootOp.Reply : RootOp → Type
  | .lower o => o.Reply
  | .load d _ => Except PyError (Option d.Item)
  | .list d => Except PyError (List d.Item)
  | .exists _ _ => Except PyError Bool
  | .store _ _ _ => Except PyError Unit

/-- A program of the plane. -/
abbrev RootProg (α : Type) := Prog RootOp.Reply PyError α

/-- The files of the plane and of the lower planes. -/
structure RootWorld where
  reflex : ReflexWorld
  dirs : (d : RootDir) → Dict String d.Item

/-- The world with one record more. -/
def RootWorld.store (w : RootWorld) (d : RootDir) (file : String) (item : d.Item) : RootWorld :=
  { w with dirs := Function.update w.dirs d ((w.dirs d).set file item) }

/-- What an operation does. An operation that raises has changed nothing. -/
def RootOp.effect (w : RootWorld) : (o : RootOp) → o.Reply → RootWorld → Prop
  | .lower o, reply, w' => o.effect w.reflex reply w'.reflex ∧ w'.dirs = w.dirs
  | .load d file, .ok item, w' => w' = w ∧ item = (w.dirs d).get? file
  | .list d, .ok items, w' => w' = w ∧ items = (w.dirs d).entries.map (·.2)
  | .exists d file, .ok found, w' => w' = w ∧ found = ((w.dirs d).get? file).isSome
  | .store d file item, .ok (), w' => w' = w.store d file item
  | .load _ _, .error _, w' | .list _, .error _, w' | .exists _ _, .error _, w'
  | .store _ _ _, .error _, w' => w' = w

/-- A program of the lower planes. -/
def ReflexProg.lower {α : Type} (p : ReflexProg α) : RootProg α := p.hoist RootOp.lower fun _ r => r

namespace RootProg

/-- The record in a file, if the file exists. -/
def load (d : RootDir) (file : String) : RootProg (Option d.Item) :=
  (Prog.call (.load d file)).bind .ofExcept

/-- The records of a directory. -/
def list (d : RootDir) : RootProg (List d.Item) := (Prog.call (.list d)).bind .ofExcept

/-- Whether a file exists. -/
def existsFile (d : RootDir) (file : String) : RootProg Bool :=
  (Prog.call (.exists d file)).bind .ofExcept

/-- `_atomic_write_json` of a record. -/
def store (d : RootDir) (file : String) (item : d.Item) : RootProg Unit :=
  (Prog.call (.store d file item)).bind .ofExcept

end RootProg

namespace ReflexRootAttestationPlane

open ReflexAuthorityPlane ReflexTrustLifecyclePlane

def readTypedDir (d : RootDir) (validator : d.Item → Except PyError Unit) :
    RootProg (List d.Item) := do
  let items ← RootProg.list d
  .ofExcept (items.forM validator)
  return items

/-- `_idempotent_write`; `digestOf` reads the field `envelope_sha256` of a record on file. -/
def idempotentWrite (d : RootDir) (file : String) (item : d.Item) (digestOf : d.Item → String) :
    RootProg Unit := do
  match ← RootProg.load d file with
  | some existing => .ofExcept (raiseIf (digestOf existing ≠ digestOf item)
      (reflexRootErr "artifact ID already exists with different contents"))
  | none => RootProg.store d file item

/-! ## The root pin -/

def rootPinStatus (rt : ReflexRuntime) (rootPin : Option ReflexRootPin) : RootProg (Bool × String) :=
  match rootPin with
  | none => return (false, "PHIOS_REFLEX_ROOT_PIN is not configured")
  | some pin => ReflexProg.lower <|
      onAuthorityError (requireAnchor rt pin.issuerId pin.keyId)
        (fun _ => return (false, "pinned trust anchor is not present or valid"))
        fun anchor =>
          if anchor.anchorSha256 ≠ pin.anchorSha256 then
            return (false, "pinned trust-anchor digest mismatch")
          else return (true, "exact external root pin matched")

def requireRootPin (rt : ReflexRuntime) (rootPin : Option ReflexRootPin) : RootProg Unit := do
  let (ok, reason) ← rootPinStatus rt rootPin
  .ofExcept (raiseIf (¬ ok) (reflexRootErr reason))

/-! ## Artifacts -/

/-- An adapter: its identifier, its version and the digest of its source. -/
structure ReflexAdapter where
  adapterId : String
  adapterVersion : String
  adapterSourceSha256 : String

/-- A manifest of the adapter that is effective. -/
def manifestEffective (adapter : ReflexAdapter) (epoch : ℕ) (manifest : ReflexProviderManifest) :
    Bool :=
  manifest.adapterId = adapter.adapterId ∧ manifest.adapterVersion = adapter.adapterVersion ∧
    manifest.effectiveEpoch ≤ epoch ∧ ¬ manifest.validUntilEpoch.any (· ≤ epoch)

def activeManifestShas (adapter : ReflexAdapter) (epoch : ℕ)
    (manifests : List ReflexProviderManifest) : List String :=
  (manifests.filter (manifestEffective adapter epoch)).map (·.envelopeSha256)

/-- The tests of `_require_provider_artifact` that skip an artifact. -/
def artifactMatches (adapter : ReflexAdapter) (epoch : ℕ) (shas : List String)
    (artifact : ReflexProviderArtifactAttestation) : Bool :=
  artifact.providerManifestSha256 ∈ shas ∧ artifact.adapterId = adapter.adapterId ∧
    artifact.adapterVersion = adapter.adapterVersion ∧
    artifact.adapterSourceSha256 = adapter.adapterSourceSha256 ∧
    artifact.effectiveEpoch ≤ epoch ∧ ¬ artifact.validUntilEpoch.any (· ≤ epoch)

/-- The loop of `_require_provider_artifact`. -/
def firstArtifact (rt : ReflexRuntime) (epoch : ℕ)
    (covers : ReflexProviderArtifactAttestation → Bool) :
    List ReflexProviderArtifactAttestation → RootProg ReflexProviderArtifactAttestation
  | [] => .raise (reflexRootErr
      "no effective authenticated provider-artifact digest matches installed adapter")
  | artifact :: rest =>
      if covers artifact then do
        (requireSignedBy rt artifact.issuerId artifact.keyId .providerArtifact
          artifact.signingPayload artifact.signatureB64 epoch).lower
        return artifact
      else firstArtifact rt epoch covers rest

def requireProviderArtifact (rt : ReflexRuntime) (adapter : ReflexAdapter) (epoch : ℕ) :
    RootProg ReflexProviderArtifactAttestation := do
  .ofExcept (validateSha256 .reflexAuthorityContractError adapter.adapterSourceSha256
    "adapter_source_sha256")
  let manifests ← (readTyped .manifests (validateProviderManifestShape rt)).lower
  let artifacts ← readTypedDir .providerArtifacts (validateProviderArtifact rt)
  firstArtifact rt epoch (artifactMatches adapter epoch (activeManifestShas adapter epoch manifests))
    artifacts

/-! ## Nonces -/

def ingestNonce (rt : ReflexRuntime) (rootPin : Option ReflexRootPin) (payload : Row) (epoch : ℕ) :
    RootProg ReflexActivationNonce := do
  requireRootPin rt rootPin
  let nonce ← .ofExcept (activationNonceFromPayload rt payload)
  .ofExcept (validateActivationNonce rt nonce)
  match ← (findSignedGrantBySha256 rt nonce.targetGrantSha256).lower with
  | none => .raise (reflexRootErr "activation nonce targets unknown authenticated grant")
  | some envelope => do
      .ofExcept (raiseIf (envelope.issuerId ≠ nonce.issuerId)
        (reflexRootErr "activation nonce issuer must match grant issuer"))
      (requireSignedBy rt nonce.issuerId nonce.keyId .activationNonce nonce.signingPayload
        nonce.signatureB64 epoch).lower
      let name ← .ofExcept (authorityId nonce.nonceId)
      idempotentWrite .activationNonces (name ++ ".json") nonce ReflexActivationNonce.envelopeSha256
      return nonce

def requireNonce (rt : ReflexRuntime) (nonceId : String) : RootProg ReflexActivationNonce := do
  let name ← .ofExcept (authorityId nonceId)
  match ← RootProg.load .activationNonces (name ++ ".json") with
  | none => .raise (reflexRootErr "activation nonce not found")
  | some nonce => do
      .ofExcept (validateActivationNonce rt nonce)
      let _ ← (verifySignedPayload rt nonce.issuerId nonce.keyId
        AuthorityPurpose.activationNonce.value nonce.signingPayload nonce.signatureB64).lower
      return nonce

def nonceUsed (nonceId : String) : RootProg Bool := do
  let name ← .ofExcept (authorityId nonceId)
  RootProg.existsFile .nonceUsage (name ++ ".json")

def consumeNonce (rt : ReflexRuntime) (nonce : ReflexActivationNonce) (epoch : ℕ)
    (activationStateSha256 : Option String) (outcome : String) (replaceExisting : Bool) :
    RootProg Unit := do
  let name ← .ofExcept (authorityId nonce.nonceId)
  let found ← RootProg.existsFile .nonceUsage (name ++ ".json")
  .ofExcept (raiseIf (found ∧ ¬ replaceExisting)
    (reflexRootErr "activation nonce has already been consumed"))
  let consumption : ReflexNonceConsumption :=
    ⟨nonce.nonceId, nonce.envelopeSha256, epoch, activationStateSha256, outcome, ""⟩
  RootProg.store .nonceUsage (name ++ ".json")
    { consumption with consumptionSha256 := rt.sha256 (.obj consumption.body) }

/-! ## Activation -/

/-- The arguments of `activate_verified`. -/
structure RootActivation where
  request : ReflexActivationRequest
  grantId : String
  nonceId : String
  adapter : ReflexAdapter
  epoch : ℕ
  leaseUntilEpoch : Option ℕ
  expectedControlSha256 : Option String

/-- The scope checks of a nonce. -/
def nonceScope (rt : ReflexRuntime) (c : RootActivation) (nonce : ReflexActivationNonce)
    (envelope : SignedActivationGrantEnvelope) : Except PyError Unit := do
  raiseIf (nonce.targetGrantSha256 ≠ envelope.grant.grantSha256 rt)
    (reflexRootErr "activation nonce grant scope mismatch")
  raiseIf (nonce.activationRequestSha256 ≠ c.request.requestSha256 rt)
    (reflexRootErr "activation nonce request scope mismatch")
  raiseIf (c.epoch < nonce.issuedAtEpoch) (reflexRootErr "activation nonce is not valid yet")
  raiseIf (nonce.validUntilEpoch ≤ c.epoch) (reflexRootErr "activation nonce has expired")

/-- `activate_verified` up to the point where the nonce is burned. -/
def reserveNonce (rt : ReflexRuntime) (rootPin : Option ReflexRootPin) (c : RootActivation) :
    RootProg ReflexActivationNonce := do
  requireRootPin rt rootPin
  let _ ← requireProviderArtifact rt c.adapter c.epoch
  match ← (findSignedGrantById rt c.grantId).lower with
  | none => .raise (reflexRootErr "authenticated activation grant not found")
  | some envelope => do
      let nonce ← requireNonce rt c.nonceId
      .ofExcept (nonceScope rt c nonce envelope)
      if ← nonceUsed nonce.nonceId then
        .raise (reflexRootErr "activation nonce has already been consumed")
      else do
        consumeNonce rt nonce c.epoch none "RESERVED" false
        return nonce

/-- What `activate_verified` returns: the result of the lifecycle plane and how many uses of the
grant it leaves used, with the nonce that was consumed. -/
structure RootActivationResult where
  result : ReflexActivationResult
  uses : ℕ
  nonceId : String
  envelopeSha256 : String

/-- `except Exception` of the delegated call: the nonce stays burned, and the exception goes on
up. -/
def burnOnFailure (rt : ReflexRuntime) (c : RootActivation) (nonce : ReflexActivationNonce)
    (e : PyError) : RootProg RootActivationResult :=
  if e.cls.isException then do
    consumeNonce rt nonce c.epoch none "BURNED_ON_FAILURE" true
    .raise e
  else .raise e

/-- `activate_verified` from the delegated call on. -/
def delegateActivation (rt : ReflexRuntime) (c : RootActivation) (nonce : ReflexActivationNonce) :
    RootProg RootActivationResult :=
  (ReflexTrustLifecyclePlane.activateVerified rt c.request c.grantId c.adapter.adapterId
    c.adapter.adapterVersion c.epoch c.leaseUntilEpoch c.expectedControlSha256).lower.attempt.bind
    fun
    | .error e => burnOnFailure rt c nonce e
    | .ok (result, uses) => do
        consumeNonce rt nonce c.epoch (result.activation.map (·.stateSha256)) "CONSUMED" true
        return ⟨result, uses, nonce.nonceId, nonce.envelopeSha256⟩

def activateVerified (rt : ReflexRuntime) (rootPin : Option ReflexRootPin) (c : RootActivation) :
    RootProg RootActivationResult := do
  let nonce ← reserveNonce rt rootPin c
  delegateActivation rt c nonce

/-! ## Evaluation -/

def collapseIfActive (rt : ReflexRuntime) (reason : String) (epoch : ℕ) :
    ReflexProg (Option ReflexDeactivation) := do
  let status ← ReflexRuntimeControlPlane.status rt epoch
  if status.routingInfluenceActive then do
    let deactivation ← ReflexAuthorityPlane.deactivate rt reason epoch
    return some deactivation
  else return none

/-- What `evaluate_active` returns next to the signal: what the lifecycle plane returns, the
collapse, or that nothing was active. -/
inductive RootEvaluation
  | lifecycle (outcome : ReflexDeactivation ⊕ ReflexEvaluationReport)
  | collapsed (deactivation : ReflexDeactivation)
  | inactive

/-- The checks of `evaluate_active`, before it delegates. -/
def requireAttested (rt : ReflexRuntime) (rootPin : Option ReflexRootPin) (adapter : ReflexAdapter)
    (epoch : ℕ) : RootProg Unit := do
  requireRootPin rt rootPin
  let _ ← requireProviderArtifact rt adapter epoch

/-- `except ReflexRootAttestationContractError` of `evaluate_active`. -/
def failClosed (rt : ReflexRuntime) (epoch : ℕ) :
    RootProg (Option ReflexRoutingInfluenceSignal × RootEvaluation) := do
  match ← (collapseIfActive rt "v0_10_root_or_provider_artifact_invalid" epoch).lower with
  | some deactivation => return (none, .collapsed deactivation)
  | none => return (none, .inactive)

def evaluateActive (rt : ReflexRuntime) (rootPin : Option ReflexRootPin) (input : ReflexInput)
    (adapter : ReflexAdapter) (epoch : ℕ) :
    RootProg (Option ReflexRoutingInfluenceSignal × RootEvaluation) :=
  (requireAttested rt rootPin adapter epoch).attempt.bind fun
    | .error e =>
        if e.cls = .reflexRootAttestationContractError then failClosed rt epoch else .raise e
    | .ok () => do
        let (signal, outcome) ← (ReflexTrustLifecyclePlane.evaluateActive rt input adapter.adapterId
          adapter.adapterVersion epoch).lower
        return (signal, .lifecycle outcome)

end ReflexRootAttestationPlane

end PhiOS
