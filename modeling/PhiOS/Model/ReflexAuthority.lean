import PhiOS.Model.ReflexControlPlane

/-!
# The authority plane

`ReflexAuthorityPlane` (authority.py:173): trust anchors, signed grants and revocations around the
control plane. A signature is checked under the anchor that is stored in the file named after the
two identifiers of the signed record.
-/

set_option autoImplicit false

namespace PhiOS

open Interaction Reflex

/-- What an ingest returns: whether the record was there already, the record and the receipt. -/
structure ReflexIngest (α : Type) where
  idempotent : Bool
  item : α
  receipt : Row

/-- What `status` of the authority plane returns. -/
structure ReflexAuthorityStatus where
  controlSha256 : String
  enforcement : Option ReflexDeactivation
  control : ReflexControlStatus
  trustAnchors : List ReflexAuthorityTrustAnchor
  signedGrants : List SignedActivationGrantEnvelope
  revocations : List ReflexGrantRevocation

/-- `_receipt` of the authority plane. -/
def authorityReceipt (rt : ReflexRuntime) (status reason : String) (epoch : ℕ)
    (issuerId keyId grantSha256 relatedSha : Option String)
    (authenticated trustBoundaryExpanded : Bool) : Row :=
  let payload : Row :=
    [("schema", .str "phios.reflex_authority_receipt.v0.8"), ("status", .str status),
      ("reason", .str reason), ("evaluation_epoch", .int epoch),
      ("issuer_id", Json.optStr issuerId), ("key_id", Json.optStr keyId),
      ("grant_sha256", Json.optStr grantSha256), ("related_sha256", Json.optStr relatedSha),
      ("authenticated", .bool authenticated),
      ("trust_boundary_expanded", .bool trustBoundaryExpanded),
      ("routing_influence_authority", .bool false), ("action_authority", .bool false),
      ("execution_authority", .bool false)]
  payload ++ [("receipt_sha256", .str (rt.sha256 (.obj payload)))]

namespace ReflexAuthorityPlane

/-! ## Anchors -/

/-- The name of `_anchor_path`. -/
def anchorFile (issuerId keyId : String) : Except PyError String := do
  let issuer ← authorityId issuerId
  let key ← authorityId keyId
  return issuer ++ "__" ++ key ++ ".json"

def requireAnchor (rt : ReflexRuntime) (issuerId keyId : String) :
    ReflexProg ReflexAuthorityTrustAnchor := do
  let file ← .ofExcept (anchorFile issuerId keyId)
  match ← ReflexProg.load .trust file with
  | none => .raise (reflexAuthorityErr "authority issuer/key is not locally trusted")
  | some anchor => do
      .ofExcept (validateTrustAnchor rt anchor)
      return anchor

/-- The end of the three signature checks: the purpose, and the signature under the anchor's
key. -/
def verifyUnder (rt : ReflexRuntime) (anchor : ReflexAuthorityTrustAnchor) (purpose refusal : String)
    (payload : Row) (signatureB64 : String) : Except PyError Unit := do
  raiseIf (purpose ∉ anchor.allowedPurposes) (reflexAuthorityErr refusal)
  verifyEd25519 rt anchor.publicKeyB64 payload signatureB64

def verifySignedPayload (rt : ReflexRuntime) (issuerId keyId purpose : String) (payload : Row)
    (signatureB64 : String) : ReflexProg String := do
  .ofExcept (raiseIf (purpose ∉ allowedPurposes)
    (reflexAuthorityErr "unsupported authenticated authority purpose"))
  let trusted ← requireAnchor rt issuerId keyId
  .ofExcept (verifyUnder rt trusted purpose
    "trusted key is not allowed for requested authority purpose" payload signatureB64)
  return trusted.anchorSha256

/-! ## Signed grants and revocations -/

def verifySignedGrant (rt : ReflexRuntime) (envelope : SignedActivationGrantEnvelope) (epoch : ℕ) :
    ReflexProg Unit := do
  .ofExcept do
    validateSignedGrantShape rt envelope
    validateActivationGrant rt envelope.grant
  let anchor ← requireAnchor rt envelope.issuerId envelope.keyId
  .ofExcept do
    raiseIf (AuthorityPurpose.activationGrant.value ∉ anchor.allowedPurposes)
      (reflexAuthorityErr "trusted key is not allowed to sign activation grants")
    raiseIf (envelope.grant.authoritySource ≠ envelope.issuerId)
      (reflexAuthorityErr "grant authority_source must equal authenticated issuer_id")
    raiseIf (epoch < envelope.validFromEpoch)
      (reflexAuthorityErr "authenticated grant is not valid yet")
    raiseIf (envelope.validUntilEpoch.any (· ≤ epoch))
      (reflexAuthorityErr "authenticated grant has expired")
    verifyEd25519 rt anchor.publicKeyB64 envelope.signingPayload envelope.signatureB64

def verifyRevocation (rt : ReflexRuntime) (revocation : ReflexGrantRevocation) :
    ReflexProg Unit := do
  .ofExcept (validateRevocationShape rt revocation)
  let anchor ← requireAnchor rt revocation.issuerId revocation.keyId
  .ofExcept (verifyUnder rt anchor AuthorityPurpose.grantRevocation.value
    "trusted key is not allowed to sign grant revocations" revocation.signingPayload
    revocation.signatureB64)

/-- A directory of records, each with its check; `_read_typed_dir` and the `_list_` methods. -/
def readTyped (d : ReflexDir) (validator : d.Item → Except PyError Unit) :
    ReflexProg (List d.Item) := do
  let items ← ReflexProg.list d
  .ofExcept (items.forM validator)
  return items

def findSignedGrantBySha (rt : ReflexRuntime) (grantSha256 : String) :
    ReflexProg (Option SignedActivationGrantEnvelope) := do
  let envelopes : List SignedActivationGrantEnvelope ← ReflexProg.list .signedGrants
  return envelopes.find? (·.grant.grantSha256 rt = grantSha256)

def findSignedGrantById (rt : ReflexRuntime) (grantId : String) :
    ReflexProg (Option SignedActivationGrantEnvelope) := do
  let normalized ← .ofExcept (authorityId grantId)
  match ← ReflexProg.load .signedGrants (normalized ++ ".json") with
  | none => return none
  | some envelope => do
      .ofExcept (validateSignedGrantShape rt envelope)
      return some envelope

def findSignedGrantBySha256 (rt : ReflexRuntime) (grantSha256 : String) :
    ReflexProg (Option SignedActivationGrantEnvelope) := do
  .ofExcept (validateSha256 .reflexAuthorityContractError grantSha256 "grant_sha256")
  findSignedGrantBySha rt grantSha256

/-- `_effective_revocation`: whether there is one. -/
def effectiveRevocation (rt : ReflexRuntime) (grantSha256 : String) (epoch : ℕ) :
    ReflexProg Bool := do
  let revocations ← readTyped .revocations (validateRevocationShape rt)
  match revocations.find? fun r => r.targetGrantSha256 = grantSha256 ∧ r.effectiveEpoch ≤ epoch with
  | none => return false
  | some revocation => do
      verifyRevocation rt revocation
      return true

/-! ## Enforcement and status -/

/-- `try: p except ReflexAuthorityContractError: handler`. -/
def onAuthorityError {α β : Type} (p : ReflexProg α) (handler : PyError → ReflexProg β)
    (go : α → ReflexProg β) : ReflexProg β :=
  p.attempt.bind fun
    | .ok a => go a
    | .error e => if e.cls = .reflexAuthorityContractError then handler e else .raise e

/-- The active activation of a status. -/
def activeActivation (status : ReflexControlStatus) : Option ReflexActivationState :=
  status.activation.filter (·.routingInfluenceActive)

def enforceActiveAuthority (rt : ReflexRuntime) (epoch : ℕ) :
    ReflexProg (Option ReflexDeactivation) := do
  let status ← ReflexRuntimeControlPlane.status rt epoch
  let collapse := fun reason => do
    let deactivation ← ReflexRuntimeControlPlane.deactivate rt reason epoch
    return some deactivation
  match activeActivation status with
  | none => return none
  | some activation => do
      let grantSha := activation.activatedByGrantSha256
      match ← findSignedGrantBySha rt grantSha with
      | none => collapse "active_grant_lacks_authenticated_envelope"
      | some envelope =>
          onAuthorityError (verifySignedGrant rt envelope epoch)
            (fun _ => collapse "active_authenticated_grant_invalid_or_expired")
            fun _ => do
              if ← effectiveRevocation rt grantSha epoch then
                collapse "active_authenticated_grant_revoked"
              else return none

/-- `sorted` of texts. -/
def sortedTexts (texts : List String) : List String := texts.insertionSort (· ≤ ·)

def controlSha (rt : ReflexRuntime) (status : ReflexControlStatus)
    (anchors : List ReflexAuthorityTrustAnchor) (grants : List SignedActivationGrantEnvelope)
    (revocations : List ReflexGrantRevocation) : ReflexProg String := do
  let ledger ← ReflexRuntimeControlPlane.loadLedger rt
  let payload : Row :=
    [("schema", .str "phios.reflex_authority_control_fingerprint.v0.8"),
      ("policy_state_sha256", Json.optStr (status.policy.map (·.stateSha256))),
      ("activation_state_sha256", Json.optStr (status.activation.map (·.stateSha256))),
      ("lease_sha256", Json.optStr (status.lease.map (·.leaseSha256))),
      ("ledger_head_sha256", Json.optStr (ReflexRuntimeControlPlane.ledgerHead rt ledger)),
      ("trust_anchor_sha256s", Json.strs (sortedTexts (anchors.map (·.anchorSha256)))),
      ("signed_grant_envelope_sha256s", Json.strs (sortedTexts (grants.map (·.envelopeSha256)))),
      ("revocation_envelope_sha256s", Json.strs (sortedTexts (revocations.map (·.envelopeSha256))))]
  return rt.sha256 (.obj payload)

/-- The `try` of `status`: an authority error collapses what is active and goes on up. -/
def failClosed {α : Type} (rt : ReflexRuntime) (epoch : ℕ) (status : ReflexControlStatus)
    (p : ReflexProg α) : ReflexProg α :=
  onAuthorityError p
    (fun e => do
      if status.routingInfluenceActive then
        let _ ← ReflexRuntimeControlPlane.deactivate rt "authority_provenance_invalid_fail_closed" epoch
      .raise e)
    .ret

def status (rt : ReflexRuntime) (epoch : ℕ) : ReflexProg ReflexAuthorityStatus := do
  let first ← ReflexRuntimeControlPlane.status rt epoch
  let enforcement ← failClosed rt epoch first (enforceActiveAuthority rt epoch)
  let control ← match enforcement with
    | some _ => failClosed rt epoch first (ReflexRuntimeControlPlane.status rt epoch)
    | none => pure first
  let anchors ← failClosed rt epoch control (readTyped .trust (validateTrustAnchor rt))
  let grants ← failClosed rt epoch control (readTyped .signedGrants (validateSignedGrantShape rt))
  let revocations ← failClosed rt epoch control (readTyped .revocations (validateRevocationShape rt))
  let sha ← controlSha rt control anchors grants revocations
  return ⟨sha, enforcement, control, anchors, grants, revocations⟩

def assertControlSha (rt : ReflexRuntime) (expected : Option String) (epoch : ℕ) :
    ReflexProg Unit :=
  match expected with
  | none => return ()
  | some digest => do
      .ofExcept (validateSha256 .reflexAuthorityContractError digest "expected_control_sha256")
      let current ← status rt epoch
      .ofExcept (raiseIf (current.controlSha256 ≠ digest)
        (reflexAuthorityErr "control-plane compare-and-swap precondition failed"))

/-! ## The calls -/

def ingestTrustAnchor (rt : ReflexRuntime) (payload : Row) (epoch : ℕ)
    (expectedControlSha256 : Option String) :
    ReflexProg (ReflexIngest ReflexAuthorityTrustAnchor) := do
  assertControlSha rt expectedControlSha256 epoch
  let anchor ← .ofExcept (trustAnchorFromPayload rt payload)
  .ofExcept (validateTrustAnchor rt anchor)
  let file ← .ofExcept (anchorFile anchor.issuerId anchor.keyId)
  let receipt := fun status reason expanded => authorityReceipt rt status reason epoch
    anchor.issuerId anchor.keyId none anchor.anchorSha256 false expanded
  match ← ReflexProg.load .trust file with
  | some existing => do
      .ofExcept do
        validateTrustAnchor rt existing
        raiseIf (existing.anchorSha256 ≠ anchor.anchorSha256)
          (reflexAuthorityErr "issuer/key trust anchor already exists with different contents")
      let present := receipt "TRUST_ANCHOR_ALREADY_PRESENT"
        "exact_local_root_of_trust_already_configured" false
      ReflexRuntimeControlPlane.appendAuditReceipt rt "authority" epoch present
      return ⟨true, anchor, present⟩
  | none => do
      ReflexProg.store .trust file anchor
      let ingested := receipt "TRUST_ANCHOR_INGESTED" "explicit_local_root_of_trust_configured" true
      ReflexRuntimeControlPlane.appendAuditReceipt rt "authority" epoch ingested
      return ⟨false, anchor, ingested⟩

def ingestSignedGrant (rt : ReflexRuntime) (payload : Row) (epoch : ℕ)
    (expectedControlSha256 : Option String) :
    ReflexProg (ReflexIngest SignedActivationGrantEnvelope) := do
  assertControlSha rt expectedControlSha256 epoch
  let envelope ← .ofExcept (signedActivationGrantFromPayload rt payload)
  verifySignedGrant rt envelope epoch
  let name ← .ofExcept (authorityId envelope.grant.grantId)
  let receipt := fun status reason => authorityReceipt rt status reason epoch envelope.issuerId
    envelope.keyId (some (envelope.grant.grantSha256 rt)) envelope.envelopeSha256 true false
  match ← ReflexProg.load .signedGrants (name ++ ".json") with
  | some existing => do
      .ofExcept (raiseIf (existing.envelopeSha256 ≠ envelope.envelopeSha256)
        (reflexAuthorityErr "signed grant_id already exists with different envelope"))
      let present := receipt "SIGNED_GRANT_ALREADY_PRESENT"
        "exact_authenticated_grant_already_ingested"
      ReflexRuntimeControlPlane.appendAuditReceipt rt "authority" epoch present
      return ⟨true, envelope, present⟩
  | none => do
      ReflexRuntimeControlPlane.ingestGrant rt envelope.grant epoch
      ReflexProg.store .signedGrants (name ++ ".json") envelope
      let ingested := receipt "SIGNED_GRANT_INGESTED"
        "ed25519_authenticated_activation_grant_persisted"
      ReflexRuntimeControlPlane.appendAuditReceipt rt "authority" epoch ingested
      return ⟨false, envelope, ingested⟩

def requireSignedGrant (grantId : String) : ReflexProg SignedActivationGrantEnvelope := do
  let name ← .ofExcept (authorityId grantId)
  match ← ReflexProg.load .signedGrants (name ++ ".json") with
  | some envelope => return envelope
  | none => .raise (reflexAuthorityErr
      "activation grant is not present as an authenticated envelope")

def activateVerified (rt : ReflexRuntime) (request : ReflexActivationRequest) (grantId : String)
    (epoch : ℕ) (leaseUntilEpoch : Option ℕ) (expectedControlSha256 : Option String) :
    ReflexProg ReflexActivationResult := do
  assertControlSha rt expectedControlSha256 epoch
  let envelope ← requireSignedGrant grantId
  verifySignedGrant rt envelope epoch
  if ← effectiveRevocation rt (envelope.grant.grantSha256 rt) epoch then
    .raise (reflexAuthorityErr "activation grant has an effective authenticated revocation")
  else
    ReflexRuntimeControlPlane.activate rt request grantId epoch leaseUntilEpoch

def collapseIfTargetActive (rt : ReflexRuntime) (targetGrantSha256 reason : String) (epoch : ℕ) :
    ReflexProg (Option ReflexDeactivation) := do
  let status ← ReflexRuntimeControlPlane.status rt epoch
  match activeActivation status with
  | some activation =>
      if activation.activatedByGrantSha256 = targetGrantSha256 then do
        let deactivation ← ReflexRuntimeControlPlane.deactivate rt reason epoch
        return some deactivation
      else return none
  | none => return none

/-- The end of `ingest_revocation`, with the revocation on file. -/
def concludeRevocation (rt : ReflexRuntime) (revocation : ReflexGrantRevocation) (epoch : ℕ)
    (present : Bool) : ReflexProg (ReflexIngest ReflexGrantRevocation) := do
  if revocation.effectiveEpoch ≤ epoch then
    let _ ← collapseIfTargetActive rt revocation.targetGrantSha256 "authenticated_grant_revoked" epoch
  let receipt := authorityReceipt rt "GRANT_REVOCATION_INGESTED"
    (if revocation.effectiveEpoch ≤ epoch then "authenticated_revocation_effective"
      else "authenticated_future_revocation_persisted")
    epoch revocation.issuerId revocation.keyId revocation.targetGrantSha256
    revocation.envelopeSha256 true false
  ReflexRuntimeControlPlane.appendAuditReceipt rt "revocation" epoch receipt
  return ⟨present, revocation, receipt⟩

def ingestRevocation (rt : ReflexRuntime) (payload : Row) (epoch : ℕ)
    (expectedControlSha256 : Option String) : ReflexProg (ReflexIngest ReflexGrantRevocation) := do
  assertControlSha rt expectedControlSha256 epoch
  let revocation ← .ofExcept (grantRevocationFromPayload rt payload)
  verifyRevocation rt revocation
  match ← findSignedGrantBySha rt revocation.targetGrantSha256 with
  | none => .raise (reflexAuthorityErr "revocation targets an unknown authenticated grant")
  | some signedGrant => do
      .ofExcept (raiseIf (signedGrant.issuerId ≠ revocation.issuerId)
        (reflexAuthorityErr "revocation issuer does not match grant issuer"))
      let name ← .ofExcept (authorityId revocation.revocationId)
      match ← ReflexProg.load .revocations (name ++ ".json") with
      | some existing => do
          .ofExcept (raiseIf (existing.envelopeSha256 ≠ revocation.envelopeSha256)
            (reflexAuthorityErr "revocation_id already exists with different contents"))
          concludeRevocation rt revocation epoch true
      | none => do
          ReflexProg.store .revocations (name ++ ".json") revocation
          concludeRevocation rt revocation epoch false

/-- `evaluate_active`: a deactivation instead of a report where an authority check failed. -/
def evaluateActive (rt : ReflexRuntime) (input : ReflexInput) (epoch : ℕ) :
    ReflexProg (Option ReflexRoutingInfluenceSignal ×
      (ReflexDeactivation ⊕ ReflexEvaluationReport)) := do
  match ← enforceActiveAuthority rt epoch with
  | some enforcement => return (none, .inl enforcement)
  | none => do
      let (signal, report) ← ReflexRuntimeControlPlane.evaluateActive rt input epoch
      return (signal, .inr report)

def deactivate (rt : ReflexRuntime) (reason : String) (epoch : ℕ) : ReflexProg ReflexDeactivation :=
  ReflexRuntimeControlPlane.deactivate rt reason epoch

end ReflexAuthorityPlane

end PhiOS
