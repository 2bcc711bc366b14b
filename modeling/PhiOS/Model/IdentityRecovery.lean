import PhiOS.Model.CanonicalJson

/-!
# Identity seals and recovery

`covenant/identity.py` and `covenant/recovery.py`: what a seal, an invariant set, an epoch-bound
identity and the two receipts check when they are constructed, and how `RecoveryEvaluator.assess`
compares two epochs. A record carries that its checks have passed.
-/

set_option autoImplicit false

namespace PhiOS

namespace Covenant

/-- `ValueError(message)`. -/
def err (message : String) : PyError := ⟨.valueError, message, []⟩

def requireText (value label : String) (maximum : ℕ) : Except PyError Unit := do
  let _ ← PhiOS.requireText .valueError maximum value label

def requireSha256 (value label : String) : Except PyError Unit := do
  let _ ← PhiOS.requireSha256 .valueError value label

def requireOptionalSha256 (value : Option String) (label : String) : Except PyError Unit :=
  match value with
  | none => .ok ()
  | some digest => requireSha256 digest label

def requireEpoch (value : ℤ) (label : String) : Except PyError Unit :=
  raiseIf (value < 0) (err (label ++ " must be a non-negative integer"))

/-! ## Seals -/

inductive IdentitySubjectKind
  | agent
  | app
  | tool
  | model
  | workflow
  | resource
  | capability
  deriving DecidableEq

def IdentitySubjectKind.value : IdentitySubjectKind → String
  | .agent => "agent"
  | .app => "app"
  | .tool => "tool"
  | .model => "model"
  | .workflow => "workflow"
  | .resource => "resource"
  | .capability => "capability"

/-- The fields of `IdentitySeal`. -/
structure SealFields where
  subjectId : String
  subjectKind : IdentitySubjectKind
  implementationSha256 : String
  manifestSha256 : String
  sourceSha256 : String
  issuerId : String
  issuerKeyId : String
  trustedIdentity : Bool := false
  actionAuthority : Bool := false
  executionAuthority : Bool := false
  schemaVersion : String := "phios.identity_seal.v0.1"

def SealFields.postInit (fields : SealFields) : Except PyError Unit := do
  raiseIf (fields.schemaVersion ≠ "phios.identity_seal.v0.1")
    (err ("Unsupported identity seal schema: " ++ fields.schemaVersion))
  requireText fields.subjectId "subject_id" 128
  requireSha256 fields.implementationSha256 "implementation_sha256"
  requireSha256 fields.manifestSha256 "manifest_sha256"
  requireSha256 fields.sourceSha256 "source_sha256"
  requireText fields.issuerId "issuer_id" 128
  requireText fields.issuerKeyId "issuer_key_id" 128
  raiseIf (fields.trustedIdentity ≠ false)
    (err "CR-01 IdentitySeal does not establish trusted identity")
  raiseIf (fields.actionAuthority ≠ false ∨ fields.executionAuthority ≠ false)
    (err "IdentitySeal cannot carry action or execution authority")

structure IdentitySeal extends SealFields where
  accepted : toSealFields.postInit = .ok ()

def SealFields.bodyDict (fields : SealFields) : Row :=
  [("schema_version", .str fields.schemaVersion), ("subject_id", .str fields.subjectId),
    ("subject_kind", .str fields.subjectKind.value),
    ("implementation_sha256", .str fields.implementationSha256),
    ("manifest_sha256", .str fields.manifestSha256), ("source_sha256", .str fields.sourceSha256),
    ("issuer_id", .str fields.issuerId), ("issuer_key_id", .str fields.issuerKeyId),
    ("trusted_identity", .bool fields.trustedIdentity),
    ("action_authority", .bool fields.actionAuthority),
    ("execution_authority", .bool fields.executionAuthority)]

/-! ## Invariant sets -/

inductive IdentityInvariantField
  | subjectId
  | subjectKind
  | implementationSha256
  | manifestSha256
  | sourceSha256
  | issuerId
  | issuerKeyId
  deriving DecidableEq

namespace IdentityInvariantField

def value : IdentityInvariantField → String
  | .subjectId => "subject_id"
  | .subjectKind => "subject_kind"
  | .implementationSha256 => "implementation_sha256"
  | .manifestSha256 => "manifest_sha256"
  | .sourceSha256 => "source_sha256"
  | .issuerId => "issuer_id"
  | .issuerKeyId => "issuer_key_id"

/-- The members of the enumeration. -/
def members : List IdentityInvariantField :=
  [.subjectId, .subjectKind, .implementationSha256, .manifestSha256, .sourceSha256, .issuerId,
    .issuerKeyId]

/-- `IdentityInvariantField(item)`, as a check. -/
def require (item : String) : Except PyError Unit :=
  raiseIf (item ∉ members.map value)
    (err ("'" ++ item ++ "' is not a valid IdentityInvariantField"))

def fieldValue (identitySeal : SealFields) : IdentityInvariantField → String
  | .subjectId => identitySeal.subjectId
  | .subjectKind => identitySeal.subjectKind.value
  | .implementationSha256 => identitySeal.implementationSha256
  | .manifestSha256 => identitySeal.manifestSha256
  | .sourceSha256 => identitySeal.sourceSha256
  | .issuerId => identitySeal.issuerId
  | .issuerKeyId => identitySeal.issuerKeyId

end IdentityInvariantField

/-- The fields of `IdentityInvariantSet`. -/
structure InvariantSetFields where
  invariantSetId : String
  version : String
  requiredFields : List IdentityInvariantField
  topologyIsIdentityEvidence : Bool := false
  actionAuthority : Bool := false
  executionAuthority : Bool := false
  schemaVersion : String := "phios.identity_invariant_set.v0.1"

def InvariantSetFields.postInit (fields : InvariantSetFields) : Except PyError Unit := do
  raiseIf (fields.schemaVersion ≠ "phios.identity_invariant_set.v0.1")
    (err ("Unsupported identity invariant schema: " ++ fields.schemaVersion))
  requireText fields.invariantSetId "invariant_set_id" 128
  requireText fields.version "version" 64
  raiseIf (fields.requiredFields = []) (err "required_fields must not be empty")
  let values := fields.requiredFields.map (·.value)
  raiseIf (values.insertionSort (· ≤ ·) ≠ values) (err "required_fields must be sorted")
  raiseIf (¬ values.Nodup) (err "required_fields must not contain duplicates")
  raiseIf (¬ (.subjectId ∈ fields.requiredFields ∧ .subjectKind ∈ fields.requiredFields))
    (err "identity invariant set must include subject_id and subject_kind")
  raiseIf (fields.topologyIsIdentityEvidence ≠ false)
    (err "topology cannot be used as identity evidence in this contract")
  raiseIf (fields.actionAuthority ≠ false ∨ fields.executionAuthority ≠ false)
    (err "identity invariant set cannot carry action or execution authority")

structure IdentityInvariantSet extends InvariantSetFields where
  accepted : toInvariantSetFields.postInit = .ok ()

def InvariantSetFields.bodyDict (fields : InvariantSetFields) : Row :=
  [("schema_version", .str fields.schemaVersion), ("invariant_set_id", .str fields.invariantSetId),
    ("version", .str fields.version),
    ("required_fields", .strs (fields.requiredFields.map (·.value))),
    ("topology_is_identity_evidence", .bool fields.topologyIsIdentityEvidence),
    ("action_authority", .bool fields.actionAuthority),
    ("execution_authority", .bool fields.executionAuthority)]

/-! ## Functional equivalence -/

inductive FunctionalEquivalenceStatus
  | equivalent
  | changed
  deriving DecidableEq

def FunctionalEquivalenceStatus.value : FunctionalEquivalenceStatus → String
  | .equivalent => "EQUIVALENT"
  | .changed => "CHANGED"

/-- The fields of `FunctionalEquivalenceReceipt`. -/
structure EquivalenceFields where
  status : FunctionalEquivalenceStatus
  invariantSetSha256 : String
  previousIdentitySealSha256 : String
  candidateIdentitySealSha256 : String
  requiredFields : List String
  matchedFields : List String
  mismatchedFields : List String
  topologyEvidenceUsed : Bool := false
  trustedIdentity : Bool := false
  actionAuthority : Bool := false
  executionAuthority : Bool := false
  schemaVersion : String := "phios.functional_equivalence_receipt.v0.1"

/-- The checks on one list of fields. -/
def requireFieldNames (label : String) (values : List String) : Except PyError Unit := do
  raiseIf (values.insertionSort (· ≤ ·) ≠ values) (err (label ++ " must be sorted"))
  raiseIf (¬ values.Nodup) (err (label ++ " must not contain duplicates"))
  values.forM IdentityInvariantField.require

def EquivalenceFields.postInit (fields : EquivalenceFields) : Except PyError Unit := do
  raiseIf (fields.schemaVersion ≠ "phios.functional_equivalence_receipt.v0.1")
    (err "unsupported functional equivalence receipt schema")
  requireSha256 fields.invariantSetSha256 "invariant_set_sha256"
  requireSha256 fields.previousIdentitySealSha256 "previous_identity_seal_sha256"
  requireSha256 fields.candidateIdentitySealSha256 "candidate_identity_seal_sha256"
  requireFieldNames "required_fields" fields.requiredFields
  requireFieldNames "matched_fields" fields.matchedFields
  requireFieldNames "mismatched_fields" fields.mismatchedFields
  raiseIf (∃ item ∈ fields.matchedFields, item ∈ fields.mismatchedFields)
    (err "matched_fields and mismatched_fields must not overlap")
  let covered := fields.matchedFields ++ fields.mismatchedFields
  raiseIf (¬ ((∀ item ∈ covered, item ∈ fields.requiredFields) ∧
      ∀ item ∈ fields.requiredFields, item ∈ covered))
    (err "matched_fields and mismatched_fields must cover required_fields exactly")
  if fields.status = .equivalent then
    raiseIf (fields.mismatchedFields ≠ [])
      (err "EQUIVALENT receipt cannot contain mismatched_fields")
  else
    raiseIf (fields.mismatchedFields = []) (err "CHANGED receipt requires mismatched_fields")
  raiseIf (fields.topologyEvidenceUsed ≠ false)
    (err "functional equivalence cannot use topology as identity evidence")
  raiseIf (fields.trustedIdentity ≠ false)
    (err "functional equivalence receipt cannot establish trusted identity")
  raiseIf (fields.actionAuthority ≠ false ∨ fields.executionAuthority ≠ false)
    (err "functional equivalence receipt cannot carry authority")

structure FunctionalEquivalenceReceipt extends EquivalenceFields where
  accepted : toEquivalenceFields.postInit = .ok ()

/-- The constructor of `FunctionalEquivalenceReceipt`. -/
def EquivalenceFields.construct (fields : EquivalenceFields) :
    Except PyError FunctionalEquivalenceReceipt :=
  match h : fields.postInit with
  | .ok () => .ok ⟨fields, h⟩
  | .error e => .error e

def EquivalenceFields.bodyDict (fields : EquivalenceFields) : Row :=
  [("schema_version", .str fields.schemaVersion), ("status", .str fields.status.value),
    ("invariant_set_sha256", .str fields.invariantSetSha256),
    ("previous_identity_seal_sha256", .str fields.previousIdentitySealSha256),
    ("candidate_identity_seal_sha256", .str fields.candidateIdentitySealSha256),
    ("required_fields", .strs fields.requiredFields), ("matched_fields", .strs fields.matchedFields),
    ("mismatched_fields", .strs fields.mismatchedFields),
    ("topology_evidence_used", .bool fields.topologyEvidenceUsed),
    ("trusted_identity", .bool fields.trustedIdentity),
    ("action_authority", .bool fields.actionAuthority),
    ("execution_authority", .bool fields.executionAuthority)]

/-! ## Epochs -/

/-- The fields of `EpochBoundIdentity`. -/
structure EpochFields where
  subjectId : String
  subjectKind : IdentitySubjectKind
  epoch : ℤ
  identitySealSha256 : String
  invariantSetSha256 : String
  topologySha256 : String
  recoveryStateSha256 : String
  previousEpochIdentitySha256 : Option String := none
  recoveryCheckpointSha256 : Option String := none
  trustedIdentity : Bool := false
  actionAuthority : Bool := false
  executionAuthority : Bool := false
  schemaVersion : String := "phios.epoch_bound_identity.v0.1"

def EpochFields.postInit (fields : EpochFields) : Except PyError Unit := do
  raiseIf (fields.schemaVersion ≠ "phios.epoch_bound_identity.v0.1")
    (err ("unsupported epoch-bound identity schema: " ++ fields.schemaVersion))
  requireText fields.subjectId "subject_id" 128
  requireEpoch fields.epoch "epoch"
  requireSha256 fields.identitySealSha256 "identity_seal_sha256"
  requireSha256 fields.invariantSetSha256 "invariant_set_sha256"
  requireSha256 fields.topologySha256 "topology_sha256"
  requireSha256 fields.recoveryStateSha256 "recovery_state_sha256"
  requireOptionalSha256 fields.previousEpochIdentitySha256 "previous_epoch_identity_sha256"
  requireOptionalSha256 fields.recoveryCheckpointSha256 "recovery_checkpoint_sha256"
  if fields.epoch = 0 then
    raiseIf (fields.previousEpochIdentitySha256 ≠ none ∨ fields.recoveryCheckpointSha256 ≠ none)
      (err "epoch 0 cannot claim a prior epoch or recovery checkpoint")
  else do
    raiseIf (fields.previousEpochIdentitySha256 = none)
      (err "recovered epoch requires previous_epoch_identity_sha256")
    raiseIf (fields.recoveryCheckpointSha256 = none)
      (err "recovered epoch requires recovery_checkpoint_sha256")
  raiseIf (fields.trustedIdentity ≠ false)
    (err "epoch-bound identity cannot establish trusted identity")
  raiseIf (fields.actionAuthority ≠ false ∨ fields.executionAuthority ≠ false)
    (err "epoch-bound identity cannot carry authority")

structure EpochBoundIdentity extends EpochFields where
  accepted : toEpochFields.postInit = .ok ()

def EpochFields.bodyDict (fields : EpochFields) : Row :=
  [("schema_version", .str fields.schemaVersion), ("subject_id", .str fields.subjectId),
    ("subject_kind", .str fields.subjectKind.value), ("epoch", .int fields.epoch),
    ("identity_seal_sha256", .str fields.identitySealSha256),
    ("invariant_set_sha256", .str fields.invariantSetSha256),
    ("topology_sha256", .str fields.topologySha256),
    ("recovery_state_sha256", .str fields.recoveryStateSha256),
    ("previous_epoch_identity_sha256", .optStr fields.previousEpochIdentitySha256),
    ("recovery_checkpoint_sha256", .optStr fields.recoveryCheckpointSha256),
    ("trusted_identity", .bool fields.trustedIdentity),
    ("action_authority", .bool fields.actionAuthority),
    ("execution_authority", .bool fields.executionAuthority)]

/-! ## Recovery receipts -/

inductive RecoveryStatus
  | recovered
  | blocked
  deriving DecidableEq

/-- The fields of `RecoveryPathReceipt`. -/
structure RecoveryPathFields where
  status : RecoveryStatus
  previousEpochIdentitySha256 : String
  recoveredEpochIdentitySha256 : String
  functionalEquivalenceReceiptSha256 : String
  recoveryCheckpointSha256 : String
  previousEpoch : ℤ
  recoveredEpoch : ℤ
  previousTopologySha256 : String
  recoveredTopologySha256 : String
  previousStateSha256 : String
  recoveredStateSha256 : String
  topologyChanged : Bool
  sealBindingsValid : Bool
  invariantSetBound : Bool
  subjectBindingsValid : Bool
  epochChainLinked : Bool
  checkpointBound : Bool
  epochAdvanced : Bool
  identityEquivalent : Bool
  stateRecoveredExactly : Bool
  reason : String
  authorityInherited : Bool := false
  authorityRevalidationRequired : Bool := true
  trustedIdentity : Bool := false
  actionAuthority : Bool := false
  executionAuthority : Bool := false
  schemaVersion : String := "phios.recovery_path_receipt.v0.1"

/-- The digests that are checked, with their labels. -/
def RecoveryPathFields.digests (fields : RecoveryPathFields) : List (String × String) :=
  [("previous_epoch_identity_sha256", fields.previousEpochIdentitySha256),
    ("recovered_epoch_identity_sha256", fields.recoveredEpochIdentitySha256),
    ("functional_equivalence_receipt_sha256", fields.functionalEquivalenceReceiptSha256),
    ("recovery_checkpoint_sha256", fields.recoveryCheckpointSha256),
    ("previous_topology_sha256", fields.previousTopologySha256),
    ("recovered_topology_sha256", fields.recoveredTopologySha256),
    ("previous_state_sha256", fields.previousStateSha256),
    ("recovered_state_sha256", fields.recoveredStateSha256)]

def RecoveryPathFields.success (fields : RecoveryPathFields) : Bool :=
  fields.sealBindingsValid && fields.invariantSetBound && fields.subjectBindingsValid &&
    fields.epochChainLinked && fields.checkpointBound && fields.epochAdvanced &&
    fields.identityEquivalent && fields.stateRecoveredExactly

def RecoveryPathFields.postInit (fields : RecoveryPathFields) : Except PyError Unit := do
  raiseIf (fields.schemaVersion ≠ "phios.recovery_path_receipt.v0.1")
    (err "unsupported recovery path receipt schema")
  fields.digests.forM fun (label, digest) => requireSha256 digest label
  requireEpoch fields.previousEpoch "previous_epoch"
  requireEpoch fields.recoveredEpoch "recovered_epoch"
  requireText fields.reason "reason" 512
  raiseIf (fields.topologyChanged ≠
      decide (fields.previousTopologySha256 ≠ fields.recoveredTopologySha256))
    (err "topology_changed does not match topology digests")
  raiseIf (fields.epochAdvanced ≠ decide (fields.recoveredEpoch = fields.previousEpoch + 1))
    (err "epoch_advanced does not match epoch values")
  raiseIf (fields.stateRecoveredExactly ≠
      decide (fields.previousStateSha256 = fields.recoveredStateSha256))
    (err "state_recovered_exactly does not match recovery-state digests")
  raiseIf (fields.status = .recovered ∧ fields.success = false)
    (err "RECOVERED requires exact epoch, identity, and state continuity")
  raiseIf (fields.status = .blocked ∧ fields.success = true)
    (err "BLOCKED cannot claim all recovery requirements satisfied")
  raiseIf (fields.authorityInherited ≠ false)
    (err "recovery cannot inherit authority across epochs")
  raiseIf (fields.authorityRevalidationRequired ≠ true)
    (err "recovery must require downstream authority revalidation")
  raiseIf (fields.trustedIdentity ≠ false)
    (err "recovery receipt cannot establish trusted identity")
  raiseIf (fields.actionAuthority ≠ false ∨ fields.executionAuthority ≠ false)
    (err "recovery receipt cannot carry authority")

structure RecoveryPathReceipt extends RecoveryPathFields where
  accepted : toRecoveryPathFields.postInit = .ok ()

/-- The constructor of `RecoveryPathReceipt`. -/
def RecoveryPathFields.construct (fields : RecoveryPathFields) : Except PyError RecoveryPathReceipt :=
  match h : fields.postInit with
  | .ok () => .ok ⟨fields, h⟩
  | .error e => .error e

/-! ## The evaluator -/

section

variable (sha256 : Json → String)

/-- `sha256` of a seal. -/
def SealFields.sealSha256 (fields : SealFields) : String := sha256 (.obj fields.bodyDict)

/-- `sha256` of an invariant set. -/
def InvariantSetFields.setSha256 (fields : InvariantSetFields) : String :=
  sha256 (.obj fields.bodyDict)

/-- `sha256` of an epoch-bound identity. -/
def EpochFields.epochSha256 (fields : EpochFields) : String := sha256 (.obj fields.bodyDict)

/-- `sha256` of an equivalence receipt. -/
def EquivalenceFields.equivalenceSha256 (fields : EquivalenceFields) : String :=
  sha256 (.obj fields.bodyDict)

/-- The names of the required fields in which two seals agree, or of those in which they differ. -/
def comparedFields (previous candidate : SealFields) (invariantSet : InvariantSetFields)
    (agree : Bool) : List String :=
  (invariantSet.requiredFields.filter fun field =>
    decide (field.fieldValue previous = field.fieldValue candidate) = agree).map (·.value)

/-- The fields of the receipt of `evaluate_functional_equivalence`. -/
def equivalenceFields (previous candidate : IdentitySeal) (invariantSet : IdentityInvariantSet) :
    EquivalenceFields :=
  let compared :=
    comparedFields previous.toSealFields candidate.toSealFields invariantSet.toInvariantSetFields
  let matched := compared true
  let mismatched := compared false
  { status := if mismatched = [] then .equivalent else .changed
    invariantSetSha256 := invariantSet.setSha256 sha256
    previousIdentitySealSha256 := previous.sealSha256 sha256
    candidateIdentitySealSha256 := candidate.sealSha256 sha256
    requiredFields := (invariantSet.requiredFields.map (·.value)).insertionSort (· ≤ ·)
    matchedFields := matched.insertionSort (· ≤ ·)
    mismatchedFields := mismatched.insertionSort (· ≤ ·) }

def evaluateFunctionalEquivalence (previous candidate : IdentitySeal)
    (invariantSet : IdentityInvariantSet) : Except PyError FunctionalEquivalenceReceipt :=
  (equivalenceFields sha256 previous candidate invariantSet).construct

/-- The fields of the receipt of `assess`. -/
def recoveryFields (invariantSet : IdentityInvariantSet)
    (previousIdentity recoveredIdentity : EpochBoundIdentity)
    (previousSeal recoveredSeal : IdentitySeal) (checkpoint : String)
    (equivalence : FunctionalEquivalenceReceipt) : RecoveryPathFields :=
  let identityEquivalent := equivalence.status = .equivalent
  let epochAdvanced := recoveredIdentity.epoch = previousIdentity.epoch + 1
  let stateExact := previousIdentity.recoveryStateSha256 = recoveredIdentity.recoveryStateSha256
  let topologyChanged := previousIdentity.topologySha256 ≠ recoveredIdentity.topologySha256
  let sealBindingsValid := previousIdentity.identitySealSha256 = previousSeal.sealSha256 sha256 ∧
    recoveredIdentity.identitySealSha256 = recoveredSeal.sealSha256 sha256
  let invariantSetBound := previousIdentity.invariantSetSha256 = invariantSet.setSha256 sha256 ∧
    recoveredIdentity.invariantSetSha256 = invariantSet.setSha256 sha256
  let subjectBindingsValid := previousIdentity.subjectId = previousSeal.subjectId ∧
    recoveredIdentity.subjectId = recoveredSeal.subjectId ∧
    previousIdentity.subjectKind = previousSeal.subjectKind ∧
    recoveredIdentity.subjectKind = recoveredSeal.subjectKind
  let epochChainLinked := recoveredIdentity.previousEpochIdentitySha256 =
    some (previousIdentity.epochSha256 sha256)
  let checkpointBound := recoveredIdentity.recoveryCheckpointSha256 = some checkpoint
  let reason :=
    if ¬ sealBindingsValid then "identity_seal_binding_mismatch"
    else if ¬ invariantSetBound then "identity_invariant_set_mismatch"
    else if ¬ subjectBindingsValid then "subject_identity_binding_mismatch"
    else if ¬ epochChainLinked then "recovery_epoch_chain_mismatch"
    else if ¬ checkpointBound then "recovery_checkpoint_mismatch"
    else if ¬ epochAdvanced then "recovery_epoch_not_exactly_next"
    else if ¬ identityEquivalent then "identity_invariants_changed"
    else if ¬ stateExact then "recovery_state_digest_changed"
    else "recovery_requirements_satisfied"
  { status := if reason = "recovery_requirements_satisfied" then .recovered else .blocked
    previousEpochIdentitySha256 := previousIdentity.epochSha256 sha256
    recoveredEpochIdentitySha256 := recoveredIdentity.epochSha256 sha256
    functionalEquivalenceReceiptSha256 := equivalence.equivalenceSha256 sha256
    recoveryCheckpointSha256 := checkpoint
    previousEpoch := previousIdentity.epoch
    recoveredEpoch := recoveredIdentity.epoch
    previousTopologySha256 := previousIdentity.topologySha256
    recoveredTopologySha256 := recoveredIdentity.topologySha256
    previousStateSha256 := previousIdentity.recoveryStateSha256
    recoveredStateSha256 := recoveredIdentity.recoveryStateSha256
    topologyChanged := topologyChanged
    sealBindingsValid := sealBindingsValid
    invariantSetBound := invariantSetBound
    subjectBindingsValid := subjectBindingsValid
    epochChainLinked := epochChainLinked
    checkpointBound := checkpointBound
    epochAdvanced := epochAdvanced
    identityEquivalent := identityEquivalent
    stateRecoveredExactly := stateExact
    reason := reason }

def assess (invariantSet : IdentityInvariantSet)
    (previousIdentity recoveredIdentity : EpochBoundIdentity)
    (previousSeal recoveredSeal : IdentitySeal) (recoveryCheckpointSha256 : String) :
    Except PyError (FunctionalEquivalenceReceipt × RecoveryPathReceipt) := do
  requireSha256 recoveryCheckpointSha256 "recovery_checkpoint_sha256"
  let equivalence ← evaluateFunctionalEquivalence sha256 previousSeal recoveredSeal invariantSet
  let receipt ← (recoveryFields sha256 invariantSet previousIdentity recoveredIdentity previousSeal
    recoveredSeal recoveryCheckpointSha256 equivalence).construct
  return (equivalence, receipt)

end

end Covenant

end PhiOS
