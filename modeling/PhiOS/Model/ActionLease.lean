import PhiOS.Model.Authority
import PhiOS.Model.Effects

/-!
# Effect intents, enforcement profiles and action leases

`effect_intent.py`, `enforcement_profile.py` and `action_lease.py`: what an action is meant to
cause, which rules enforce that, and the single-use lease that is issued for both under one
authority epoch.
-/

set_option autoImplicit false

namespace PhiOS

def effectIntentSchemaVersion : String := "phios.effect_intent.v0.1"
def enforcementProfileSchemaVersion : String := "phios.enforcement_profile.v0.1"
def enforcementRuleSchemaVersion : String := "phios.enforcement_rule.v0.1"
def actionLeaseSchemaVersion : String := "phios.action_lease.v0.1"
def actionLeaseEvaluationSchemaVersion : String := "phios.action_lease_evaluation.v0.1"

/-! ## Effect intents -/

structure EffectIntent where
  capabilityId : String
  capabilityVersion : String
  payloadSha256 : String
  declaredAt : String
  effectsDeclared : List String
  evidenceRefSha256s : List String := []
  effectPerformed : Bool := false
  operationalAuthority : Bool := false
  actionAuthority : Bool := false
  executionAuthority : Bool := false
  schemaVersion : String := effectIntentSchemaVersion
  deriving DecidableEq

def EffectIntent.bodyDict (intent : EffectIntent) : Json :=
  .obj [("schema_version", .str intent.schemaVersion),
    ("capability_id", .str intent.capabilityId),
    ("capability_version", .str intent.capabilityVersion),
    ("payload_sha256", .str intent.payloadSha256), ("declared_at", .str intent.declaredAt),
    ("effects_declared", .strs intent.effectsDeclared),
    ("active_effects", .strs (intent.effectsDeclared.filter fun e => activeEffects.contains e)),
    ("evidence_ref_sha256s", .strs intent.evidenceRefSha256s),
    ("effect_performed", .bool intent.effectPerformed),
    ("operational_authority", .bool intent.operationalAuthority),
    ("action_authority", .bool intent.actionAuthority),
    ("execution_authority", .bool intent.executionAuthority)]

def EffectIntent.effectIntentSha256 (sha256 : Json → String) (intent : EffectIntent) : String :=
  sha256 intent.bodyDict

/-! ## Enforcement profiles -/

structure EnforcementRule where
  ruleId : String
  effectScope : List String
  constraint : String
  layer : String
  boundary : String
  status : String
  mechanism : String
  evidenceRefSha256s : List String := []
  effectPerformed : Bool := false
  operationalAuthority : Bool := false
  actionAuthority : Bool := false
  executionAuthority : Bool := false
  schemaVersion : String := enforcementRuleSchemaVersion
  deriving DecidableEq

/-- The fields of `EnforcementRule.body_dict`. -/
def EnforcementRule.bodyFields (rule : EnforcementRule) : List (String × Json) :=
  [("schema_version", .str rule.schemaVersion), ("rule_id", .str rule.ruleId),
    ("effect_scope", .strs rule.effectScope), ("constraint", .str rule.constraint),
    ("layer", .str rule.layer), ("boundary", .str rule.boundary), ("status", .str rule.status),
    ("mechanism", .str rule.mechanism), ("evidence_ref_sha256s", .strs rule.evidenceRefSha256s),
    ("effect_performed", .bool rule.effectPerformed),
    ("operational_authority", .bool rule.operationalAuthority),
    ("action_authority", .bool rule.actionAuthority),
    ("execution_authority", .bool rule.executionAuthority)]

def EnforcementRule.toDict (sha256 : Json → String) (rule : EnforcementRule) : Json :=
  .obj (rule.bodyFields ++ [("rule_sha256", .str (sha256 (.obj rule.bodyFields)))])

structure EnforcementProfile where
  effectIntentSha256 : String
  effectsDeclared : List String
  rules : List EnforcementRule := []
  effectPerformed : Bool := false
  operationalAuthority : Bool := false
  actionAuthority : Bool := false
  executionAuthority : Bool := false
  schemaVersion : String := enforcementProfileSchemaVersion
  deriving DecidableEq

namespace EnforcementProfile

def mappedEffects (profile : EnforcementProfile) : List String :=
  sortedSet (profile.rules.flatMap (·.effectScope))

def unmappedEffects (profile : EnforcementProfile) : List String :=
  if profile.effectsDeclared = ["none"] then []
  else profile.effectsDeclared.filter fun effect => !profile.mappedEffects.contains effect

def effectsWithEnforcedRule (profile : EnforcementProfile) : List String :=
  sortedSet ((profile.rules.filter (·.status = "enforced")).flatMap (·.effectScope))

def effectsWithoutEnforcedRule (profile : EnforcementProfile) : List String :=
  if profile.effectsDeclared = ["none"] then []
  else profile.effectsDeclared.filter fun effect => !profile.effectsWithEnforcedRule.contains effect

def mappingComplete (profile : EnforcementProfile) : Bool := profile.unmappedEffects.isEmpty

def profileStatus (profile : EnforcementProfile) : String :=
  if profile.effectsDeclared = ["none"] then "no_effects"
  else if !profile.unmappedEffects.isEmpty then "mapping_gaps"
  else "mapped"

def bodyDict (sha256 : Json → String) (profile : EnforcementProfile) : Json :=
  .obj [("schema_version", .str profile.schemaVersion),
    ("effect_intent_sha256", .str profile.effectIntentSha256),
    ("effects_declared", .strs profile.effectsDeclared),
    ("rules", .arr (profile.rules.map (·.toDict sha256))),
    ("mapped_effects", .strs profile.mappedEffects),
    ("unmapped_effects", .strs profile.unmappedEffects),
    ("effects_with_enforced_rule", .strs profile.effectsWithEnforcedRule),
    ("effects_without_enforced_rule", .strs profile.effectsWithoutEnforcedRule),
    ("mapping_complete", .bool profile.mappingComplete),
    ("profile_status", .str profile.profileStatus),
    ("effect_performed", .bool profile.effectPerformed),
    ("operational_authority", .bool profile.operationalAuthority),
    ("action_authority", .bool profile.actionAuthority),
    ("execution_authority", .bool profile.executionAuthority)]

def profileSha256 (sha256 : Json → String) (profile : EnforcementProfile) : String :=
  sha256 (profile.bodyDict sha256)

/-- `EnforcementProfileContractError(message)`. -/
def err (message : String) : PyError := ⟨.enforcementProfileContractError, message, []⟩

def postInit (profile : EnforcementProfile) : Except PyError Unit := do
  raiseIf (profile.schemaVersion ≠ enforcementProfileSchemaVersion)
    (err s!"unsupported enforcement profile schema: {profile.schemaVersion}")
  let _ ← requireSha256 .enforcementProfileContractError profile.effectIntentSha256
    "effect_intent_sha256"
  let normalized ← (normalizeEffects profile.effectsDeclared "profile effects_declared" false).mapError
    fun e => err e.message
  raiseIf (normalized ≠ profile.effectsDeclared)
    (err "effects_declared must be sorted, unique, and canonical")
  raiseIf (profile.rules.insertionSort (fun a b => a.ruleId ≤ b.ruleId) ≠ profile.rules)
    (err "enforcement rules must be sorted by rule_id")
  let ruleIds : List String := profile.rules.map (·.ruleId)
  raiseIf (¬ ruleIds.Nodup) (err "enforcement rule IDs must be unique")
  raiseIf ("none" ∈ profile.effectsDeclared ∧ profile.rules ≠ [])
    (err "none EffectIntent cannot carry enforcement rules")
  raiseIf (∃ rule ∈ profile.rules, ¬ rule.effectScope ⊆ profile.effectsDeclared)
    (err "enforcement rule references effects outside EffectIntent")
  raiseIf (profile.effectPerformed = true)
    (err "enforcement profile cannot claim an effect was performed")
  raiseIf (profile.operationalAuthority ∨ profile.actionAuthority ∨ profile.executionAuthority)
    (err "enforcement profile cannot carry authority")

def build (sha256 : Json → String) (intent : EffectIntent) (rules : List EnforcementRule) :
    Except PyError EnforcementProfile := do
  let profile : EnforcementProfile := {
    effectIntentSha256 := intent.effectIntentSha256 sha256
    effectsDeclared := intent.effectsDeclared
    rules := rules.insertionSort fun a b => a.ruleId ≤ b.ruleId }
  profile.postInit
  return profile

end EnforcementProfile

/-! ## Action leases -/

structure ActionLease where
  principalId : String
  issuerId : String
  authorizationReceiptSha256 : String
  effectIntentSha256 : String
  enforcementProfileSha256 : String
  authorityEpochSha256 : String
  capabilityId : String
  capabilityVersion : String
  payloadSha256 : String
  effectsDeclared : List String
  permissionsAuthorized : List String
  acceptedUnenforcedEffects : List String
  issuedAt : String
  validFrom : String
  validUntil : String
  maxUses : ℤ := 1
  effectPerformed : Bool := false
  operationalAuthority : Bool := false
  actionAuthority : Bool := true
  executionAuthority : Bool := false
  schemaVersion : String := actionLeaseSchemaVersion
  deriving DecidableEq

namespace ActionLease

variable (iso : Iso8601) (sha256 : Json → String)

/-- `ActionLeaseContractError(message)`. -/
def err (message : String) : PyError := ⟨.actionLeaseContractError, message, []⟩

def bodyDict (lease : ActionLease) : Json :=
  .obj [("schema_version", .str lease.schemaVersion), ("principal_id", .str lease.principalId),
    ("issuer_id", .str lease.issuerId),
    ("authorization_receipt_sha256", .str lease.authorizationReceiptSha256),
    ("effect_intent_sha256", .str lease.effectIntentSha256),
    ("enforcement_profile_sha256", .str lease.enforcementProfileSha256),
    ("authority_epoch_sha256", .str lease.authorityEpochSha256),
    ("capability_id", .str lease.capabilityId),
    ("capability_version", .str lease.capabilityVersion),
    ("payload_sha256", .str lease.payloadSha256),
    ("effects_declared", .strs lease.effectsDeclared),
    ("permissions_authorized", .strs lease.permissionsAuthorized),
    ("accepted_unenforced_effects", .strs lease.acceptedUnenforcedEffects),
    ("issued_at", .str lease.issuedAt), ("valid_from", .str lease.validFrom),
    ("valid_until", .str lease.validUntil), ("max_uses", .int lease.maxUses),
    ("effect_performed", .bool lease.effectPerformed),
    ("operational_authority", .bool lease.operationalAuthority),
    ("action_authority", .bool lease.actionAuthority),
    ("execution_authority", .bool lease.executionAuthority)]

def actionLeaseSha256 (lease : ActionLease) : String := sha256 lease.bodyDict

/-- The checks `__post_init__` makes on everything but the times and the flags. -/
def checkScope (lease : ActionLease) : Except PyError Unit := do
  let cls := ErrorClass.actionLeaseContractError
  raiseIf (lease.schemaVersion ≠ actionLeaseSchemaVersion)
    (err s!"unsupported ActionLease schema: {lease.schemaVersion}")
  let _ ← requireText cls 256 lease.principalId "principal_id"
  let _ ← requireText cls 256 lease.issuerId "issuer_id"
  let _ ← requireSha256 cls lease.authorizationReceiptSha256 "authorization_receipt_sha256"
  let _ ← requireSha256 cls lease.effectIntentSha256 "effect_intent_sha256"
  let _ ← requireSha256 cls lease.enforcementProfileSha256 "enforcement_profile_sha256"
  let _ ← requireSha256 cls lease.authorityEpochSha256 "authority_epoch_sha256"
  let _ ← requireSha256 cls lease.payloadSha256 "payload_sha256"
  let _ ← requireText cls 256 lease.capabilityId "capability_id"
  let _ ← requireText cls 128 lease.capabilityVersion "capability_version"
  let _ ← canonicalTextTuple cls lease.effectsDeclared "effects_declared"
  let normalizedEffects ←
    (normalizeEffects lease.effectsDeclared "lease effects_declared" false).mapError
      fun e => err e.message
  raiseIf (normalizedEffects ≠ lease.effectsDeclared)
    (err "effects_declared must be canonical PhiOS effects")
  raiseIf ("unknown" ∈ lease.effectsDeclared) (err "ActionLease cannot authorize unknown effects")
  raiseIf (lease.effectsDeclared = ["none"])
    (err "ActionLease cannot authorize a none EffectIntent")
  let _ ← canonicalTextTuple cls lease.permissionsAuthorized "permissions_authorized"
  raiseIf (lease.permissionsAuthorized = []) (err "permissions_authorized must not be empty")
  let _ ← canonicalTextTuple cls lease.acceptedUnenforcedEffects "accepted_unenforced_effects"
  raiseIf (¬ lease.acceptedUnenforcedEffects ⊆ lease.effectsDeclared)
    (err "accepted_unenforced_effects must be a subset of effects_declared")

/-- The checks `__post_init__` makes on the three times. -/
def checkWindow (lease : ActionLease) : Except PyError Unit := do
  let cls := ErrorClass.actionLeaseContractError
  let issued ← parseTime iso cls lease.issuedAt "issued_at"
  let validFrom ← parseTime iso cls lease.validFrom "valid_from"
  let validUntil ← parseTime iso cls lease.validUntil "valid_until"
  raiseIf (lease.issuedAt ≠ iso.isoformat issued)
    (err "issued_at must use canonical UTC ISO-8601 form")
  raiseIf (lease.validFrom ≠ iso.isoformat validFrom)
    (err "valid_from must use canonical UTC ISO-8601 form")
  raiseIf (lease.validUntil ≠ iso.isoformat validUntil)
    (err "valid_until must use canonical UTC ISO-8601 form")
  raiseIf (validFrom < issued) (err "valid_from cannot be earlier than issued_at")
  raiseIf (validUntil ≤ validFrom) (err "valid_until must be later than valid_from")

/-- The checks `__post_init__` makes on the use count and the flags. -/
def checkFlags (lease : ActionLease) : Except PyError Unit := do
  raiseIf (lease.maxUses ≠ 1)
    (err "ActionLease v0.1 is single-use and requires max_uses = 1")
  raiseIf (lease.effectPerformed = true) (err "ActionLease cannot claim an effect was performed")
  raiseIf (lease.operationalAuthority = true)
    (err "ActionLease cannot carry broad operational authority")
  raiseIf (lease.actionAuthority = false)
    (err "ActionLease must carry its bounded action authority")
  raiseIf (lease.executionAuthority = true) (err "ActionLease cannot carry execution authority")

def postInit (lease : ActionLease) : Except PyError Unit := do
  lease.checkScope
  lease.checkWindow iso
  lease.checkFlags

/-- The check of a lease's end against the epoch's next known transition. -/
def checkTransition (epoch : AuthorityEpoch) (ends : String) : Except PyError Unit := do
  let cls := ErrorClass.actionLeaseContractError
  match epoch.nextKnownTransitionAt with
  | none => pure ()
  | some transitionAt =>
      let transition ← parseTime iso cls transitionAt "AuthorityEpoch next_known_transition_at"
      let validUntil ← parseTime iso cls ends "valid_until"
      raiseIf (transition < validUntil)
        (err "lease cannot extend beyond the next known authority transition")

def issue (principalId issuerId authorizationReceiptSha256 : String) (intent : EffectIntent)
    (enforcement : EnforcementProfile) (authorityEpoch : AuthorityEpoch)
    (permissionsAuthorized acceptedUnenforcedEffects : List String)
    (issuedAt validFrom validUntil : String) : Except PyError ActionLease := do
  let cls := ErrorClass.actionLeaseContractError
  let principal ← requireText cls 256 principalId "principal_id"
  raiseIf (principal ≠ authorityEpoch.principalId)
    (err "lease principal does not match AuthorityEpoch principal")
  let issuer ← requireText cls 256 issuerId "issuer_id"
  let authorizationReceipt ←
    requireSha256 cls authorizationReceiptSha256 "authorization_receipt_sha256"
  raiseIf (intent.effectsDeclared = ["none"])
    (err "ActionLease cannot authorize a none EffectIntent")
  raiseIf (enforcement.effectIntentSha256 ≠ intent.effectIntentSha256 sha256)
    (err "EnforcementProfile does not bind the supplied EffectIntent")
  raiseIf (¬ enforcement.mappingComplete) (err "cannot issue ActionLease with unmapped effects")
  let expectedUnenforced := enforcement.effectsWithoutEnforcedRule.insertionSort (· ≤ ·)
  let acceptedUnenforced := sortedSet acceptedUnenforcedEffects
  raiseIf (acceptedUnenforced ≠ expectedUnenforced)
    (err ("accepted_unenforced_effects must exactly acknowledge " ++
      "effects without an enforced rule"))
  let permissions := sortedSet permissionsAuthorized
  raiseIf (permissions = []) (err "permissions_authorized must not be empty")
  raiseIf (¬ permissions ⊆ authorityEpoch.grants)
    (err "lease permissions exceed AuthorityEpoch grants")
  let issued ← canonicalTime iso cls issuedAt "issued_at"
  let starts ← canonicalTime iso cls validFrom "valid_from"
  let ends ← canonicalTime iso cls validUntil "valid_until"
  let epochObserved ← parseTime iso cls authorityEpoch.observedAt "AuthorityEpoch observed_at"
  let issuedInstant ← parseTime iso cls issued "issued_at"
  raiseIf (issuedInstant < epochObserved)
    (err "lease cannot be issued before its AuthorityEpoch observation")
  checkTransition iso authorityEpoch ends
  let lease : ActionLease := {
    principalId := principal
    issuerId := issuer
    authorizationReceiptSha256 := authorizationReceipt
    effectIntentSha256 := intent.effectIntentSha256 sha256
    enforcementProfileSha256 := enforcement.profileSha256 sha256
    authorityEpochSha256 := authorityEpoch.authorityEpochSha256 sha256
    capabilityId := intent.capabilityId
    capabilityVersion := intent.capabilityVersion
    payloadSha256 := intent.payloadSha256
    effectsDeclared := intent.effectsDeclared
    permissionsAuthorized := permissions
    acceptedUnenforcedEffects := acceptedUnenforced
    issuedAt := issued
    validFrom := starts
    validUntil := ends }
  lease.postInit iso
  return lease

end ActionLease

structure ActionLeaseEvaluation where
  leaseSha256 : String
  checkedAt : String
  currentAuthorityEpochSha256 : String
  usesConsumed : ℕ
  usable : Bool
  reason : String
  actionAuthority : Bool
  deriving DecidableEq

def evaluateActionLease (iso : Iso8601) (sha256 : Json → String) (lease : ActionLease)
    (checkedAt currentAuthorityEpochSha256 : String) (usesConsumed : ℕ) :
    Except PyError ActionLeaseEvaluation := do
  let cls := ErrorClass.actionLeaseContractError
  let checked ← canonicalTime iso cls checkedAt "checked_at"
  let currentEpoch ← requireSha256 cls currentAuthorityEpochSha256 "current_authority_epoch_sha256"
  let now ← parseTime iso cls checked "checked_at"
  let starts ← parseTime iso cls lease.validFrom "valid_from"
  let ends ← parseTime iso cls lease.validUntil "valid_until"
  let (usable, reason) :=
    if currentEpoch ≠ lease.authorityEpochSha256 then (false, "authority_epoch_changed")
    else if now < starts then (false, "lease_not_yet_valid")
    else if ends ≤ now then (false, "lease_expired")
    else if lease.maxUses ≤ usesConsumed then (false, "lease_consumed")
    else (true, "lease_current")
  let leaseSha256 ← requireSha256 cls (lease.actionLeaseSha256 sha256) "lease_sha256"
  return {
    leaseSha256
    checkedAt := checked
    currentAuthorityEpochSha256 := currentEpoch
    usesConsumed, usable, reason
    actionAuthority := usable }

end PhiOS
