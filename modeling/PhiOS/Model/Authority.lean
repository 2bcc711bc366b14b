import PhiOS.Model.Value
import Mathlib.Data.List.AList

/-!
# Authority events, their projection, and authority epochs

`mandala/authority_projection.py` and `authority_epoch.py`. A history of grant and revoke
events is replayed up to an observation time: the projection keeps the last grant of each
permission and drops those that have expired. An epoch records one projection together with
the next instant at which the replay could change.
-/

set_option autoImplicit false

namespace PhiOS

inductive AuthorityEventKind
  | grant
  | revoke
  deriving DecidableEq

/-- The value of the enumeration member. -/
def AuthorityEventKind.value : AuthorityEventKind → String
  | .grant => "grant"
  | .revoke => "revoke"

structure AuthoritativeAuthorityEvent where
  eventId : String
  sequence : ℕ
  kind : AuthorityEventKind
  permission : String
  authoritySource : String
  effectiveAt : String
  expiresAt : Option String := none
  deriving DecidableEq

def requireNonempty (value label : String) : Except PyError String := do
  raiseIf (strip value = "")
    ⟨.authorityProjectionError, label ++ " must be a non-empty string", []⟩
  return strip value

def utc (iso : Iso8601) (value label : String) : Except PyError ℤ :=
  match iso.fromisoformat value with
  | none => .error ⟨.authorityProjectionError, label ++ " must be an ISO-8601 timestamp", []⟩
  | some .naive => .error ⟨.authorityProjectionError, label ++ " must be timezone-aware", []⟩
  | some (.aware t) => .ok t

namespace AuthoritativeAuthorityEvent

/-- `__post_init__`; the kind and the sign of the sequence are right by their types. -/
def postInit (iso : Iso8601) (event : AuthoritativeAuthorityEvent) : Except PyError Unit := do
  let _ ← requireNonempty event.eventId "event_id"
  let _ ← requireNonempty event.permission "permission"
  let _ ← requireNonempty event.authoritySource "authority_source"
  let effective ← utc iso event.effectiveAt "effective_at"
  raiseIf (event.kind = .revoke ∧ event.expiresAt ≠ none)
    ⟨.authorityProjectionError, "revoke events cannot carry expires_at", []⟩
  match event.expiresAt with
  | none => pure ()
  | some expiresAt =>
      let expires ← utc iso expiresAt "expires_at"
      raiseIf (expires ≤ effective)
        ⟨.authorityProjectionError, "expires_at must be later than effective_at", []⟩

def toDict (event : AuthoritativeAuthorityEvent) : Json :=
  .obj [("event_id", .str event.eventId), ("sequence", .int event.sequence),
    ("kind", .str event.kind.value), ("permission", .str event.permission),
    ("authority_source", .str event.authoritySource), ("effective_at", .str event.effectiveAt),
    ("expires_at", .optStr event.expiresAt)]

end AuthoritativeAuthorityEvent

/-- `sorted(events, key=lambda item: item.sequence)`. -/
def sortBySequence (events : List AuthoritativeAuthorityEvent) :
    List AuthoritativeAuthorityEvent :=
  events.insertionSort fun a b => a.sequence ≤ b.sequence

structure AuthorityProjectionResult where
  observedAt : String
  ceiling : List String
  grants : List String
  sourceEventIds : List String
  activeGrantEventIds : List String
  sourceEventsSha256 : String
  projectionSha256 : String

namespace AuthorityProjection

variable (iso : Iso8601) (sha256 : Json → String)

/-- The dictionary `last_grant`. -/
abbrev LastGrant := AList fun _ : String => AuthoritativeAuthorityEvent

/-- The check of one event against the ceiling and the event before it. -/
def checkEvent (ceiling : List String) (priorEffective : Option ℤ)
    (event : AuthoritativeAuthorityEvent) : Except PyError (Option ℤ) := do
  let effective ← utc iso event.effectiveAt "effective_at"
  raiseIf (∃ prior ∈ priorEffective, effective < prior)
    ⟨.authorityProjectionError, "authority event effective_at must be monotonic with sequence", []⟩
  raiseIf (event.permission ∉ ceiling)
    ⟨.authorityProjectionError, "authority event permission exceeds the frozen ceiling", []⟩
  return some effective

/-- One event of the replay, on `(last_grant, applied_event_ids)`. -/
def applyEvent (observed : ℤ) (state : LastGrant × List String)
    (event : AuthoritativeAuthorityEvent) : Except PyError (LastGrant × List String) := do
  let effective ← utc iso event.effectiveAt "effective_at"
  if observed < effective then return state
  let appliedEventIds := state.2 ++ [event.eventId]
  match event.kind with
  | .revoke => return (state.1.erase event.permission, appliedEventIds)
  | .grant => return (state.1.insert event.permission event, appliedEventIds)

/-- `grant.expires_at is not None and _utc(grant.expires_at) <= observed`. -/
def expired (observed : ℤ) (grant : AuthoritativeAuthorityEvent) : Except PyError Bool :=
  match grant.expiresAt with
  | none => return false
  | some expiresAt => do
      let expires ← utc iso expiresAt "expires_at"
      return expires ≤ observed

/-- One entry of `sorted(last_grant.items())`, on the active permissions and grant ids. -/
def collectActive (observed : ℤ) (state : List String × List String)
    (entry : (_ : String) × AuthoritativeAuthorityEvent) :
    Except PyError (List String × List String) := do
  if ← expired iso observed entry.2 then return state
  return (state.1 ++ [entry.1], state.2 ++ [entry.2.eventId])

/-- `sorted(last_grant.items())`; the keys are distinct, so they decide the order. -/
def sortedItems (lastGrant : LastGrant) : List ((_ : String) × AuthoritativeAuthorityEvent) :=
  lastGrant.entries.insertionSort fun a b => a.1 ≤ b.1

/-- The result `project` assembles, with its digest. -/
def assemble (observed : ℤ) (ceiling : List String) (ordered : List AuthoritativeAuthorityEvent)
    (appliedEventIds activePermissions activeGrantEventIds : List String) :
    AuthorityProjectionResult :=
  let sourceEventsSha256 := sha256 (.arr (ordered.map (·.toDict)))
  let body : Json :=
    .obj [("schema", .str "phios.authority_projection.v0.1"),
      ("observed_at", .str (iso.isoformat observed)), ("ceiling", .strs ceiling),
      ("grants", .strs activePermissions), ("source_event_ids", .strs appliedEventIds),
      ("active_grant_event_ids", .strs activeGrantEventIds),
      ("source_events_sha256", .str sourceEventsSha256)]
  { observedAt := iso.isoformat observed
    ceiling
    grants := activePermissions
    sourceEventIds := appliedEventIds
    activeGrantEventIds
    sourceEventsSha256
    projectionSha256 := sha256 body }

def project (ceiling : List String) (events : List AuthoritativeAuthorityEvent)
    (observedAt : String) : Except PyError AuthorityProjectionResult := do
  let observed ← utc iso observedAt "observed_at"
  let normalizedCeiling := sortedSet (← ceiling.mapM (requireNonempty · "ceiling permission"))
  let ordered := sortBySequence events
  raiseIf (¬ (ordered.map (·.sequence)).Nodup)
    ⟨.authorityProjectionError, "authority event sequences must be unique", []⟩
  let _ ← ordered.foldlM (checkEvent iso normalizedCeiling) none
  let (lastGrant, appliedEventIds) ← ordered.foldlM (applyEvent iso observed) (∅, [])
  let (activePermissions, activeGrantEventIds) ←
    (sortedItems lastGrant).foldlM (collectActive iso observed) ([], [])
  return assemble iso sha256 observed normalizedCeiling ordered appliedEventIds activePermissions
    activeGrantEventIds

end AuthorityProjection

/-! ## Authority epochs -/

def authorityEpochSchemaVersion : String := "phios.authority_epoch.v0.1"

structure AuthorityEpoch where
  principalId : String
  observedAt : String
  policySha256 : String
  ceiling : List String
  grants : List String
  authoritySources : List String
  knownEventIds : List String
  appliedEventIds : List String
  activeGrantEventIds : List String
  sourceEventsSha256 : String
  grantSetSha256 : String
  revocationSetSha256 : String
  projectionSha256 : String
  authorityContextSha256 : String
  nextKnownTransitionAt : Option String
  effectPerformed : Bool := false
  operationalAuthority : Bool := false
  actionAuthority : Bool := false
  executionAuthority : Bool := false
  schemaVersion : String := authorityEpochSchemaVersion
  deriving DecidableEq

namespace AuthorityEpoch

variable (iso : Iso8601) (sha256 : Json → String)

/-- `AuthorityEpochContractError(message)`. -/
def err (message : String) : PyError := ⟨.authorityEpochContractError, message, []⟩

def eventSetSha256 (events : List AuthoritativeAuthorityEvent) (kind : AuthorityEventKind) :
    String :=
  sha256 (.arr (((sortBySequence events).filter (·.kind = kind)).map (·.toDict)))

/-- The candidates for the next transition that one event contributes: the instant it takes
effect, and the instant it expires if it is an active grant, as far as these lie ahead. -/
def transitionCandidates (observed : ℤ) (activeIds : List String)
    (event : AuthoritativeAuthorityEvent) : Except PyError (List ℤ) := do
  let cls := ErrorClass.authorityEpochContractError
  let effective ← parseTime iso cls event.effectiveAt "event effective_at"
  let ahead := if observed < effective then [effective] else []
  match event.expiresAt with
  | none => return ahead
  | some expiresAt =>
      if event.eventId ∉ activeIds then return ahead
      let expires ← parseTime iso cls expiresAt "event expires_at"
      return ahead ++ if observed < expires then [expires] else []

def nextKnownTransition (events : List AuthoritativeAuthorityEvent) (observedAt : String)
    (activeGrantEventIds : List String) : Except PyError (Option String) := do
  let observed ← parseTime iso .authorityEpochContractError observedAt "observed_at"
  let candidates ← events.mapM (transitionCandidates iso observed activeGrantEventIds)
  return candidates.flatten.min?.map iso.isoformat

/-- `authority_context_sha256` of a ceiling and grants. -/
def contextSha256 (ceiling grants : List String) : String :=
  sha256 (.obj [("ceiling", .strs ceiling), ("grants", .strs grants)])

def postInit (epoch : AuthorityEpoch) : Except PyError Unit := do
  let cls := ErrorClass.authorityEpochContractError
  raiseIf (epoch.schemaVersion ≠ authorityEpochSchemaVersion)
    (err s!"unsupported AuthorityEpoch schema: {epoch.schemaVersion}")
  let _ ← requireText cls 256 epoch.principalId "principal_id"
  let canonicalObserved ← canonicalTime iso cls epoch.observedAt "observed_at"
  raiseIf (canonicalObserved ≠ epoch.observedAt)
    (err "observed_at must use canonical UTC ISO-8601 form")
  let _ ← requireSha256 cls epoch.policySha256 "policy_sha256"
  let _ ← canonicalTextTuple cls epoch.ceiling "ceiling"
  let _ ← canonicalTextTuple cls epoch.grants "grants"
  raiseIf (¬ epoch.grants ⊆ epoch.ceiling)
    (err "grants must remain within the authority ceiling")
  let _ ← canonicalTextTuple cls epoch.authoritySources "authority_sources"
  let _ ← canonicalTextTuple cls epoch.knownEventIds "known_event_ids"
  let _ ← canonicalTextTuple cls epoch.appliedEventIds "applied_event_ids"
  let _ ← canonicalTextTuple cls epoch.activeGrantEventIds "active_grant_event_ids"
  raiseIf (¬ epoch.appliedEventIds ⊆ epoch.knownEventIds)
    (err "applied_event_ids must be a subset of known_event_ids")
  raiseIf (¬ epoch.activeGrantEventIds ⊆ epoch.appliedEventIds)
    (err "active_grant_event_ids must be a subset of applied_event_ids")
  let _ ← requireSha256 cls epoch.sourceEventsSha256 "source_events_sha256"
  let _ ← requireSha256 cls epoch.grantSetSha256 "grant_set_sha256"
  let _ ← requireSha256 cls epoch.revocationSetSha256 "revocation_set_sha256"
  let _ ← requireSha256 cls epoch.projectionSha256 "projection_sha256"
  let _ ← requireSha256 cls epoch.authorityContextSha256 "authority_context_sha256"
  raiseIf (epoch.authorityContextSha256 ≠ contextSha256 sha256 epoch.ceiling epoch.grants)
    (err "authority_context_sha256 does not match ceiling and grants")
  match epoch.nextKnownTransitionAt with
  | none => pure ()
  | some transitionAt =>
      let transition ← canonicalTime iso cls transitionAt "next_known_transition_at"
      raiseIf (transition ≠ transitionAt)
        (err "next_known_transition_at must use canonical UTC form")
      let ahead ← parseTime iso cls transition "next_known_transition_at"
      let observed ← parseTime iso cls epoch.observedAt "observed_at"
      raiseIf (ahead ≤ observed)
        (err "next_known_transition_at must be later than observed_at")
  raiseIf (epoch.effectPerformed = true)
    (err "AuthorityEpoch cannot claim an effect was performed")
  raiseIf (epoch.operationalAuthority ∨ epoch.actionAuthority ∨ epoch.executionAuthority)
    (err ("AuthorityEpoch cannot itself carry operational, action, " ++ "or execution authority"))

def bodyDict (epoch : AuthorityEpoch) : Json :=
  .obj [("schema_version", .str epoch.schemaVersion), ("principal_id", .str epoch.principalId),
    ("observed_at", .str epoch.observedAt), ("policy_sha256", .str epoch.policySha256),
    ("ceiling", .strs epoch.ceiling), ("grants", .strs epoch.grants),
    ("authority_sources", .strs epoch.authoritySources),
    ("known_event_ids", .strs epoch.knownEventIds),
    ("applied_event_ids", .strs epoch.appliedEventIds),
    ("active_grant_event_ids", .strs epoch.activeGrantEventIds),
    ("source_events_sha256", .str epoch.sourceEventsSha256),
    ("grant_set_sha256", .str epoch.grantSetSha256),
    ("revocation_set_sha256", .str epoch.revocationSetSha256),
    ("projection_sha256", .str epoch.projectionSha256),
    ("authority_context_sha256", .str epoch.authorityContextSha256),
    ("next_known_transition_at", .optStr epoch.nextKnownTransitionAt),
    ("effect_performed", .bool epoch.effectPerformed),
    ("operational_authority", .bool epoch.operationalAuthority),
    ("action_authority", .bool epoch.actionAuthority),
    ("execution_authority", .bool epoch.executionAuthority)]

def authorityEpochSha256 (epoch : AuthorityEpoch) : String := sha256 epoch.bodyDict

/-- `except AuthorityProjectionError as exc: raise AuthorityEpochContractError(str(exc))`. -/
def asEpochError {α : Type} (x : Except PyError α) : Except PyError α :=
  x.mapError fun e => if e.cls = .authorityProjectionError then err e.message else e

def build (principalId policySha256 : String) (ceiling : List String)
    (events : List AuthoritativeAuthorityEvent) (observedAt : String) :
    Except PyError AuthorityEpoch := do
  let cls := ErrorClass.authorityEpochContractError
  let principal ← requireText cls 256 principalId "principal_id"
  let policy ← requireSha256 cls policySha256 "policy_sha256"
  let observed ← canonicalTime iso cls observedAt "observed_at"
  let orderedEvents := sortBySequence events
  let eventIds : List String := orderedEvents.map (·.eventId)
  raiseIf (¬ eventIds.Nodup) (err "authority event IDs must be unique")
  let projection ← asEpochError (AuthorityProjection.project iso sha256 ceiling orderedEvents observed)
  let activeGrantEventIds := projection.activeGrantEventIds.insertionSort (· ≤ ·)
  let sources := sortedSet
    (← orderedEvents.mapM fun event => requireText cls 256 event.authoritySource
      "event authority_source")
  let canonicalCeiling := sortedSet projection.ceiling
  let canonicalGrants := sortedSet projection.grants
  let nextKnownTransitionAt ←
    nextKnownTransition iso orderedEvents projection.observedAt activeGrantEventIds
  let epoch : AuthorityEpoch := {
    principalId := principal
    observedAt := projection.observedAt
    policySha256 := policy
    ceiling := canonicalCeiling
    grants := canonicalGrants
    authoritySources := sources
    knownEventIds := eventIds.insertionSort (· ≤ ·)
    appliedEventIds := projection.sourceEventIds.insertionSort (· ≤ ·)
    activeGrantEventIds
    sourceEventsSha256 := projection.sourceEventsSha256
    grantSetSha256 := eventSetSha256 sha256 orderedEvents .grant
    revocationSetSha256 := eventSetSha256 sha256 orderedEvents .revoke
    projectionSha256 := projection.projectionSha256
    authorityContextSha256 := contextSha256 sha256 canonicalCeiling canonicalGrants
    nextKnownTransitionAt }
  epoch.postInit iso sha256
  return epoch

end AuthorityEpoch

end PhiOS
