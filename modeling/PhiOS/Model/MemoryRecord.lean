import PhiOS.Model.Spine

/-!
# Memory records and who may touch them

`memory/models.py` and `memory/policy.py`: the record that one revision of a memory is, the check
that a stored record is the one that was written, and the policy that gives each principal the
scopes and classifications it may use.
-/

set_option autoImplicit false

namespace PhiOS

/-- What the memory modules take from the standard library. Floats are the numbers they are. -/
structure MemoryRuntime where
  /-- `sha256_json`. -/
  sha256 : Json → String
  /-- `hashlib.sha256(text.encode("utf-8")).hexdigest()`. -/
  textSha256 : String → String
  /-- `str(uuid.uuid5(uuid.NAMESPACE_URL, name))`. -/
  uuid5 : String → String
  /-- `str(value)`. -/
  pyStr : Json → String
  iso : Iso8601
  /-- The instant that the local time zone gives a naive timestamp. -/
  localInstant : String → ℤ
  /-- `round(delta.total_seconds(), 12)` of a difference in microseconds. -/
  totalSeconds : ℤ → ℚ
  /-- `created.timestamp()`. -/
  timestamp : ℤ → ℚ
  /-- `datetime.fromtimestamp(seconds, tz=UTC).isoformat()`, which raises out of range. -/
  fromtimestamp : ℚ → Except PyError String
  /-- The sum of two floats. -/
  floatAdd : ℚ → ℚ → ℚ
  /-- `round(value, 12)`. -/
  round12 : ℚ → ℚ
  /-- The text of a float in JSON. -/
  floatText : ℚ → String
  /-- What a value bound to a statement is on a TEXT column, none being NULL; binding a container
  raises. -/
  bindText : Json → Except PyError (Option String)
  /-- The same on an INTEGER column. -/
  bindInteger : Json → Except PyError (Option ℤ)

/-- What is documented of these: the text of a text is itself, and texts and integers are bound as
they are. -/
structure MemoryRuntime.Lawful (rt : MemoryRuntime) : Prop where
  pyStr_str : ∀ s, rt.pyStr (.str s) = s
  bindText_str : ∀ {s t}, rt.bindText (.str s) = .ok (some t) → t = s
  bindInteger_int : ∀ {n m}, rt.bindInteger (.int n) = .ok (some m) → m = n

/-- A check for text that also removes the blanks around it; the modules differ in what they
raise. -/
def requireStripped (cls : ErrorClass) (complaint value label : String) : Except PyError String :=
  if strip value = "" then .error ⟨cls, label ++ complaint, []⟩ else .ok (strip value)

/-- `require_nonempty` of `memory/validation.py`. -/
def MemoryValidation.requireNonempty (value field : String) : Except PyError String :=
  requireStripped .valueError " must be a non-empty string" value field

/-- `datetime.fromisoformat(text).astimezone(UTC)`. -/
def MemoryRuntime.astimezone (rt : MemoryRuntime) (text : String) : Except PyError ℤ :=
  match rt.iso.fromisoformat text with
  | none => .error ⟨.valueError, "Invalid isoformat string: '" ++ text ++ "'", []⟩
  | some .naive => .ok (rt.localInstant text)
  | some (.aware utc) => .ok utc

/-! ## Records -/

structure MemoryRecord where
  recordId : String
  revision : ℕ
  sourceId : String
  sourceKind : String
  provenanceRefs : List String
  createdAt : String
  scopeId : String
  classification : String
  retentionPolicyId : String
  expiresAt : Option String
  epistemicKind : String
  derivedFrom : List String := []
  exactnessClass : Option String := none
  transformationLineageSha256s : List String := []
  taintLabels : List String := []
  contradicts : List String := []
  text : String
  contentSha256 : String
  recordSha256 : String
  deriving DecidableEq

namespace MemoryRecord

/-- The fields of `to_dict` without `record_sha256`. -/
def body (record : MemoryRecord) : Row :=
  [("record_id", .str record.recordId), ("revision", .int record.revision),
    ("source_id", .str record.sourceId), ("source_kind", .str record.sourceKind),
    ("provenance_refs", .strs record.provenanceRefs), ("created_at", .str record.createdAt),
    ("scope_id", .str record.scopeId), ("classification", .str record.classification),
    ("retention_policy_id", .str record.retentionPolicyId),
    ("expires_at", .optStr record.expiresAt), ("epistemic_kind", .str record.epistemicKind),
    ("derived_from", .strs record.derivedFrom),
    ("exactness_class", .optStr record.exactnessClass),
    ("transformation_lineage_sha256s", .strs record.transformationLineageSha256s),
    ("taint_labels", .strs record.taintLabels), ("contradicts", .strs record.contradicts),
    ("text", .str record.text), ("content_sha256", .str record.contentSha256)]

def toDict (record : MemoryRecord) : Json :=
  .obj (record.body ++ [("record_sha256", .str record.recordSha256)])

/-- `_record_from_payload` on the payload that a record was written as. An empty `expires_at` is
read back as none. -/
def fromPayload (rt : MemoryRuntime) (record : MemoryRecord) : Except PyError MemoryRecord :=
  if record.expiresAt = some "" ∨ rt.textSha256 record.text ≠ record.contentSha256 ∨
      rt.sha256 (.obj record.body) ≠ record.recordSha256 then
    .error ⟨.stateIntegrityError, "canonical memory record integrity check failed", []⟩
  else .ok record

theorem eq_of_fromPayload {rt : MemoryRuntime} {record record' : MemoryRecord}
    (h : record.fromPayload rt = .ok record') : record' = record := by
  unfold fromPayload at h
  split at h
  · cases h
  · exact (Except.ok.inj h).symm

/-- `expires_at` is set and not after `now`. -/
def expiredAt (rt : MemoryRuntime) (record : MemoryRecord) (now : ℤ) : Except PyError Bool :=
  match record.expiresAt with
  | none | some "" => .ok false
  | some expiresAt => do
      let instant ← rt.astimezone expiresAt
      return instant ≤ now

/-- The end of `_live_record_from_row`, on the row there is. -/
def liveAt (rt : MemoryRuntime) (record : MemoryRecord) (now : ℤ) :
    Except PyError (Option MemoryRecord) := do
  if ← record.expiredAt rt now then return none
  return some (← record.fromPayload rt)

end MemoryRecord

/-! ## The access policy -/

def AuthorityContext.allows (authority : AuthorityContext) (permission : String) : Bool :=
  authority.ceiling.contains permission && authority.grants.contains permission

def AuthorityContext.toDict (authority : AuthorityContext) : Json :=
  .obj [("ceiling", .strs authority.ceiling), ("grants", .strs authority.grants)]

structure MemoryPolicyRule where
  principalId : String
  scopes : List String
  classifications : List String
  operations : List String := ["memory.read", "memory.write", "memory.delete"]
  deriving DecidableEq

/-- The entry of one rule in the text that `policy_sha256` is taken of. -/
def MemoryPolicyRule.toDict (rule : MemoryPolicyRule) : Json :=
  .obj [("principal_id", .str rule.principalId), ("scopes", .strs rule.scopes),
    ("classifications", .strs rule.classifications), ("operations", .strs rule.operations)]

structure MemoryAccessDecision where
  principalId : String
  taskId : String
  operation : String
  allowedScopes : List String
  allowedClassifications : List String
  policySha256 : String
  deriving DecidableEq

structure MemoryAccessPolicy where
  rules : List MemoryPolicyRule
  revision : String := "v0.1"

namespace MemoryAccessPolicy

/-- `self._rules.get(principal_id)`: a later rule of a principal replaces an earlier one. -/
def ruleOf (policy : MemoryAccessPolicy) (principalId : String) : Option MemoryPolicyRule :=
  policy.rules.reverse.find? (·.principalId = principalId)

def policySha256 (rt : MemoryRuntime) (policy : MemoryAccessPolicy) : String :=
  rt.sha256 (.obj [("revision", .str (strip policy.revision)),
    ("rules", .arr ((policy.rules.insertionSort fun a b => a.principalId ≤ b.principalId).map
      (·.toDict)))])

/-- `resolve`, without the `expires_at` that no caller gives. -/
def resolve (rt : MemoryRuntime) (policy : MemoryAccessPolicy)
    (principalId taskId operation : String) (authority : AuthorityContext) :
    Except PyError (Option MemoryAccessDecision) := do
  let principalId ← MemoryValidation.requireNonempty principalId "principal_id"
  let taskId ← MemoryValidation.requireNonempty taskId "task_id"
  let operation ← MemoryValidation.requireNonempty operation "operation"
  match authority.allows operation, policy.ruleOf principalId with
  | true, some rule =>
      return if rule.operations.contains operation then
        some { principalId, taskId, operation
               allowedScopes := rule.scopes
               allowedClassifications := rule.classifications
               policySha256 := policy.policySha256 rt }
      else none
  | _, _ => return none

end MemoryAccessPolicy

def MemoryAccessDecision.permits (decision : MemoryAccessDecision) (record : MemoryRecord) : Bool :=
  decision.allowedScopes.contains record.scopeId &&
    decision.allowedClassifications.contains record.classification

end PhiOS
