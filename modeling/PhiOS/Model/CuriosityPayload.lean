import PhiOS.Model.Value

/-!
# Curiosity artifacts and the payloads that persist them

`CuriosityArtifact.build` of `curiosity.py` and `CuriosityPersistPayload` of
`curiosity_persistence.py`. A payload is only made where the artifact it stands for can be built and
spells its fields as the payload does.
-/

set_option autoImplicit false

namespace PhiOS

/-- What the curiosity modules take from the standard library. -/
structure CuriosityRuntime where
  iso : Iso8601
  /-- The SHA-256 of the canonical JSON of a value. -/
  sha256 : Json → Except PyError String
  /-- The HMAC-SHA-256, under a key, of the canonical JSON of a value. -/
  hmacSha256 : String → Json → Except PyError String
  /-- `str.lower`. -/
  lower : String → String
  /-- `str(value)`. -/
  pyStr : Json → String
  /-- `repr` of a list of texts. -/
  reprTexts : List String → String

variable (rt : CuriosityRuntime)

/-! ## Artifacts -/

def curiosityKinds : List String :=
  ["association", "creative_seed", "dream_fragment", "hypothesis", "metaphor", "pattern", "question",
    "symbol"]

structure CuriosityArtifact where
  artifactKind : String
  title : String
  content : String
  createdAt : String
  createdBy : String
  tags : List String
  evidenceRefSha256s : List String
  parentArtifactSha256s : List String

namespace CuriosityArtifact

def requireText (value field : String) (maximum : ℕ) : Except PyError String := do
  let err := fun message => (⟨.curiosityContractError, field ++ message, []⟩ : PyError)
  raiseIf (strip value = "") (err " must be a non-empty string")
  raiseIf (maximum < value.length) (err s!" exceeds {maximum} characters")
  raiseIf (value.toList.any fun c => c.toNat < 32 && c ≠ '\n' && c ≠ '\t')
    (err " contains unsupported control characters")
  return value

def requireTimestamp (value field : String) : Except PyError String := do
  let text ← requireText value field 64
  match rt.iso.fromisoformat (replaceZulu text) with
  | none => .error ⟨.curiosityContractError, field ++ " must be an ISO-8601 timestamp", []⟩
  | some .naive => .error ⟨.curiosityContractError, field ++ " must include a timezone offset", []⟩
  | some (.aware _) => return text

def requireSha256 (value field : String) : Except PyError String := do
  let text ← requireText value field 64
  raiseIf (¬ isSha256Text text)
    ⟨.curiosityContractError, field ++ " must be a lowercase SHA-256 digest", []⟩
  return text

/-- `_require_canonical_text_tuple` and `_require_canonical_sha_tuple`, which differ in how they
check an item. -/
def requireCanonicalTuple (item : String → String → Except PyError String)
    (values : List String) (field : String) : Except PyError Unit := do
  let err := fun message => (⟨.curiosityContractError, field ++ message, []⟩ : PyError)
  raiseIf (64 < values.length) (err " exceeds 64 items")
  raiseIf (values.insertionSort (· ≤ ·) ≠ values) (err " must be sorted")
  raiseIf (¬ values.Nodup) (err " must not contain duplicates")
  for value in values do
    let _ ← item value (field ++ " item")

/-- `__post_init__`, where the schema and the flags are those that `build` leaves at their
defaults. -/
def validate (artifact : CuriosityArtifact) : Except PyError Unit := do
  raiseIf (artifact.artifactKind ∉ curiosityKinds) ⟨.curiosityContractError,
    "unsupported curiosity artifact kind: " ++ artifact.artifactKind, []⟩
  let _ ← requireText artifact.title "title" 256
  let _ ← requireText artifact.content "content" 65536
  let _ ← requireTimestamp rt artifact.createdAt "created_at"
  let _ ← requireText artifact.createdBy "created_by" 256
  requireCanonicalTuple (requireText · · 128) artifact.tags "tags"
  requireCanonicalTuple requireSha256 artifact.evidenceRefSha256s "evidence_ref_sha256s"
  requireCanonicalTuple requireSha256 artifact.parentArtifactSha256s "parent_artifact_sha256s"

def build (artifactKind title content createdAt createdBy : String)
    (tags evidenceRefSha256s parentArtifactSha256s : List String) :
    Except PyError CuriosityArtifact := do
  let artifact : CuriosityArtifact := {
    artifactKind := rt.lower (strip artifactKind)
    title
    content
    createdAt
    createdBy
    tags := sortedSet ((tags.filter fun tag => strip tag ≠ "").map fun tag => rt.lower (strip tag))
    evidenceRefSha256s := sortedSet evidenceRefSha256s
    parentArtifactSha256s := sortedSet parentArtifactSha256s }
  validate rt artifact
  return artifact

end CuriosityArtifact

/-! ## Payloads -/

structure CuriosityPersistPayload where
  artifactKind : String
  title : String
  content : String
  createdAt : String
  createdBy : String
  tags : List String
  evidenceRefSha256s : List String
  parentArtifactSha256s : List String
  schemaVersion : String
  deriving DecidableEq

namespace CuriosityPersistPayload

def requireText (value : Json) (field : String) (maximum : ℕ) : Except PyError String :=
  let err := fun message => (⟨.curiosityPersistenceError, field ++ message, []⟩ : PyError)
  match value with
  | .str text => do
      raiseIf (strip text = "") (err " must be a non-empty string")
      raiseIf (maximum < text.length) (err s!" exceeds {maximum} characters")
      return text
  | _ => .error (err " must be a non-empty string")

/-- The loop of `_string_tuple`. -/
def stringTupleLoop (field : String) (result : List String) :
    List Json → Except PyError (List String)
  | [] => return result
  | item :: rest => do
      let text ← requireText item (field ++ " item") 256
      raiseIf (text ∈ result)
        ⟨.curiosityPersistenceError, field ++ " must not contain duplicates", []⟩
      stringTupleLoop field (result ++ [text]) rest

def stringTuple (value : Json) (field : String) : Except PyError (List String) :=
  match value with
  | .arr items => do
      raiseIf (64 < items.length) ⟨.curiosityPersistenceError, field ++ " exceeds 64 items", []⟩
      stringTupleLoop field [] items
  | _ => .error ⟨.curiosityPersistenceError, field ++ " must be an array", []⟩

def toArtifact (payload : CuriosityPersistPayload) : Except PyError CuriosityArtifact :=
  CuriosityArtifact.build rt payload.artifactKind payload.title payload.content payload.createdAt
    payload.createdBy
    payload.tags payload.evidenceRefSha256s payload.parentArtifactSha256s

/-- `__post_init__`. -/
def validate (payload : CuriosityPersistPayload) : Except PyError Unit := do
  let err := fun message => (⟨.curiosityPersistenceError, message, []⟩ : PyError)
  raiseIf (payload.schemaVersion ≠ "phios.curiosity_persist_payload.v0.4")
    (err "unsupported Curiosity persistence payload schema")
  let _ ← requireText (.str payload.artifactKind) "artifact_kind" 64
  let _ ← requireText (.str payload.title) "title" 256
  let _ ← requireText (.str payload.content) "content" 65536
  let _ ← requireText (.str payload.createdAt) "created_at" 64
  let _ ← requireText (.str payload.createdBy) "created_by" 256
  let artifact ← payload.toArtifact rt
  raiseIf (artifact.artifactKind ≠ payload.artifactKind)
    (err "artifact_kind must already be canonical lowercase")
  raiseIf (artifact.tags ≠ payload.tags) (err "tags must already be sorted, unique, and lowercase")
  raiseIf (artifact.evidenceRefSha256s ≠ payload.evidenceRefSha256s)
    (err "evidence_ref_sha256s must already be sorted and unique")
  raiseIf (artifact.parentArtifactSha256s ≠ payload.parentArtifactSha256s)
    (err "parent_artifact_sha256s must already be sorted and unique")

def toDict (payload : CuriosityPersistPayload) : Json :=
  .obj [("schema_version", .str payload.schemaVersion), ("artifact_kind", .str payload.artifactKind),
    ("title", .str payload.title), ("content", .str payload.content),
    ("created_at", .str payload.createdAt), ("created_by", .str payload.createdBy),
    ("tags", .strs payload.tags), ("evidence_ref_sha256s", .strs payload.evidenceRefSha256s),
    ("parent_artifact_sha256s", .strs payload.parentArtifactSha256s)]

/-- The check that a mapping has the fields that are expected and no others. -/
def requireFields (cls : ErrorClass) (subject : String) (expected : List String) (data : Row) :
    Except PyError Unit :=
  let names := data.map (·.1)
  let missing := (expected.filter fun name => name ∉ names).insertionSort (· ≤ ·)
  let unknown := (names.filter fun name => name ∉ expected).insertionSort (· ≤ ·)
  raiseIf (missing ≠ [] ∨ unknown ≠ []) ⟨cls, subject ++ " fields mismatch: missing=" ++
    rt.reprTexts missing ++ "; unknown=" ++ rt.reprTexts unknown, []⟩

/-- The fields of a request of the browser. -/
def browserFields : List String :=
  ["artifact_kind", "title", "content", "created_at", "tags", "evidence_ref_sha256s",
    "parent_artifact_sha256s"]

def fromMapping (data : Row) : Except PyError CuriosityPersistPayload := do
  requireFields rt .curiosityPersistenceError "Curiosity persistence payload"
    ("schema_version" :: "created_by" :: browserFields) data
  let text := fun (name : String) (maximum : ℕ) => do requireText (← data.index name) name maximum
  let texts := fun (name : String) => do stringTuple (← data.index name) name
  let schemaVersion ← text "schema_version" 64
  let artifactKind ← text "artifact_kind" 64
  let title ← text "title" 256
  let content ← text "content" 65536
  let createdAt ← text "created_at" 64
  let createdBy ← text "created_by" 256
  let tags ← texts "tags"
  let evidenceRefSha256s ← texts "evidence_ref_sha256s"
  let parentArtifactSha256s ← texts "parent_artifact_sha256s"
  let payload : CuriosityPersistPayload := {
    artifactKind, title, content, createdAt, createdBy, tags, evidenceRefSha256s
    parentArtifactSha256s, schemaVersion }
  payload.validate rt
  return payload

end CuriosityPersistPayload

end PhiOS
