import PhiOS.Library.Pool
import PhiOS.Model.CuriosityPayload
import Mathlib.Data.List.MinMax

/-!
# The Curiosity authority broker

`curiosity_authority_broker.py`: requests that a browser creates, and approvals that a local operator
signs for one of them. A request is an object that its dictionary and the thread that executes it
share, so that it is one of a list of objects here and the dictionary holds its place in the list.
The sections under the broker's lock are single operations; what `_execute` does is an operation
too, outside the lock, that may answer anything.
-/

set_option autoImplicit false

namespace PhiOS

open Interaction

/-- `CuriosityAuthorityBrokerError`. -/
def brokerError (message : String) : PyError := ⟨.curiosityAuthorityBrokerError, message, []⟩

/-! ## Approvals -/

def brokerId : String := "phios.curiosity-authority-broker.local.v0.5"

structure OperatorApproval where
  requestId : String
  payloadSha256 : String
  principalId : String
  approvedAt : String
  brokerId : String
  proofHmacSha256 : String
  deriving DecidableEq

def OperatorApproval.bodyDict (approval : OperatorApproval) : Json :=
  .obj [("request_id", .str approval.requestId), ("payload_sha256", .str approval.payloadSha256),
    ("principal_id", .str approval.principalId), ("approved_at", .str approval.approvedAt),
    ("broker_id", .str approval.brokerId)]

/-- `verify_operator_approval`; `compare_digest` refuses a text that is not ASCII. -/
def verifyOperatorApproval (rt : CuriosityRuntime) (key : String) (approval : OperatorApproval) :
    Except PyError Bool := do
  let expected ← rt.hmacSha256 key approval.bodyDict
  raiseIf (approval.proofHmacSha256.toList.any fun c => 127 < c.toNat) ⟨.typeError,
    "comparing strings with non-ASCII characters is not supported", []⟩
  return expected = approval.proofHmacSha256

/-- `_parse_time`. -/
def brokerTime (rt : CuriosityRuntime) (value field : String) : Except PyError ℤ :=
  if value = "" then .error (brokerError (field ++ " must be a non-empty ISO-8601 timestamp"))
  else match rt.iso.fromisoformat (replaceZulu value) with
    | none => .error (brokerError (field ++ " must be an ISO-8601 timestamp"))
    | some .naive => .error (brokerError (field ++ " must include a timezone offset"))
    | some (.aware utc) => .ok utc

/-! ## Requests -/

/-- The statuses of a request. -/
inductive PersistStatus
  | pending
  | approved
  | expired
  | failed
  | succeeded
  | held
  deriving DecidableEq

structure PersistRequest where
  requestId : String
  payload : CuriosityPersistPayload
  payloadSha256 : String
  requestedAt : String
  expiresAt : String
  status : PersistStatus := .pending
  reason : String := "awaiting_operator_approval"
  approvedAt : Option String := none
  artifactSha256 : Option String := none
  executionReceipt : Option Row := none

/-- What a `CuriosityAuthorityBroker` is made with. -/
structure CuriosityAuthorityBroker where
  principalId : String
  key : String
  requestTtlSeconds : ℤ
  ttl : 60 ≤ requestTtlSeconds ∧ requestTtlSeconds ≤ 3600

/-- The request objects that were made, and the dictionary `_requests` in the order of its keys'
insertion. -/
structure BrokerState where
  items : List PersistRequest
  requests : List (String × ℕ)

/-- A broker without requests. -/
def BrokerState.empty : BrokerState := ⟨[], []⟩

def maxRequests : ℕ := 32

/-- `requests[key] = value`: a new key goes to the end. -/
def assign (key : String) (value : ℕ) : List (String × ℕ) → List (String × ℕ)
  | [] => [(key, value)]
  | entry :: rest =>
      if entry.1 = key then (key, value) :: rest else entry :: assign key value rest

namespace BrokerState

variable (rt : CuriosityRuntime) (broker : CuriosityAuthorityBroker) (state : BrokerState)

/-- Writing to a request object. -/
def update (n : ℕ) (f : PersistRequest → PersistRequest) : BrokerState :=
  { state with items := state.items.modify n f }

/-- A pending request whose time is over. -/
def expire (item : PersistRequest) : PersistRequest :=
  { item with status := .expired, reason := "request_expired" }

/-- The loop of `_expire_locked` over the values of the dictionary. -/
def expireLoop (now : ℤ) : List ℕ → BrokerState → Except PyError Unit × BrokerState
  | [], state => (.ok (), state)
  | n :: rest, state =>
      match state.items[n]? with
      | none => expireLoop now rest state
      | some item =>
          if item.status = .pending then
            match brokerTime rt item.expiresAt "expires_at" with
            | .error e => (.error e, state)
            | .ok expiresAt =>
                expireLoop now rest (if expiresAt ≤ now then state.update n expire else state)
          else expireLoop now rest state

def expireLocked (now : ℤ) : Except PyError Unit × BrokerState :=
  expireLoop rt now (state.requests.map (·.2)) state

/-- The requests in the dictionary. -/
def values : List PersistRequest := state.requests.filterMap fun entry => state.items[entry.2]?

/-- `min(self._requests.values(), key=lambda row: row.requested_at)`. -/
def oldest : Option PersistRequest := state.values.argmin (·.requestedAt)

/-- `self._requests[request_id] = item`. -/
def insert (item : PersistRequest) : BrokerState where
  items := state.items ++ [item]
  requests := assign item.requestId state.items.length state.requests

/-- `del self._requests[request_id]`. -/
def remove (requestId : String) : BrokerState :=
  { state with requests := state.requests.filter (·.1 ≠ requestId) }

/-- What `create_request` does under the lock. -/
def createLocked (item : PersistRequest) (now : ℤ) : Except PyError ℕ × BrokerState :=
  match state.expireLocked rt now with
  | (.error e, state) => (.error e, state)
  | (.ok (), state) =>
      if maxRequests ≤ state.requests.length then
        match state.oldest with
        | none => (.error ⟨.valueError, "min() iterable argument is empty", []⟩, state)
        | some oldest =>
            if oldest.status = .pending then
              (.error (brokerError "broker request capacity reached"), state)
            else (.ok state.items.length, (state.remove oldest.requestId).insert item)
      else (.ok state.items.length, state.insert item)

/-- What `get_request` does under the lock. -/
def getLocked (requestId : String) (now : ℤ) : Except PyError (Option ℕ) × BrokerState :=
  match state.expireLocked rt now with
  | (.error e, state) => (.error e, state)
  | (.ok (), state) => (.ok (state.requests.lookup requestId), state)

/-- The checks that `approve` makes on a request under the lock. -/
def admitApproval (approval : OperatorApproval) (item : PersistRequest) : Except PyError Unit := do
  raiseIf (item.status ≠ .pending) (brokerError "persistence request is not pending")
  raiseIf (approval.payloadSha256 ≠ item.payloadSha256)
    (brokerError "operator approval payload digest mismatch")
  raiseIf (approval.principalId ≠ broker.principalId)
    (brokerError "operator approval principal mismatch")

/-- What `approve` writes to a request that it goes on to execute. -/
def approveItem (approval : OperatorApproval) (item : PersistRequest) : PersistRequest :=
  { item with
    status := .approved, reason := "operator_approval_verified"
    approvedAt := some approval.approvedAt }

/-- What `approve` does under the lock before it executes the request. -/
def approveLocked (approval : OperatorApproval) (now : ℤ) : Except PyError ℕ × BrokerState :=
  match state.expireLocked rt now with
  | (.error e, state) => (.error e, state)
  | (.ok (), state) =>
      match state.requests.lookup approval.requestId with
      | none => (.error (brokerError "unknown persistence request"), state)
      | some n =>
          match state.items[n]? with
          | none => (.error (brokerError "unknown persistence request"), state)
          | some item =>
              match admitApproval broker approval item with
              | .error e => (.error e, state)
              | .ok () =>
                  match brokerTime rt item.expiresAt "expires_at" with
                  | .error e => (.error e, state)
                  | .ok expiresAt =>
                      if expiresAt ≤ now then
                        (.error (brokerError "persistence request expired"), state.update n expire)
                      else (.ok n, state.update n (approveItem approval))

/-- What `approve` writes to a request that failed in its execution. -/
def failItem (item : PersistRequest) : PersistRequest :=
  { item with status := .failed, reason := "broker_execution_failed" }

/-- What `approve` writes to a request that was executed. -/
def finishItem (receipt : Row) (artifactSha256 : String) (item : PersistRequest) :
    PersistRequest :=
  let succeeded := rt.pyStr ((receipt.lookup "status").getD (.str "")) = "SUCCEEDED"
  { item with
    executionReceipt := some receipt
    artifactSha256 := some artifactSha256
    status := if succeeded then .succeeded else .held
    reason := if succeeded then "curiosity_persisted" else
      rt.pyStr ((receipt.lookup "reason").getD (.str "governed_execution_not_succeeded")) }

/-- What `approve` does under the lock once the request was executed. -/
def settleLocked (n : ℕ) : Except PyError (Row × String) → BrokerState
  | .error _ => state.update n failItem
  | .ok (receipt, artifactSha256) => state.update n (finishItem rt receipt artifactSha256)

end BrokerState

/-! ## The calls -/

/-- What the broker asks of its environment and of its own state. -/
inductive BrokerOp
  | now
  | tokenHex
  | create (item : PersistRequest) (now : ℤ)
  | get (requestId : String)
  | approve (approval : OperatorApproval) (now : ℤ)
  | execute (n : ℕ) (approval : OperatorApproval)
  | settle (n : ℕ) (outcome : Except PyError (Row × String))

/-- What an operation is answered with. -/
def BrokerOp.Reply : BrokerOp → Type
  | .now => ℤ
  | .tokenHex => String
  | .create .. | .approve .. => Except PyError ℕ
  | .get _ => Except PyError (Option ℕ)
  | .execute .. => Except PyError (Row × String)
  | .settle .. => Unit

abbrev BrokerProg := Prog BrokerOp.Reply PyError

/-- What an operation does to the broker's state. -/
def BrokerOp.effect (rt : CuriosityRuntime) (broker : CuriosityAuthorityBroker) (state : BrokerState) :
    (o : BrokerOp) → o.Reply → BrokerState → Prop
  | .now, _, state' | .tokenHex, _, state' | .execute .., _, state' => state' = state
  | .create item t, reply, state' => (reply, state') = state.createLocked rt item t
  | .get requestId, reply, state' => ∃ t, (reply, state') = state.getLocked rt requestId t
  | .approve approval t, reply, state' =>
      (reply, state') = state.approveLocked rt broker approval t
  | .settle n outcome, (), state' => state' = state.settleLocked rt n outcome

namespace CuriosityAuthorityBroker

variable (rt : CuriosityRuntime) (broker : CuriosityAuthorityBroker)

/-- The payload and its digest that `create_request` makes of the browser's mapping. -/
def canonicalPayload (browserPayload : Row) :
    Except PyError (CuriosityPersistPayload × String) := do
  CuriosityPersistPayload.requireFields rt .curiosityAuthorityBrokerError
    "browser Curiosity request" CuriosityPersistPayload.browserFields browserPayload
  let canonical ← CuriosityPersistPayload.fromMapping rt
    (("schema_version", .str "phios.curiosity_persist_payload.v0.4") ::
      ("created_by", .str broker.principalId) :: browserPayload)
  return (canonical, ← rt.sha256 canonical.toDict)

/-- The request that `create_request` makes. -/
def newRequest (token : String) (payload : CuriosityPersistPayload) (payloadSha256 : String)
    (now : ℤ) : PersistRequest where
  requestId := "curiosity-request-" ++ token
  payload := payload
  payloadSha256 := payloadSha256
  requestedAt := rt.iso.isoformat now
  expiresAt := rt.iso.isoformat (now + broker.requestTtlSeconds * 1000000)

def createRequest (browserPayload : Row) : BrokerProg ℕ := do
  let (payload, payloadSha256) ← .ofExcept (canonicalPayload rt broker browserPayload)
  let now : ℤ ← Prog.call BrokerOp.now
  let token : String ← Prog.call BrokerOp.tokenHex
  let created : Except PyError ℕ ← Prog.call
    (BrokerOp.create (newRequest rt broker token payload payloadSha256 now) now)
  .ofExcept created

def getRequest (requestId : String) : BrokerProg (Option ℕ) := do
  let found : Except PyError (Option ℕ) ← Prog.call (BrokerOp.get requestId)
  .ofExcept found

/-- The checks of an approval that need no request. -/
def requireGenuine (approval : OperatorApproval) : Except PyError Unit := do
  raiseIf (¬ (← verifyOperatorApproval rt broker.key approval))
    (brokerError "operator approval HMAC verification failed")
  raiseIf (approval.brokerId ≠ brokerId) (brokerError "operator approval broker_id mismatch")

/-- The checks of an approval's time. -/
def requireFresh (approval : OperatorApproval) (now : ℤ) : Except PyError Unit := do
  let approved ← brokerTime rt approval.approvedAt "approved_at"
  raiseIf (now + 5000000 < approved) (brokerError "operator approval timestamp is in the future")
  raiseIf (90000000 < now - approved) (brokerError "operator approval proof is stale")

def approve (approval : OperatorApproval) : BrokerProg ℕ := do
  let _ ← .ofExcept (requireGenuine rt broker approval)
  let now : ℤ ← Prog.call BrokerOp.now
  let _ ← .ofExcept (requireFresh rt approval now)
  let admitted : Except PyError ℕ ← Prog.call (BrokerOp.approve approval now)
  let n ← .ofExcept admitted
  let outcome : Except PyError (Row × String) ← Prog.call (BrokerOp.execute n approval)
  match outcome with
  | .ok _ => do
      let _ ← Prog.call (BrokerOp.settle n outcome)
      return n
  | .error e =>
      if e.cls.isException then do
        let _ ← Prog.call (BrokerOp.settle n outcome)
        .raise e
      else .raise e

end CuriosityAuthorityBroker

/-- A call of one of the broker's methods. -/
inductive BrokerCall
  | create (browserPayload : Row)
  | get (requestId : String)
  | approve (approval : OperatorApproval)

/-- The program of a call; `get_request` may return nothing. -/
def BrokerCall.body (rt : CuriosityRuntime) (broker : CuriosityAuthorityBroker) :
    BrokerCall → BrokerProg (Option ℕ)
  | .create browserPayload => do return some (← broker.createRequest rt browserPayload)
  | .get requestId => CuriosityAuthorityBroker.getRequest requestId
  | .approve approval => do return some (← broker.approve rt approval)

/-- Any number of calls on one broker. -/
def brokerSystem (rt : CuriosityRuntime) (broker : CuriosityAuthorityBroker) :
    System BrokerOp.Reply PyError (Option ℕ) BrokerState BrokerCall where
  body := BrokerCall.body rt broker
  effect := BrokerOp.effect rt broker

end PhiOS
