import PhiOS.Library.Program
import PhiOS.Model.Calendar

/-!
# Schedule workers

`macro_schedule_worker.py`: a worker polls one schedule service for as long as its process holds a
file lock, and puts on record the leases it has held and the ticks it has made. What the workers ask
of the ledger, of the locks and of the schedule service are operations; the service may answer
anything, and keeps its own files.
-/

set_option autoImplicit false

namespace PhiOS

open Interaction Calendar

/-- `MacroScheduleWorkerContractError(message)`. -/
def macroScheduleWorkerErr (message : String) : PyError :=
  ⟨.macroScheduleWorkerContractError, message, []⟩

/-- What the workers take from the standard library. -/
structure WorkerRuntime where
  iso : Iso8601
  /-- An instant that has been printed is read as that instant. -/
  reads : ∀ {t : ℤ}, datetime t = .ok t →
    iso.fromisoformat (replaceZulu (utcIso t)) = some (.aware t)
  /-- `_canonical_sha256`. -/
  sha256 : Json → String

/-- `MAX_LEASE_SECONDS`, which `MAX_TICK_SECONDS` is equal to. -/
def maxLeaseSeconds : ℤ := 86400

/-- `timedelta(seconds=seconds)`, in microseconds. -/
def secondsMicros (seconds : ℤ) : ℤ := seconds * 1000000

section Checks

variable (rt : WorkerRuntime)

/-- `_require_text`. -/
def requireWorkerText (maximum : ℕ) (value field : String) : Except PyError String :=
  requireText .macroScheduleWorkerContractError maximum value field

/-- `_require_sha256`. -/
def requireWorkerSha256 (value field : String) : Except PyError String :=
  requireSha256 .macroScheduleWorkerContractError value field

/-- A check of a field that may be `None`. -/
def checkPresent {α β : Type} (check : α → Except PyError β) : Option α → Except PyError Unit
  | none => .ok ()
  | some value => do
      let _ ← check value

/-- `_require_int` of an integer. -/
def requireWorkerInt (minimum : ℤ) (maximum : Option ℤ) (value : ℤ) (field : String) :
    Except PyError ℤ := do
  raiseIf (value < minimum) (macroScheduleWorkerErr s!"{field} must be at least {minimum}")
  raiseIf (∃ most ∈ maximum, most < value)
    (macroScheduleWorkerErr s!"{field} must be at most {maximum.getD 0}")
  return value

/-- `_require_timestamp`, and the instant of the text. -/
def requireWorkerTimestamp (value field : String) : Except PyError ℤ :=
  parseTimeSaying " must include a timezone" rt.iso .macroScheduleWorkerContractError value field

/-- `_parse_utc`. -/
def parseWorkerUtc (value field : String) : Except PyError ℤ := do
  let t ← requireWorkerTimestamp rt value field
  datetime t

/-- `_require_aware`. -/
def requireWorkerAware (value : DateTime) (field : String) : Except PyError ℤ :=
  match value with
  | .naive => .error (macroScheduleWorkerErr (field ++ " must be timezone-aware"))
  | .aware utc => datetime utc

end Checks

/-! ## Leases -/

/-- `ScheduleWorkerLease`, without the authority flags and the schema version, which have one value
each. -/
structure ScheduleWorkerLease where
  serviceId : String
  serviceKeySha256 : String
  workerId : String
  leaseId : String
  generation : ℤ
  renewalIndex : ℤ
  acquiredAt : String
  renewedAt : String
  validUntil : String
  leaseSeconds : ℤ
  maxTickSeconds : ℤ
  previousLeaseSha256 : Option String
  deriving DecidableEq

namespace ScheduleWorkerLease

variable (rt : WorkerRuntime) (lease : ScheduleWorkerLease)

/-- `__post_init__`. -/
def validate : Except PyError Unit := do
  let _ ← requireWorkerText 512 lease.serviceId "service_id"
  let _ ← requireWorkerSha256 lease.serviceKeySha256 "service_key_sha256"
  let _ ← requireWorkerText 512 lease.workerId "worker_id"
  let _ ← requireWorkerText 128 lease.leaseId "lease_id"
  let _ ← requireWorkerInt 1 none lease.generation "generation"
  let _ ← requireWorkerInt 0 none lease.renewalIndex "renewal_index"
  let acquired ← parseWorkerUtc rt lease.acquiredAt "acquired_at"
  let renewed ← parseWorkerUtc rt lease.renewedAt "renewed_at"
  let validUntil ← parseWorkerUtc rt lease.validUntil "valid_until"
  raiseIf (renewed < acquired ∨ validUntil ≤ renewed)
    (macroScheduleWorkerErr "schedule worker lease timestamps are not monotonic")
  let _ ← requireWorkerInt 1 (some maxLeaseSeconds) lease.leaseSeconds "lease_seconds"
  let _ ← requireWorkerInt 1 (some maxLeaseSeconds) lease.maxTickSeconds "max_tick_seconds"
  checkPresent (requireWorkerSha256 · "previous_lease_sha256") lease.previousLeaseSha256

def bodyDict : Json :=
  .obj [("schema_version", .str "phios.schedule_worker_lease.v0.11"),
    ("service_id", .str lease.serviceId), ("service_key_sha256", .str lease.serviceKeySha256),
    ("worker_id", .str lease.workerId), ("lease_id", .str lease.leaseId),
    ("generation", .int lease.generation), ("renewal_index", .int lease.renewalIndex),
    ("acquired_at", .str lease.acquiredAt), ("renewed_at", .str lease.renewedAt),
    ("valid_until", .str lease.validUntil), ("lease_seconds", .int lease.leaseSeconds),
    ("max_tick_seconds", .int lease.maxTickSeconds),
    ("previous_lease_sha256", .optStr lease.previousLeaseSha256),
    ("operational_authority", .bool false), ("action_authority", .bool false),
    ("execution_authority", .bool false)]

/-- `lease_sha256`, which the row on file has as a field. -/
def leaseSha256 : String := rt.sha256 lease.bodyDict

end ScheduleWorkerLease

/-! ## Events -/

inductive WorkerLeaseEventKind
  | acquired
  | orphanTakeover
  | acquireHeld
  | renewed
  | released
  deriving DecidableEq

/-- `ScheduleWorkerLeaseEvent`, without the authority flags and the schema version. -/
structure ScheduleWorkerLeaseEvent where
  eventKind : WorkerLeaseEventKind
  reason : String
  serviceId : String
  serviceKeySha256 : String
  workerId : String
  eventAt : String
  leaseSha256 : Option String
  previousLeaseSha256 : Option String
  generation : Option ℤ
  validUntil : Option String
  deriving DecidableEq

/-- `__post_init__`. -/
def ScheduleWorkerLeaseEvent.validate (rt : WorkerRuntime) (event : ScheduleWorkerLeaseEvent) :
    Except PyError Unit := do
  let _ ← requireWorkerText 512 event.reason "reason"
  let _ ← requireWorkerText 512 event.serviceId "service_id"
  let _ ← requireWorkerSha256 event.serviceKeySha256 "service_key_sha256"
  let _ ← requireWorkerText 512 event.workerId "worker_id"
  let _ ← requireWorkerTimestamp rt event.eventAt "at"
  checkPresent (requireWorkerSha256 · "lease_sha256") event.leaseSha256
  checkPresent (requireWorkerSha256 · "previous_lease_sha256") event.previousLeaseSha256
  checkPresent (requireWorkerInt 1 none · "generation") event.generation
  checkPresent (requireWorkerTimestamp rt · "valid_until") event.validUntil

def eventFor (rt : WorkerRuntime) (kind : WorkerLeaseEventKind) (reason : String)
    (lease : ScheduleWorkerLease) (now : ℤ) (previous : Option String) :
    ScheduleWorkerLeaseEvent where
  eventKind := kind
  reason := reason
  serviceId := lease.serviceId
  serviceKeySha256 := lease.serviceKeySha256
  workerId := lease.workerId
  eventAt := utcIso now
  leaseSha256 := some (lease.leaseSha256 rt)
  previousLeaseSha256 := previous
  generation := some lease.generation
  validUntil := some lease.validUntil

/-! ## Ticks -/

inductive WorkerTickStatus
  | committed
  | held
  | noop
  deriving DecidableEq

/-- `ScheduleWorkerTickReceipt`, without the authority flags and the schema version. -/
structure ScheduleWorkerTickReceipt where
  serviceId : String
  workerId : String
  leaseSha256 : String
  cycleIndex : ℤ
  cycleAnchorSha256 : String
  tickAt : String
  cursorBeforeUtc : String
  throughInclusiveUtc : String
  cursorAfterUtc : String
  serviceStateBeforeSha256 : String
  serviceStateAfterSha256 : String
  schedulePollReceiptSha256 : Option String
  tickStatus : WorkerTickStatus
  reason : String
  deriving DecidableEq

/-- `__post_init__`. -/
def ScheduleWorkerTickReceipt.validate (rt : WorkerRuntime) (receipt : ScheduleWorkerTickReceipt) :
    Except PyError Unit := do
  let _ ← requireWorkerText 512 receipt.serviceId "service_id"
  let _ ← requireWorkerText 512 receipt.workerId "worker_id"
  let _ ← requireWorkerSha256 receipt.leaseSha256 "lease_sha256"
  let _ ← requireWorkerInt 0 none receipt.cycleIndex "cycle_index"
  let _ ← requireWorkerSha256 receipt.cycleAnchorSha256 "cycle_anchor_sha256"
  let _ ← requireWorkerTimestamp rt receipt.tickAt "tick_at"
  let before ← parseWorkerUtc rt receipt.cursorBeforeUtc "cursor_before_utc"
  let through ← parseWorkerUtc rt receipt.throughInclusiveUtc "through_inclusive_utc"
  let after ← parseWorkerUtc rt receipt.cursorAfterUtc "cursor_after_utc"
  raiseIf (through < before ∨ after < before ∨ through < after)
    (macroScheduleWorkerErr "worker tick cursor/window ordering is invalid")
  let _ ← requireWorkerSha256 receipt.serviceStateBeforeSha256 "service_state_before_sha256"
  let _ ← requireWorkerSha256 receipt.serviceStateAfterSha256 "service_state_after_sha256"
  checkPresent (requireWorkerSha256 · "schedule_poll_receipt_sha256")
    receipt.schedulePollReceiptSha256
  let _ ← requireWorkerText 512 receipt.reason "reason"
  if receipt.tickStatus = .noop then
    raiseIf (receipt.schedulePollReceiptSha256 ≠ none)
      (macroScheduleWorkerErr "NOOP tick cannot reference schedule poll receipt")
    raiseIf (through ≠ before ∨ after ≠ before)
      (macroScheduleWorkerErr "NOOP tick must leave cursor unchanged")
  else
    raiseIf (receipt.schedulePollReceiptSha256 = none)
      (macroScheduleWorkerErr "polled worker tick requires schedule poll receipt")

/-! ## The ledger, the locks and the service -/

/-- What a tick reads of the entry that `ScheduleService.current` returns. -/
structure ScheduleServiceView where
  cursorUtc : String
  entrySha256 : String

/-- What a tick reads of what `ScheduleService.poll` returns. -/
structure ScheduleServicePollOutcome where
  committed : Bool
  receiptSha256 : String
  cursorUtc : String
  entrySha256 : String

/-- What the workers ask for; a lock that is held is known by a number. -/
inductive WorkerOp
  | current (serviceId : String)
  | poll (serviceId : String) (through : ℤ)
  /-- `_WorkerFileLock.acquire` of a new lock on a file. -/
  | acquireLock (key : String)
  /-- `_WorkerFileLock.held`. -/
  | lockHeld (handle : ℕ)
  /-- `_WorkerFileLock.release`. -/
  | releaseLock (handle : ℕ)
  | latestLease (serviceId : String)
  | appendLease (lease : ScheduleWorkerLease)
  | events (serviceId : String)
  | appendEvent (event : ScheduleWorkerLeaseEvent)
  | tickReceipts (serviceId : String)
  | appendTickReceipt (receipt : ScheduleWorkerTickReceipt)

/-- What an operation is answered with. -/
abbrev WorkerOp.Reply : WorkerOp → Type
  | .current _ => Except PyError ScheduleServiceView
  | .poll _ _ => Except PyError ScheduleServicePollOutcome
  | .acquireLock _ => Except PyError (Option ℕ)
  | .lockHeld _ => Bool
  | .releaseLock _ => Except PyError Unit
  | .latestLease _ => Except PyError (Option ScheduleWorkerLease)
  | .appendLease _ => Except PyError Unit
  | .events _ => Except PyError (List ScheduleWorkerLeaseEvent)
  | .appendEvent _ => Except PyError Unit
  | .tickReceipts _ => Except PyError (List ScheduleWorkerTickReceipt)
  | .appendTickReceipt _ => Except PyError Unit

/-- A program of the workers. -/
abbrev WorkerProg (α : Type) := Prog WorkerOp.Reply PyError α

/-- The files of the workers, and the locks that were ever held, each with the file that it holds. -/
structure WorkerWorld where
  leases : List ScheduleWorkerLease
  events : List ScheduleWorkerLeaseEvent
  ticks : List ScheduleWorkerTickReceipt
  locks : List (Option String)
  deriving DecidableEq

namespace WorkerWorld

variable (w : WorkerWorld) (serviceId : String)

/-- The leases of a service, in the order of the file. -/
def leasesOf : List ScheduleWorkerLease := w.leases.filter (·.serviceId = serviceId)

/-- The events of a service. -/
def eventsOf : List ScheduleWorkerLeaseEvent := w.events.filter (·.serviceId = serviceId)

/-- The ticks of a service. -/
def ticksOf : List ScheduleWorkerTickReceipt := w.ticks.filter (·.serviceId = serviceId)

/-- The file that a lock holds. -/
def holds (handle : ℕ) : Option String := (w.locks[handle]?).join

end WorkerWorld

/-- The files with one record more. -/
def WorkerWorld.append (w : WorkerWorld) : (o : WorkerOp) → WorkerWorld
  | .appendLease lease => { w with leases := w.leases ++ [lease] }
  | .appendEvent event => { w with events := w.events ++ [event] }
  | .appendTickReceipt receipt => { w with ticks := w.ticks ++ [receipt] }
  | _ => w

/-- What an operation does. An append that raises may have added its record or not, a lock is given
where no other holds the file, and closing the handle of a lock releases it whatever comes before
that. -/
def WorkerOp.effect (w : WorkerWorld) : (o : WorkerOp) → o.Reply → WorkerWorld → Prop
  | .current _, _, w' | .poll _ _, _, w' => w' = w
  | .acquireLock key, .ok (some handle), w' =>
      handle = w.locks.length ∧ some key ∉ w.locks ∧ w' = { w with locks := w.locks ++ [some key] }
  | .acquireLock _, _, w' => w' = w
  | .lockHeld handle, held, w' => w' = w ∧ held = (w.holds handle).isSome
  | .releaseLock handle, _, w' => w' = { w with locks := w.locks.set handle none }
  | .latestLease serviceId, .ok lease, w' => w' = w ∧ lease = (w.leasesOf serviceId).getLast?
  | .events serviceId, .ok found, w' => w' = w ∧ found = w.eventsOf serviceId
  | .tickReceipts serviceId, .ok found, w' => w' = w ∧ found = w.ticksOf serviceId
  | .latestLease _, .error _, w' | .events _, .error _, w' | .tickReceipts _, .error _, w' => w' = w
  | .appendLease lease, .ok (), w' => w' = w.append (.appendLease lease)
  | .appendEvent event, .ok (), w' => w' = w.append (.appendEvent event)
  | .appendTickReceipt receipt, .ok (), w' => w' = w.append (.appendTickReceipt receipt)
  | .appendLease lease, .error _, w' => w' = w ∨ w' = w.append (.appendLease lease)
  | .appendEvent event, .error _, w' => w' = w ∨ w' = w.append (.appendEvent event)
  | .appendTickReceipt receipt, .error _, w' =>
      w' = w ∨ w' = w.append (.appendTickReceipt receipt)

namespace WorkerProg

def current (serviceId : String) : WorkerProg ScheduleServiceView :=
  (Prog.call (.current serviceId)).bind .ofExcept

def poll (serviceId : String) (through : ℤ) : WorkerProg ScheduleServicePollOutcome :=
  (Prog.call (.poll serviceId through)).bind .ofExcept

/-- `_WorkerFileLock(path).acquire()`. -/
def acquireLock (key : String) : WorkerProg (Option ℕ) :=
  (Prog.call (.acquireLock key)).bind .ofExcept

/-- `_WorkerFileLock.held`. -/
def lockHeld (handle : ℕ) : WorkerProg Bool := Prog.call (WorkerOp.lockHeld handle)

/-- `_WorkerFileLock.release`. -/
def releaseLock (handle : ℕ) : WorkerProg Unit :=
  (Prog.call (.releaseLock handle)).bind .ofExcept

/-- `latest_schedule_worker_lease`. -/
def latestLease (serviceId : String) : WorkerProg (Option ScheduleWorkerLease) :=
  (Prog.call (.latestLease serviceId)).bind .ofExcept

/-- `append_schedule_worker_lease`. -/
def appendLease (lease : ScheduleWorkerLease) : WorkerProg Unit :=
  (Prog.call (.appendLease lease)).bind .ofExcept

/-- `schedule_worker_events`. -/
def events (serviceId : String) : WorkerProg (List ScheduleWorkerLeaseEvent) :=
  (Prog.call (.events serviceId)).bind .ofExcept

/-- `append_schedule_worker_event` of an event that is built. -/
def appendEvent (rt : WorkerRuntime) (event : ScheduleWorkerLeaseEvent) : WorkerProg Unit := do
  .ofExcept (event.validate rt)
  (Prog.call (.appendEvent event)).bind .ofExcept

/-- `append_schedule_worker_tick_receipt` of a receipt that is built. -/
def appendTickReceipt (rt : WorkerRuntime) (receipt : ScheduleWorkerTickReceipt) :
    WorkerProg Unit := do
  .ofExcept (receipt.validate rt)
  (Prog.call (.appendTickReceipt receipt)).bind .ofExcept

/-- `next_schedule_worker_cycle_index`. -/
def nextCycleIndex (serviceId : String) : WorkerProg ℤ := do
  let rows ← (Prog.call (WorkerOp.tickReceipts serviceId) :
    WorkerProg (Except PyError (List ScheduleWorkerTickReceipt))).bind .ofExcept
  .ofExcept (raiseIf (rows.map (·.cycleIndex) ≠ (List.range rows.length).map (↑))
    ⟨.valueError, "persisted worker cycle indices are not contiguous", []⟩)
  return rows.length

end WorkerProg

/-! ## A worker -/

/-- `ScheduleWorker`; what it polls the service with is not used otherwise. -/
structure ScheduleWorker where
  lock : ℕ
  lease : ScheduleWorkerLease
  deriving DecidableEq

namespace ScheduleWorker

variable (rt : WorkerRuntime) (worker : ScheduleWorker)

def requireLiveLock : WorkerProg Unit := do
  let held ← WorkerProg.lockHeld worker.lock
  .ofExcept (raiseIf (¬ held)
    (macroScheduleWorkerErr "schedule worker does not hold live OS ownership lock"))

/-- The lease that `renew` builds. -/
def renewedLease (now validUntil : ℤ) : ScheduleWorkerLease where
  serviceId := worker.lease.serviceId
  serviceKeySha256 := worker.lease.serviceKeySha256
  workerId := worker.lease.workerId
  leaseId := worker.lease.leaseId
  generation := worker.lease.generation
  renewalIndex := worker.lease.renewalIndex + 1
  acquiredAt := worker.lease.acquiredAt
  renewedAt := utcIso now
  validUntil := utcIso validUntil
  leaseSeconds := worker.lease.leaseSeconds
  maxTickSeconds := worker.lease.maxTickSeconds
  previousLeaseSha256 := some (worker.lease.leaseSha256 rt)

/-- `renew`; the lease that it returns is the worker's from then on. -/
def renew (renewedAt : DateTime) : WorkerProg ScheduleWorkerLease := do
  let now ← .ofExcept (requireWorkerAware renewedAt "renewed_at")
  worker.requireLiveLock
  let validUntil ← .ofExcept (parseWorkerUtc rt worker.lease.validUntil "valid_until")
  .ofExcept (raiseIf (validUntil < now)
    (macroScheduleWorkerErr "expired schedule worker lease cannot be renewed"))
  let next ← .ofExcept (datetime (now + secondsMicros worker.lease.leaseSeconds))
  let renewed := worker.renewedLease rt now next
  .ofExcept (renewed.validate rt)
  WorkerProg.appendLease renewed
  WorkerProg.appendEvent rt (eventFor rt .renewed "worker_lease_renewed" renewed now
    (some (worker.lease.leaseSha256 rt)))
  return renewed

/-- The receipt that `tick` builds, without what it says of the service and of the outcome. -/
def tickReceipt (now cycleIndex : ℤ) (before : ScheduleServiceView) :
    ScheduleWorkerTickReceipt where
  serviceId := worker.lease.serviceId
  workerId := worker.lease.workerId
  leaseSha256 := worker.lease.leaseSha256 rt
  cycleIndex := cycleIndex
  cycleAnchorSha256 := rt.sha256 <| .obj [("service_id", .str worker.lease.serviceId),
    ("worker_id", .str worker.lease.workerId), ("lease_sha256", .str (worker.lease.leaseSha256 rt)),
    ("cycle_index", .int cycleIndex), ("service_state_sha256", .str before.entrySha256),
    ("cursor_utc", .str before.cursorUtc)]
  tickAt := utcIso now
  cursorBeforeUtc := before.cursorUtc
  throughInclusiveUtc := before.cursorUtc
  cursorAfterUtc := before.cursorUtc
  serviceStateBeforeSha256 := before.entrySha256
  serviceStateAfterSha256 := before.entrySha256
  schedulePollReceiptSha256 := none
  tickStatus := .noop
  reason := "tick_not_after_persistent_cursor"

/-- The receipt of a tick that has polled the service. -/
def polledReceipt (now cycleIndex through : ℤ) (before : ScheduleServiceView)
    (outcome : ScheduleServicePollOutcome) : ScheduleWorkerTickReceipt :=
  { worker.tickReceipt rt now cycleIndex before with
    throughInclusiveUtc := utcIso through
    cursorAfterUtc := outcome.cursorUtc
    serviceStateAfterSha256 := outcome.entrySha256
    schedulePollReceiptSha256 := some outcome.receiptSha256
    tickStatus := if outcome.committed then .committed else .held
    reason := if outcome.committed then "schedule_poll_committed" else "schedule_poll_held" }

/-- `tick` after its checks: the service is polled where the instant is after the cursor. -/
def performTick (now : ℤ) : WorkerProg ScheduleWorkerTickReceipt := do
  let before ← WorkerProg.current worker.lease.serviceId
  let cursor ← .ofExcept (parseWorkerUtc rt before.cursorUtc "cursor_utc")
  let cycleIndex ← WorkerProg.nextCycleIndex worker.lease.serviceId
  if now ≤ cursor then do
    let receipt := worker.tickReceipt rt now cycleIndex before
    WorkerProg.appendTickReceipt rt receipt
    return receipt
  else do
    let limit ← .ofExcept (datetime (cursor + secondsMicros worker.lease.maxTickSeconds))
    let outcome ← WorkerProg.poll worker.lease.serviceId (min now limit)
    let receipt := worker.polledReceipt rt now cycleIndex (min now limit) before outcome
    WorkerProg.appendTickReceipt rt receipt
    return receipt

def tick (tickAt : DateTime) : WorkerProg ScheduleWorkerTickReceipt := do
  let now ← .ofExcept (requireWorkerAware tickAt "tick_at")
  worker.requireLiveLock
  let validUntil ← .ofExcept (parseWorkerUtc rt worker.lease.validUntil "valid_until")
  .ofExcept (raiseIf (validUntil < now)
    (macroScheduleWorkerErr "schedule worker lease expired before tick"))
  worker.performTick rt now

/-- `release` of a lock that is held. -/
def releaseHeld (now : ℤ) : WorkerProg Unit := do
  WorkerProg.appendEvent rt (eventFor rt .released "worker_lock_released" worker.lease now
    (some (worker.lease.leaseSha256 rt)))
  WorkerProg.releaseLock worker.lock

def release (releasedAt : DateTime) : WorkerProg Unit := do
  let now ← .ofExcept (requireWorkerAware releasedAt "released_at")
  if ← WorkerProg.lockHeld worker.lock then worker.releaseHeld rt now
  else return ()

end ScheduleWorker

/-! ## Acquiring -/

/-- The arguments of `acquire`; what the service is polled with is not used otherwise. -/
structure WorkerAcquire where
  serviceId : String
  workerId : String
  acquiredAt : DateTime
  leaseSeconds : ℤ
  maxTickSeconds : ℤ

/-- `ScheduleWorkerAcquireResult`: the event, and the worker where the lock was given. -/
structure ScheduleWorkerAcquireResult where
  event : ScheduleWorkerLeaseEvent
  worker : Option ScheduleWorker

def serviceKey (rt : WorkerRuntime) (serviceId : String) : String :=
  rt.sha256 (.obj [("service_id", .str serviceId)])

namespace ScheduleWorkerManager

variable (rt : WorkerRuntime) (c : WorkerAcquire)

/-- `previous_sha` and `generation`. -/
def successor (previous : Option ScheduleWorkerLease) : Except PyError (Option String × ℤ) :=
  match previous with
  | none => .ok (none, 1)
  | some lease => do
      let sha ← requireWorkerSha256 (lease.leaseSha256 rt) "previous lease_sha256"
      let generation ← requireWorkerInt 1 none lease.generation "previous generation"
      return (some sha, generation + 1)

/-- The lease that `acquire` builds. -/
def firstLease (now validUntil : ℤ) (previousSha : Option String) (generation : ℤ) :
    ScheduleWorkerLease where
  serviceId := c.serviceId
  serviceKeySha256 := serviceKey rt c.serviceId
  workerId := c.workerId
  leaseId := "schedule-worker:" ++ rt.sha256 (.obj [("service_id", .str c.serviceId),
    ("worker_id", .str c.workerId), ("generation", .int generation),
    ("acquired_at", .str (utcIso now))])
  generation := generation
  renewalIndex := 0
  acquiredAt := utcIso now
  renewedAt := utcIso now
  validUntil := utcIso validUntil
  leaseSeconds := c.leaseSeconds
  maxTickSeconds := c.maxTickSeconds
  previousLeaseSha256 := previousSha

/-- `prior_open`: the last event of the service is no release. -/
def priorOpen (events : List ScheduleWorkerLeaseEvent) : Bool :=
  events.getLast?.any fun event => event.eventKind ≠ .released

/-- `acquire` where another lock holds the file. -/
def refuse (now : ℤ) : WorkerProg ScheduleWorkerAcquireResult := do
  let event : ScheduleWorkerLeaseEvent := {
    eventKind := .acquireHeld
    reason := "service_owned_by_live_worker"
    serviceId := c.serviceId
    serviceKeySha256 := serviceKey rt c.serviceId
    workerId := c.workerId
    eventAt := utcIso now
    leaseSha256 := none
    previousLeaseSha256 := none
    generation := none
    validUntil := none }
  WorkerProg.appendEvent rt event
  return ⟨event, none⟩

/-- `acquire` where the lock is given. -/
def take (now : ℤ) (lock : ℕ) : WorkerProg ScheduleWorkerAcquireResult := do
  let previous ← WorkerProg.latestLease c.serviceId
  let (previousSha, generation) ← .ofExcept (successor rt previous)
  let validUntil ← .ofExcept (datetime (now + secondsMicros c.leaseSeconds))
  let lease := firstLease rt c now validUntil previousSha generation
  .ofExcept (lease.validate rt)
  WorkerProg.appendLease lease
  let previousEvents ← WorkerProg.events c.serviceId
  let event := if priorOpen previousEvents then
      eventFor rt .orphanTakeover "os_lock_acquired_after_unreleased_prior_worker" lease now
        previousSha
    else eventFor rt .acquired "worker_ownership_acquired" lease now previousSha
  WorkerProg.appendEvent rt event
  return ⟨event, some ⟨lock, lease⟩⟩

/-- The checks of the arguments of `acquire`. -/
def checkArguments : Except PyError ℤ := do
  let _ ← requireWorkerText 512 c.serviceId "service_id"
  let _ ← requireWorkerText 512 c.workerId "worker_id"
  let now ← requireWorkerAware c.acquiredAt "acquired_at"
  let _ ← requireWorkerInt 1 (some maxLeaseSeconds) c.leaseSeconds "lease_seconds"
  let _ ← requireWorkerInt 1 (some maxLeaseSeconds) c.maxTickSeconds "max_tick_seconds"
  return now

def acquire : WorkerProg ScheduleWorkerAcquireResult := do
  let now ← .ofExcept (checkArguments c)
  let _ ← WorkerProg.current c.serviceId
  match ← WorkerProg.acquireLock (serviceKey rt c.serviceId) with
  | none => refuse rt c now
  | some lock => take rt c now lock

end ScheduleWorkerManager

end PhiOS
