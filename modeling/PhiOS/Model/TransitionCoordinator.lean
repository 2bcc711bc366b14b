import PhiOS.Model.Value
import Mathlib.Data.Rat.Floor

/-!
# The transition coordinator

`macro_transition_coordinator.py`: a coordinator keeps one baseline, the state of the desktop before
an action. `refresh_baseline` fills the slot, `clear_baseline` empties it, and
`handle_listener_outcome` takes the baseline out before it looks at anything else. The clock, the
frame provider, the state observer, the inferer and the ledger answer as they like, or raise.
-/

set_option autoImplicit false

namespace PhiOS

def transitionBaselineSchemaVersion : String := "phios.ghostwalk_transition_baseline.v0.22"
def maxBaselineAgeMs : ℤ := 5000

/-- What the coordinator takes from the standard library; a float is the number it is. -/
structure CoordinatorRuntime where
  /-- `_canonical_sha256`. -/
  sha256 : Json → String
  iso : Iso8601
  /-- The double that the exact result of an operation is rounded to. -/
  fl : ℚ → ℚ

namespace TransitionCoordinator

/-- `TransitionCoordinatorContractError(message)`. -/
def err (message : String) : PyError := ⟨.transitionCoordinatorContractError, message, []⟩

/-- `_require_text`. -/
def text (value field : String) (maximum : ℕ := 4096) : Except PyError String :=
  requireText .transitionCoordinatorContractError maximum value field

/-- The instant of a timestamp that `_require_timestamp` lets pass. -/
def instantOf (rt : CoordinatorRuntime) (value field : String) : Except PyError ℤ :=
  parseTimeSaying " must include a timezone" rt.iso .transitionCoordinatorContractError value field

def requireTimestamp (rt : CoordinatorRuntime) (value field : String) : Except PyError String := do
  let _ ← instantOf rt value field
  return value

/-- `_require_timestamp(self._clock(), field)`. -/
def readClock (rt : CoordinatorRuntime) (clock : Except PyError String) (field : String) :
    Except PyError String := do
  requireTimestamp rt (← clock) field

def timestamp (rt : CoordinatorRuntime) (value : String) : Except PyError ℤ :=
  instantOf rt value "timestamp"

/-! ## Frames and snapshots -/

/-- The fields of a frame that `_stable_frame_body` keeps. -/
structure FrameScope where
  processId : String
  windowTitleSha256 : String
  leftPx : ℤ
  topPx : ℤ
  widthPx : ℤ
  heightPx : ℤ
  displayScalePercent : ℤ
  foreground : Bool
  deriving DecidableEq

structure WindowFrame extends FrameScope where
  capturedAt : String
  deriving DecidableEq

/-- `_stable_frame_body`. -/
def FrameScope.body (scope : FrameScope) : Row :=
  [("process_id", .str scope.processId), ("window_title_sha256", .str scope.windowTitleSha256),
    ("left_px", .int scope.leftPx), ("top_px", .int scope.topPx), ("width_px", .int scope.widthPx),
    ("height_px", .int scope.heightPx), ("display_scale_percent", .int scope.displayScalePercent),
    ("foreground", .bool scope.foreground)]

/-- `body_dict` of a frame. -/
def WindowFrame.bodyDict (frame : WindowFrame) : Row :=
  [("schema_version", .str "phios.interaction_frame.v0.12")] ++ frame.body ++
    [("captured_at", .str frame.capturedAt), ("operational_authority", .bool false),
      ("action_authority", .bool false), ("execution_authority", .bool false)]

def WindowFrame.frameSha256 (rt : CoordinatorRuntime) (frame : WindowFrame) : String :=
  rt.sha256 (.obj frame.bodyDict)

def sameFrameScope (first second : WindowFrame) : Bool := first.toFrameScope = second.toFrameScope

inductive SnapshotPhase
  | before
  | after
  deriving DecidableEq

/-- `GhostWalkUiStateSnapshot`; the targets are the JSON they are written as. -/
structure GhostWalkUiStateSnapshot where
  sessionId : String
  actionObservationSha256 : String
  phase : SnapshotPhase
  processId : String
  windowTitleSha256 : String
  frameSha256 : String
  semanticTargets : List Json
  observedAt : String

/-- `body_dict` of a snapshot. -/
def GhostWalkUiStateSnapshot.bodyDict (snapshot : GhostWalkUiStateSnapshot) : Row :=
  [("schema_version", .str "phios.ghostwalk_ui_state_snapshot.v0.20"),
    ("session_id", .str snapshot.sessionId),
    ("action_observation_sha256", .str snapshot.actionObservationSha256),
    ("phase", .str (match snapshot.phase with | .before => "BEFORE" | .after => "AFTER")),
    ("process_id", .str snapshot.processId),
    ("window_title_sha256", .str snapshot.windowTitleSha256),
    ("frame_sha256", .str snapshot.frameSha256), ("semantic_targets", .arr snapshot.semanticTargets),
    ("observed_at", .str snapshot.observedAt), ("operational_authority", .bool false),
    ("action_authority", .bool false), ("execution_authority", .bool false)]

def GhostWalkUiStateSnapshot.snapshotSha256 (rt : CoordinatorRuntime)
    (snapshot : GhostWalkUiStateSnapshot) : String :=
  rt.sha256 (.obj snapshot.bodyDict)

/-- `UiaStateObservationOutcome`, its receipt being known by its digest. -/
structure UiaStateObservationOutcome where
  receiptSha256 : String
  snapshot : Option GhostWalkUiStateSnapshot

/-! ## Baselines -/

structure GhostWalkTransitionBaseline where
  sessionId : String
  baselineBindingSha256 : String
  frame : WindowFrame
  stateObservationReceiptSha256 : String
  stateSnapshot : GhostWalkUiStateSnapshot
  capturedAt : String

namespace GhostWalkTransitionBaseline

/-- `__post_init__`. -/
def checked (rt : CoordinatorRuntime) (baseline : GhostWalkTransitionBaseline) :
    Except PyError GhostWalkTransitionBaseline := do
  let snapshot := baseline.stateSnapshot
  let _ ← text baseline.sessionId "session_id" 512
  let _ ← requireSha256 .transitionCoordinatorContractError baseline.baselineBindingSha256
    "baseline_binding_sha256"
  let _ ← requireSha256 .transitionCoordinatorContractError baseline.stateObservationReceiptSha256
    "state_observation_receipt_sha256"
  let _ ← requireTimestamp rt baseline.capturedAt "captured_at"
  raiseIf (snapshot.sessionId ≠ baseline.sessionId)
    (err "baseline snapshot session differs from baseline")
  raiseIf (snapshot.actionObservationSha256 ≠ baseline.baselineBindingSha256)
    (err "baseline snapshot binding hash mismatch")
  raiseIf (snapshot.phase ≠ .before) (err "baseline snapshot must use BEFORE phase")
  raiseIf (snapshot.frameSha256 ≠ baseline.frame.frameSha256 rt)
    (err "baseline snapshot frame hash mismatch")
  raiseIf (snapshot.processId ≠ baseline.frame.processId)
    (err "baseline process differs from frame")
  raiseIf (snapshot.windowTitleSha256 ≠ baseline.frame.windowTitleSha256)
    (err "baseline title differs from frame")
  raiseIf (snapshot.observedAt ≠ baseline.capturedAt) (err "baseline timestamps differ")
  return baseline

def baselineSha256 (rt : CoordinatorRuntime) (baseline : GhostWalkTransitionBaseline) : String :=
  rt.sha256 (.obj [("schema_version", .str transitionBaselineSchemaVersion),
    ("session_id", .str baseline.sessionId),
    ("baseline_binding_sha256", .str baseline.baselineBindingSha256),
    ("frame", .obj (baseline.frame.bodyDict ++
      [("frame_sha256", .str (baseline.frame.frameSha256 rt))])),
    ("state_observation_receipt_sha256", .str baseline.stateObservationReceiptSha256),
    ("state_snapshot", .obj (baseline.stateSnapshot.bodyDict ++
      [("snapshot_sha256", .str (baseline.stateSnapshot.snapshotSha256 rt))])),
    ("captured_at", .str baseline.capturedAt), ("operational_authority", .bool false),
    ("action_authority", .bool false), ("execution_authority", .bool false)])

end GhostWalkTransitionBaseline

/-- The settings of a coordinator, as its constructor lets them pass. -/
structure Settings where
  coordinatorId : String
  operatorAuthorId : String
  maxBaselineAge : ℤ
  postActionDelayMs : ℤ
  maxBaselineAge_bounds : 1 ≤ maxBaselineAge ∧ maxBaselineAge ≤ maxBaselineAgeMs

/-- What a refresh is answered with. -/
structure RefreshAnswers where
  clock : Except PyError String
  frame : Except PyError (Option WindowFrame)
  state : Except PyError UiaStateObservationOutcome

variable (rt : CoordinatorRuntime) (settings : Settings)

/-- The digest that a baseline is bound to. -/
def baselineBinding (sessionId : String) (frame : WindowFrame) (observedAt : String) : String :=
  rt.sha256 (.obj [("schema", .str "phios.ghostwalk_baseline_binding.v0.22"),
    ("coordinator_id", .str settings.coordinatorId), ("session_id", .str sessionId),
    ("frame_scope", .obj frame.body), ("observed_at", .str observedAt)])

/-- What `refresh_baseline` returns. -/
def capturedBaseline (sessionId : String) (answers : RefreshAnswers) :
    Except PyError (Option GhostWalkTransitionBaseline) := do
  let sessionId ← text sessionId "session_id" 512
  let observedAt ← readClock rt answers.clock "baseline_observed_at"
  match ← answers.frame with
  | none => return none
  | some frame =>
      if frame.foreground = false then return none
      else do
        let state ← answers.state
        match state.snapshot with
        | none => return none
        | some snapshot => do
            let baseline ← GhostWalkTransitionBaseline.checked rt {
              sessionId
              baselineBindingSha256 := baselineBinding rt settings sessionId frame observedAt
              frame
              stateObservationReceiptSha256 := state.receiptSha256
              stateSnapshot := snapshot
              capturedAt := observedAt }
            return some baseline

/-- `refresh_baseline`: what it returns, and the slot. -/
def refreshBaseline (slot : Option GhostWalkTransitionBaseline) (sessionId : String)
    (answers : RefreshAnswers) :
    Except PyError (Option GhostWalkTransitionBaseline) × Option GhostWalkTransitionBaseline :=
  match capturedBaseline rt settings sessionId answers with
  | .ok baseline => (.ok baseline, baseline)
  | .error e => (.error e, slot)

/-! ## Outcomes -/

inductive CaptureStatus
  | recorded
  | held
  deriving DecidableEq

/-- `GhostWalkListenerOutcome`, with what the coordinator reads of its parts. -/
structure GhostWalkListenerOutcome where
  sessionId : String
  receiptSha256 : String
  injected : Bool
  captureStatus : CaptureStatus
  /-- `pointer_event.observed_at`. -/
  clickObservedAt : String
  pointerEventSha256 : String
  /-- `capture_outcome.observation.observation_sha256`. -/
  observation : Option String
  clickFrame : Option WindowFrame

inductive TransitionCoordinatorStatus
  | completed
  | held
  | ignored
  deriving DecidableEq

inductive TransitionCoordinatorReason
  | inferenceRecorded
  | injectedEvent
  | captureNotRecorded
  | noBaseline
  | sessionMismatch
  | baselineTimeInvalid
  | baselineStale
  | baselineScopeDrift
  | clickFrameUnavailable
  | afterFrameUnavailable
  | afterStateHeld
  deriving DecidableEq

structure TransitionCoordinatorReceipt where
  coordinatorId : String
  sessionId : String
  listenerReceiptSha256 : String
  pointerEventSha256 : String
  actionObservationSha256 : Option String := none
  baselineSha256 : Option String
  baselineStateObservationReceiptSha256 : Option String
  baselineAgeMs : Option ℤ := none
  reboundBeforeSnapshotSha256 : Option String := none
  afterStateObservationReceiptSha256 : Option String := none
  afterSnapshotSha256 : Option String := none
  inferenceReceiptSha256 : Option String := none
  operatorNoteRevisionSha256 : Option String := none
  status : TransitionCoordinatorStatus
  reason : TransitionCoordinatorReason
  baselineConsumed : Bool
  coordinatedAt : String

/-- What a handled outcome is answered with. The inference and the note are known by their digests,
and may depend on the two snapshots. -/
structure HandleAnswers where
  clock : Except PyError String
  pause : Except PyError Unit := .ok ()
  afterClock : Except PyError String
  afterFrame : Except PyError (Option WindowFrame)
  afterState : Except PyError UiaStateObservationOutcome
  inferredClock : Except PyError String
  inference : GhostWalkUiStateSnapshot → GhostWalkUiStateSnapshot → String → Except PyError String
  noteClock : Except PyError String
  note : String → String → String → Except PyError String
  append : TransitionCoordinatorReceipt → Except PyError Unit

/-- `int(value)`, which drops what is behind the point. -/
def truncate (value : ℚ) : ℤ := if 0 ≤ value then ⌊value⌋ else ⌈value⌉

/-- `_baseline_age_ms`, of times in microseconds. -/
def baselineAgeMs (baseline : GhostWalkTransitionBaseline) (clickObservedAt : String) :
    Except PyError (Option ℤ) := do
  let delta := (← timestamp rt clickObservedAt) - (← timestamp rt baseline.capturedAt)
  let milliseconds := truncate (rt.fl (rt.fl (delta / 1000000) * 1000))
  return if milliseconds < 0 then none else some milliseconds

/-- The fields of a receipt that every outcome has. -/
def receiptOf (outcome : GhostWalkListenerOutcome) (baseline : Option GhostWalkTransitionBaseline)
    (coordinatedAt : String) (status : TransitionCoordinatorStatus)
    (reason : TransitionCoordinatorReason) : TransitionCoordinatorReceipt where
  coordinatorId := settings.coordinatorId
  sessionId := outcome.sessionId
  listenerReceiptSha256 := outcome.receiptSha256
  pointerEventSha256 := outcome.pointerEventSha256
  baselineSha256 := baseline.map (·.baselineSha256 rt)
  baselineStateObservationReceiptSha256 := baseline.map (·.stateObservationReceiptSha256)
  status
  reason
  baselineConsumed := baseline.isSome
  coordinatedAt

def finish (answers : HandleAnswers) (receipt : TransitionCoordinatorReceipt) :
    Except PyError TransitionCoordinatorReceipt := do
  answers.append receipt
  return receipt

/-- The snapshot of a baseline, bound to the action that was observed. -/
def reboundBefore (baseline : GhostWalkTransitionBaseline) (observation : String) :
    GhostWalkUiStateSnapshot :=
  { baseline.stateSnapshot with
    sessionId := baseline.sessionId
    actionObservationSha256 := observation
    phase := .before }

/-- The pause after the action, where one is set. -/
def pauseAfterAction (answers : HandleAnswers) : Except PyError Unit :=
  if settings.postActionDelayMs = 0 then .ok () else answers.pause

/-- `handle_listener_outcome` from the captured state before the action on. -/
def observeAfter (outcome : GhostWalkListenerOutcome) (answers : HandleAnswers)
    (baseline : GhostWalkTransitionBaseline) (coordinatedAt observation : String) (ageMs : ℤ) :
    Except PyError TransitionCoordinatorReceipt := do
  let before := reboundBefore baseline observation
  let receipt := fun status reason =>
    { receiptOf rt settings outcome (some baseline) coordinatedAt status reason with
      baselineAgeMs := some ageMs
      actionObservationSha256 := some observation
      reboundBeforeSnapshotSha256 := some (before.snapshotSha256 rt) }
  pauseAfterAction settings answers
  let _ ← readClock rt answers.afterClock "after_observed_at"
  match ← answers.afterFrame with
  | none => finish answers (receipt .held .afterFrameUnavailable)
  | some _ => do
      let afterState ← answers.afterState
      match afterState.snapshot with
      | none => finish answers { receipt .held .afterStateHeld with
          afterStateObservationReceiptSha256 := some afterState.receiptSha256 }
      | some after => do
          let inferredAt ← readClock rt answers.inferredClock "inferred_at"
          let inference ← answers.inference before after inferredAt
          let createdAt ← readClock rt answers.noteClock "operator_note_created_at"
          let note ← answers.note inference ("ghostwalk-transition:" ++ observation) createdAt
          finish answers { receipt .completed .inferenceRecorded with
            afterStateObservationReceiptSha256 := some afterState.receiptSha256
            afterSnapshotSha256 := some (after.snapshotSha256 rt)
            inferenceReceiptSha256 := some inference
            operatorNoteRevisionSha256 := some note }

/-- `handle_listener_outcome` behind the line that empties the slot. -/
def coordinate (outcome : GhostWalkListenerOutcome) (answers : HandleAnswers)
    (slot : Option GhostWalkTransitionBaseline) (coordinatedAt : String) :
    Except PyError TransitionCoordinatorReceipt :=
  let receipt := receiptOf rt settings outcome slot coordinatedAt
  if outcome.injected then finish answers (receipt .ignored .injectedEvent)
  else match (if outcome.captureStatus = .recorded then outcome.observation else none) with
    | none => finish answers (receipt .held .captureNotRecorded)
    | some observation =>
        let observed := fun reason =>
          { receipt .held reason with actionObservationSha256 := some observation }
        match outcome.clickFrame, slot with
        | none, _ => finish answers (observed .clickFrameUnavailable)
        | some _, none => finish answers (observed .noBaseline)
        | some clickFrame, some baseline =>
            if baseline.sessionId ≠ outcome.sessionId then
              finish answers (observed .sessionMismatch)
            else do
              match ← baselineAgeMs rt baseline outcome.clickObservedAt with
              | none => finish answers (observed .baselineTimeInvalid)
              | some ageMs =>
                  if settings.maxBaselineAge < ageMs then
                    finish answers { observed .baselineStale with baselineAgeMs := some ageMs }
                  else if sameFrameScope baseline.frame clickFrame = false then
                    finish answers { observed .baselineScopeDrift with baselineAgeMs := some ageMs }
                  else
                    observeAfter rt settings outcome answers baseline coordinatedAt observation ageMs

/-- `handle_listener_outcome`: what it returns, and the slot. -/
def handleListenerOutcome (slot : Option GhostWalkTransitionBaseline)
    (outcome : GhostWalkListenerOutcome) (answers : HandleAnswers) :
    Except PyError TransitionCoordinatorReceipt × Option GhostWalkTransitionBaseline :=
  match readClock rt answers.clock "coordinated_at" with
  | .error e => (.error e, slot)
  | .ok coordinatedAt => (coordinate rt settings outcome answers slot coordinatedAt, none)

end TransitionCoordinator

end PhiOS
