import PhiOS.Analysis.HandoffProtocol
import PhiOS.Analysis.LedgerClaims
import PhiOS.Analysis.SpineEntry
import PhiOS.Analysis.LeaseWithinAuthority

/-!
# A governed action binding is executed once, unless a late append is rejected

`GovernedExecutionHandoff.execute` gives its binding claim back when the spine run raises a
`KeyError`, a `TypeError` or a `ValueError`, and takes it for one raised before the executor. The
appends after the handler's answer can raise a `ValueError` too. In runs where they do not, the
executor is entered at most once for each binding; one run where one does enters it twice.
-/

set_option autoImplicit false

namespace PhiOS.Analysis

open Interaction RealityLedger

/-- Calls of `GovernedExecutionHandoff.execute` on one ledger directory. -/
def bindingSystem (digest : Json → Except PyError String) :
    System LedgerOp.Reply PyError ExecutionHandoffReceipt LedgerState ExecutionRequest :=
  ledgerSystem (GovernedExecutionHandoff.execute digest)

/-- No append after the executor was entered, that of the receipt of a success apart, raises what
the handoff takes for a rejection before the executor. -/
def LateAppendsAccepted : (o : LedgerOp) → o.Reply → Prop :=
  LedgerFaults fun e => e.cls.isKeyTypeOrValueError = false

theorem runView_claim (kind : ClaimKind) (sha : String) :
    RunView (fun p o r => Phase.next (claimKind kind sha o r) p) .held .entered where
  spine := fun p o r ho => by
    cases o with
    | execute c p => cases ho
    | uuid4 | now | mandalaAppend _ | ledgerAppend _ => simp [claimKind]
  enter := fun o r ho => by
    cases o with
    | execute c p => rfl
    | uuid4 | now | mandalaAppend _ | ledgerAppend _ => cases ho

theorem next_own_claim (kind : ClaimKind) (sha : String) (r : ClaimReply) :
    Phase.next (claimKind kind sha (.claim kind sha) r) .fresh =
      some (if r.isCreated then .held else .fresh) := by
  cases hcreated : r.isCreated <;> simp [claimKind, hcreated]

theorem next_own_release (kind : ClaimKind) (sha : String) (r : ReleaseReply) :
    Phase.next (claimKind kind sha (.release kind sha) r) .held = some .released := by
  simp [claimKind]

theorem handoffView_binding (sha : String) :
    HandoffView (fun p o r => Phase.next (claimKind .binding sha o r) p)
      (fun e => e.cls.isKeyTypeOrValueError = false) sha .fresh .held .released .entered where
  toRunView := runView_claim .binding sha
  consumed := fun _ => rfl
  claim := next_own_claim .binding sha
  release := next_own_release .binding sha
  releaseEntered := fun e hfault hcaught => by simp [hfault] at hcaught

/-- One digest for every value. -/
def oneDigest (_ : Json) : Except PyError String := .ok emptySha256

/-- A spine that may write artifacts, with this digest. -/
def handoffSpine : PhiOSSpine := { textSpine with digests := ⟨oneDigest, oneDigest⟩ }

/-- A plan of one transition. -/
def draftPlan : PlanState where
  schema := "phios.plan_state.v0.6"
  planId := "plan"
  revision := 0
  pathIds := ["draft", "written"]
  sourceRouteReceiptSha256 := emptySha256
  sourceReplanReceiptSha256 := none
  parentPlanSha256 := none
  actionAuthority := false
  executionAuthority := false
  stateSha256 := emptySha256

/-- The binding of its transition to the built-in capability. -/
def draftBinding : PlanActionBinding where
  schema := "phios.plan_action_binding.v0.7.1"
  planId := "plan"
  planStateSha256 := emptySha256
  planRevision := 0
  transitionIndex := 0
  sourceStateId := "draft"
  targetStateId := "written"
  capabilityId := "commons.text_artifact"
  capabilityVersion := "0.1.0"
  capabilityRisk := "low"
  permissionsRequested := ["artifact.write"]
  effectsDeclared := ["filesystem.change"]
  payloadSha256 := emptySha256
  grantId := "grant"
  grantSha256 := emptySha256
  authoritySource := "operator"
  actionAuthority := false
  executionAuthority := false
  bindingSha256 := emptySha256

def draftRequest : ExecutionRequest where
  plan := draftPlan
  binding := draftBinding
  payload := textPayload
  spine := handoffSpine

theorem lateAppendsAccepted_ledgerAnswer (handler : Except PyError ArtifactResult)
    (w : LedgerState) (o : LedgerOp) :
    LateAppendsAccepted o (ledgerAnswer handler .stored w o) := by
  cases o with
  | spine o =>
      intro _ e he
      cases o with
      | mandalaAppend m => cases m <;> cases he
      | uuid4 | now | ledgerAppend _ | execute _ _ => cases he
  | claim _ _ | release _ _ | hasConsumedBinding _ | hasConsumedActionLease _ => trivial

/-- Two requests for one binding, whose handler returns. -/
def writtenRun : Pool LedgerOp.Reply PyError ExecutionHandoffReceipt LedgerState ExecutionRequest :=
  ledgerRun (GovernedExecutionHandoff.execute oneDigest) (.ok ⟨"draft.txt", emptySha256⟩) .stored
    [draftRequest, draftRequest]

/-- The ledger appends raise `OSError` or `ValueError` only. -/
def AppendsRaiseOSOrValueError : (o : LedgerOp) → o.Reply → Prop
  | .spine o, r => ∀ e ∈ appendFault o r, GovernedExecutionHandoff.isOSOrValueError e = true
  | _, _ => True

/-- `ValueError` of an oversize record. -/
def oversizeRecord : StorageFault :=
  ⟨⟨.valueError, "state record exceeds 16 MiB", []⟩, by decide⟩

theorem appendsRaise_oversize (handler : Except PyError ArtifactResult) (w : LedgerState)
    (o : LedgerOp) :
    AppendsRaiseOSOrValueError o (ledgerAnswer handler (.lost oversizeRecord) w o) := by
  cases o with
  | spine o =>
      intro e he
      cases o with
      | mandalaAppend m =>
          cases m with
          | abort r =>
              obtain rfl : oversizeRecord.1 = e := by simpa [ledgerAnswer, appendFault] using he
              rfl
          | effectBoundary _ | gate _ | action _ => cases he
      | uuid4 | now | ledgerAppend _ | execute _ _ => cases he
  | claim _ _ | release _ _ | hasConsumedBinding _ | hasConsumedActionLease _ => trivial

/-- An exception with a text of 16 MiB, which is too long for an abort receipt. -/
def verboseError : PyError :=
  ⟨.exception "RuntimeError", String.ofList (List.replicate (16 * 1024 * 1024) 'x'), []⟩

/-- Two requests for one binding, whose handler raises this exception. -/
def oversizeRun : Pool LedgerOp.Reply PyError ExecutionHandoffReceipt LedgerState ExecutionRequest :=
  ledgerRun (GovernedExecutionHandoff.execute oneDigest) (.error verboseError)
    (.lost oversizeRecord) [draftRequest, draftRequest]

end PhiOS.Analysis
