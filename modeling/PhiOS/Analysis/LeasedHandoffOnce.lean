import PhiOS.Analysis.HandoffProtocol
import PhiOS.Analysis.BindingOnce

/-!
# A governed action lease is spent on one executor entry

`GovernedLeasedExecutionHandoff.execute` takes the lease claim before the inner handoff and gives
it back only when that handoff returns with an unconsumed binding. An exception of the inner
handoff leaves the claim, also where the inner handoff gives its own binding claim back. So the
lease claim obeys the claim protocol in every environment.
-/

set_option autoImplicit false

namespace PhiOS.Analysis

open Interaction RealityLedger

/-- Calls of `GovernedLeasedExecutionHandoff.execute` on one ledger directory. -/
def leasedSystem (iso : Iso8601) (sha256 : Json → String) (digest : Json → Except PyError String) :
    System LedgerOp.Reply PyError LeasedExecutionHandoffReceipt LedgerState
      LeasedExecutionRequest :=
  ledgerSystem (GovernedLeasedExecutionHandoff.execute iso sha256 digest)

/-- The claim of the lease, as the protocol of the inner handoff, which holds it all the
time and does not touch it. -/
theorem handoffView_lease (leaseSha bindingSha : String) :
    HandoffView (fun p o r => Phase.next (claimKind .actionLease leaseSha o r) p) (fun _ => True)
      bindingSha .held .held .held .entered where
  toRunView := runView_claim .actionLease leaseSha
  consumed := fun _ => rfl
  claim := fun r => by
    cases r.isCreated <;> simp [claimKind]
  release := fun _ => by simp [claimKind]
  releaseEntered := fun _ _ _ _ => by simp [claimKind]

section Obeys

variable {iso : Iso8601} {sha256 : Json → String} {digest : Json → Except PyError String}
  {request : LeasedExecutionRequest}

/-- The part after the claim: only an inner handoff that returns with an unconsumed
binding, and so without an entry, gives the claim back. -/
theorem obeys_leased_executeClaimed {currentEpoch : String} {evaluation : ActionLeaseEvaluation} :
    (GovernedLeasedExecutionHandoff.executeClaimed sha256 digest request currentEpoch
      evaluation).Obeys (LedgerFaults fun _ => True)
      (fun p o r => Phase.next
        (claimKind .actionLease (request.lease.actionLeaseSha256 sha256) o r) p)
      (fun _ _ => True) (fun _ _ => True) .held := by
  unfold GovernedLeasedExecutionHandoff.executeClaimed
  refine Prog.Obeys.bind (obeys_execute (handoffView_lease _ _)) ?_
  rintro p inner hinner
  cases hconsumed : inner.bindingConsumed with
  | false =>
      obtain rfl : p = .held := by simpa [hconsumed] using hinner
      refine Prog.Obeys.bind (obeys_releaseClaim (next_own_release .actionLease _) fun _ _ => trivial)
        ?_
      exact fun _ _ _ => trivial
  | true => trivial

/-- **The lease claim of a leased handoff obeys the claim protocol**, whatever the ledger and the
handler answer.
SOURCE: core/leased_execution_handoff.py:219-338 -/
theorem obeys_leased_execute :
    (GovernedLeasedExecutionHandoff.execute iso sha256 digest request).Obeys
      (LedgerFaults fun _ => True)
      (fun p o r => Phase.next
        (claimKind .actionLease (request.lease.actionLeaseSha256 sha256) o r) p)
      (fun _ _ => True) (fun _ _ => True) .fresh := by
  unfold GovernedLeasedExecutionHandoff.execute
  refine Prog.obeys_ofExcept_bind (fun _ _ => trivial) fun currentEpoch _ => ?_
  split
  · trivial
  split
  · trivial
  refine Prog.Obeys.bind (obeys_tryHasConsumedActionLease fun _ => rfl) ?_
  rintro _ (e | consumed) rfl
  · trivial
  refine Prog.obeys_ofExcept_bind (fun _ _ => trivial) fun evaluation _ => ?_
  split
  · trivial
  refine Prog.Obeys.bind (obeys_tryClaim (next_own_claim .actionLease _)) ?_
  rintro p (e | granted) hp
  · trivial
  cases granted with
  | false => trivial
  | true =>
      obtain rfl := hp
      exact obeys_leased_executeClaimed

end Obeys

/-- MAIN: **a governed action lease is spent on at most one executor entry.** For any number of
callers on one ledger, in any interleaving, wherever a call raises or dies and whatever the
handlers and the ledger answer: the executor is entered at most once for each lease, and a call
that releases its lease claim has not entered it.
SOURCE: core/leased_execution_handoff.py:219-338 -/
theorem action_lease_entered_once {iso : Iso8601} {sha256 : Json → String}
    {digest : Json → Except PyError String}
    {s : Pool LedgerOp.Reply PyError LeasedExecutionHandoffReceipt LedgerState
      LeasedExecutionRequest}
    (hs : (leasedSystem iso sha256 digest).Reachable (fun _ => True) (fun _ _ => True) s) :
    (∀ sha, s.history.countP
      (fun e => e.op.enters && e.call.lease.actionLeaseSha256 sha256 = sha) ≤ 1) ∧
    ∀ e ∈ s.history, ∀ e' ∈ s.history, e.thread = e'.thread →
      e.op = .release .actionLease (e.call.lease.actionLeaseSha256 sha256) →
      e'.op.enters = false := by
  obtain ⟨honce, hreleased⟩ := (ledgerPart _).entered_once
    (fun _ : LeasedExecutionRequest => obeys_leased_execute)
    (fun _ _ _ => ledgerFaults_true _ _) hs
  exact ⟨honce, fun e he e' he' hthread hrelease =>
    hreleased e he e' he' hthread ⟨_, rfl, hrelease⟩⟩

/-! ### A lease that outlasts its binding claim -/

/-- The request for `draftBinding` behind the lease of the first hour. -/
def hourlyRequest : LeasedExecutionRequest where
  plan := draftPlan
  binding := draftBinding
  payload := textPayload
  spine := handoffSpine
  lease := hourlyLease
  verification := {
    leaseSha256 := emptySha256
    issuerId := "console"
    authorizationReceiptSha256 := emptySha256
    verifierId := "verifier"
    verificationReceiptSha256 := emptySha256
    accepted := true }
  currentAuthorityEpochSha256 := emptySha256
  checkedAt := "2026-01-01T00:00:00+00:00"

/-- Two such requests, where the handler raises and its abort receipt is too large: the inner
handoff gives its binding claim back. -/
def leasedOversizeRun :
    Pool LedgerOp.Reply PyError LeasedExecutionHandoffReceipt LedgerState LeasedExecutionRequest :=
  ledgerRun (GovernedLeasedExecutionHandoff.execute hourlyIso (fun _ => emptySha256) oneDigest)
    (.error verboseError) (.lost oversizeRecord) [hourlyRequest, hourlyRequest]

example : leasedOversizeRun.history.countP (fun e => e.op.enters) = 1 ∧
    leasedOversizeRun.world.claims .binding = [] ∧
    leasedOversizeRun.world.claims .actionLease = [emptySha256] := by
  decide +kernel

/-- The second request behind the lease does not enter the executor, although the binding is free
again. -/
theorem action_lease_entered_once_oversize :
    leasedOversizeRun.history.countP (fun e => e.op.enters &&
      e.call.lease.actionLeaseSha256 (fun _ => emptySha256) = emptySha256) ≤ 1 :=
  (action_lease_entered_once (reachable_ledgerRun fun _ _ _ _ => trivial)).1 emptySha256

end PhiOS.Analysis
