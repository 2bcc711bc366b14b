import PhiOS.Analysis.BindingOnce
import PhiOS.Model.LeaseExecutionHandoff

/-!
# A Ghost-Walk action lease is spent once, unless a late append is rejected

`GhostWalkLeaseExecutionHandoff.execute` sorts the exceptions of its spine run by type: a
`KeyError`, a `TypeError` or a `ValueError` gives the lease claim back. In runs where no append
after the handler's answer raises one of these, the executor is entered at most once for each
lease; one run where one does enters it twice.
-/

set_option autoImplicit false

namespace PhiOS.Analysis

open Interaction RealityLedger GhostWalk GhostWalkLeaseExecutionHandoff

/-! ## Ghost-Walk programs and the ledger directory -/

/-- Calls of a Ghost-Walk service on one trusted state. -/
def ghostWalkSystem {α Call : Type} (sha256 : Json → String) (body : Call → GhostWalkProg α) :
    System GhostWalkOp.Reply PyError α GhostWalkState Call where
  body := body
  effect := GhostWalkState.Effect sha256

/-- The operation on the ledger directory that an operation is, if it is one. -/
def ledgerEvent : (o : GhostWalkOp) → o.Reply → Option (Prog.Event LedgerOp.Reply)
  | .ledger o, r => some ⟨o, r⟩
  | .acquire _, _ | .release _, _ | .clock, _ | .latestBinding _, _ | .bindingReadiness _, _
  | .currentEpoch, _ | .leaseRecords _, _ | .appendLeaseRecord _, _
  | .appendExecutionReceipt _, _ => none

/-- The operation is one on the ledger directory. -/
def actsOnLedger : GhostWalkOp → Bool
  | .ledger _ => true
  | _ => false

/-- SOURCE: macro_lease_execution_handoff.py -/
theorem ledgerEvent_eq_none {o : GhostWalkOp} (ho : actsOnLedger o = false)
    (r : o.Reply) : ledgerEvent o r = none := by
  cases o <;> first | rfl | cases ho

/-- The ledger directory is part of the trusted state. -/
def ghostWalkPart {α Call : Type} (sha256 : Json → String) (body : Call → GhostWalkProg α) :
    LedgerPart (ghostWalkSystem sha256 body) where
  ledger := GhostWalkState.ledger
  view := ledgerEvent
  acts := fun w o r w' e hview heffect => by
    obtain ⟨hadmits, rfl⟩ := heffect
    cases o with
    | ledger o =>
        obtain rfl := Option.some.inj hview
        exact ⟨hadmits, rfl⟩
    | acquire _ | release _ | clock | latestBinding _ | bindingReadiness _ | currentEpoch
    | leaseRecords _ | appendLeaseRecord _ | appendExecutionReceipt _ => cases hview
  leaves := fun w o r w' hview heffect => by
    obtain ⟨-, rfl⟩ := heffect
    cases o with
    | ledger o => cases hview
    | acquire _ | release _ | clock | latestBinding _ | bindingReadiness _ | currentEpoch
    | leaseRecords _ | appendLeaseRecord _ | appendExecutionReceipt _ => rfl

/-- What an operation means for a call that claims the lease `sha`. -/
def leaseKind (sha : String) (o : GhostWalkOp) (r : o.Reply) : Kind :=
  match ledgerEvent o r with
  | some e => claimKind .actionLease sha e.1 e.2
  | none => .other

/-- The local protocol of such a call. -/
def leaseNext (sha : String) (p : Phase) (o : GhostWalkOp) (r : o.Reply) : Option Phase :=
  Phase.next (leaseKind sha o r) p

/-- The environments whose ledger directory keeps to `LedgerFaults F`. -/
def GhostWalkFaults (F : PyError → Prop) : (o : GhostWalkOp) → o.Reply → Prop
  | .ledger o, r => LedgerFaults F o r
  | _, _ => True

section Obeys

variable {F : PyError → Prop} {sha : String} {p q : Phase} {α : Type}

/-- SOURCE: macro_lease_execution_handoff.py:477-682 -/
theorem leaseNext_of_not_acts {o : GhostWalkOp} (ho : actsOnLedger o = false)
    (r : o.Reply) : leaseNext sha p o r = some p := by
  unfold leaseNext leaseKind
  rw [ledgerEvent_eq_none ho, Phase.next_other]

theorem obeys_off_ledger {o : GhostWalkOp} (ho : actsOnLedger o = false)
    {f : o.Reply → GhostWalkProg α} {Q : Phase → α → Prop} {E : Phase → PyError → Prop}
    (hf : ∀ r, (f r).Obeys (GhostWalkFaults F) (leaseNext sha) Q E p) :
    ((Prog.call o).bind f).Obeys (GhostWalkFaults F) (leaseNext sha) Q E p :=
  Prog.obeys_call_bind_of_skip (fun r => leaseNext_of_not_acts ho r) fun r _ => hf r

/-- A program on the ledger directory obeys the protocol of the lease where it obeys the
claim protocol. -/
theorem obeys_onLedger {program : LedgerProg α} {Q : Phase → α → Prop} {E : Phase → PyError → Prop}
    (h : program.Obeys (LedgerFaults F)
      (fun p o r => Phase.next (claimKind .actionLease sha o r) p) Q E p) :
    (onLedger program).Obeys (GhostWalkFaults F) (leaseNext sha) Q E p :=
  h.hoist (fun _ _ hr => hr) fun _ _ _ => rfl

/-! ### The parts of a call -/

variable {iso : Iso8601} {sha256 : Json → String}

theorem obeys_recordReceipt {attemptedAt reason : String} {found : Recovered}
    {status : HandoffStatus} {execution : Option ExecutionReceipt}
    {entered claimed consumed replay : Bool} {effect : Option Bool} :
    (recordReceipt iso sha256 sha attemptedAt found status reason execution entered claimed consumed
      replay effect).Obeys (GhostWalkFaults F) (leaseNext sha) (fun _ _ => True) (fun _ _ => True)
      p := by
  unfold recordReceipt
  refine Prog.obeys_ofExcept_bind (fun _ _ => trivial) fun _ _ => ?_
  refine Prog.Obeys.bind (Q := fun _ _ => True) ?_ fun _ _ _ => trivial
  refine obeys_off_ledger rfl fun _ => ?_
  exact Prog.obeys_ofExcept (fun _ _ => trivial) fun _ _ => trivial

/-- SOURCE: macro_lease_execution_handoff.py:775-800 -/
theorem obeys_leaseRecord :
    (leaseRecord sha256 sha).Obeys (GhostWalkFaults F) (leaseNext sha) (fun q _ => q = p)
      (fun _ _ => True) p := by
  unfold leaseRecord
  refine Prog.Obeys.bind (Q := fun q _ => q = p) (obeys_off_ledger rfl fun _ =>
    Prog.obeys_ofExcept (fun _ _ => rfl) fun _ _ => trivial) ?_
  rintro q rows rfl
  refine Prog.obeys_ofExcept_bind (fun _ _ => trivial) fun records _ => ?_
  split
  · rfl
  · split
    · trivial
    · rfl
  · trivial

/-- SOURCE: macro_lease_execution_handoff.py:802-830 -/
theorem obeys_currentBinding {record : GhostWalkActionLeaseRecord} :
    (currentBinding sha256 record).Obeys (GhostWalkFaults F) (leaseNext sha) (fun q _ => q = p)
      (fun _ _ => True) p := by
  unfold currentBinding
  refine obeys_off_ledger rfl fun _ => ?_
  refine Prog.obeys_ofExcept_bind (fun _ _ => trivial) fun binding _ => ?_
  refine obeys_off_ledger rfl fun _ => ?_
  refine Prog.obeys_ofExcept_bind (fun _ _ => trivial) fun readiness _ => ?_
  cases binding with
  | none => rfl
  | some binding =>
      dsimp only
      split
      · rfl
      · split <;> rfl

/-- SOURCE: macro_lease_execution_handoff.py:860-875 -/
theorem obeys_currentEpoch :
    currentEpoch.Obeys (GhostWalkFaults F) (leaseNext sha) (fun q _ => q = p)
      (fun _ _ => True) p := by
  unfold currentEpoch
  refine obeys_off_ledger rfl fun _ => ?_
  exact Prog.obeys_ofExcept (fun _ _ => rfl) fun _ _ => trivial

/-- SOURCE: macro_lease_execution_handoff.py:590-615 -/
theorem obeys_evaluate {attemptedAt : String} {record : GhostWalkActionLeaseRecord}
    {epoch : AuthorityEpoch} :
    (evaluate iso sha256 sha attemptedAt record epoch).Obeys (GhostWalkFaults F) (leaseNext sha)
      (fun q _ => q = p) (fun _ _ => True) p := by
  unfold evaluate
  refine Prog.Obeys.bind (obeys_onLedger (obeys_tryHasConsumedActionLease fun _ => rfl)) ?_
  rintro q consumed rfl
  refine Prog.obeys_ofExcept_bind (fun _ _ => trivial) fun _ _ => ?_
  exact Prog.obeys_ofExcept (fun _ _ => rfl) fun _ _ => trivial

theorem obeys_release_held :
    (onLedger (releaseActionLeaseClaim sha)).Obeys (GhostWalkFaults F) (leaseNext sha)
      (fun q _ => q = .released) (fun _ _ => True) .held := by
  exact obeys_onLedger (obeys_releaseClaim (next_own_release .actionLease sha) fun _ _ => trivial)

/-- The receipt of the spine run says whether it entered, and `_complete` goes by it. -/
theorem obeys_complete {attemptedAt : String} {found : Recovered} {execution : ExecutionReceipt}
    (hrun : (execution.permissionStatus = .denied ∧ p = .held) ∨
      (execution.permissionStatus = .allowed ∧ execution.executorEntered = true ∧
        execution.executionStatus ≠ .notExecuted ∧ p = .entered)) :
    (complete iso sha256 sha attemptedAt found execution).Obeys (GhostWalkFaults F) (leaseNext sha)
      (fun _ _ => True) (fun _ _ => True) p := by
  unfold complete
  rcases hrun with ⟨hdenied, rfl⟩ | ⟨hallowed, hentered, hstatus, rfl⟩
  · rw [hdenied]
    exact Prog.Obeys.bind obeys_release_held fun _ _ _ => obeys_recordReceipt
  · rw [hallowed]
    dsimp only
    split
    · rename_i hnone
      cases hs : execution.executionStatus with
      | notExecuted => exact absurd hs hstatus
      | succeeded | failed | outcomeUnknown => simp [hs, outcomes] at hnone
    · rw [hentered]
      exact obeys_recordReceipt

/-- **the part after the claim**: while the late appends are accepted, an exception of the
spine run that gives the claim back comes from before the entry.
SOURCE: macro_lease_execution_handoff.py:620-682 -/
theorem obeys_lease_executeClaimed {handoff : GhostWalkLeaseExecutionHandoff}
    {attemptedAt : String} {record : GhostWalkActionLeaseRecord}
    {binding : GhostWalkExecutableBinding} {policy : GhostWalkLeasePolicy}
    {profile : EnforcementProfile} {epoch : AuthorityEpoch} {found : Recovered} :
    (executeClaimed iso sha256 handoff sha attemptedAt record binding policy profile epoch
      found).Obeys (GhostWalkFaults fun e => e.cls.isKeyTypeOrValueError = false) (leaseNext sha)
      (fun _ _ => True) (fun _ _ => True) .held := by
  unfold executeClaimed
  refine Prog.Obeys.bind (Q := fun l res => match res with
    | .ok r => (r.permissionStatus = .denied ∧ l = .held) ∨
        (r.permissionStatus = .allowed ∧ r.executorEntered = true ∧
          r.executionStatus ≠ .notExecuted ∧ l = .entered)
    | .error e => l = .held ∨ (l = .entered ∧ (e.cls.isException = false ∨
        e.cls.isKeyTypeOrValueError = false)))
    (Prog.Obeys.attempt (obeys_onLedger (obeys_runOn (runView_claim .actionLease sha)))) ?_
  rintro l (e | execution) hres
  · -- the run raised
    dsimp only at hres ⊢
    split
    · rename_i hcaught
      have hheld : l = .held := by
        rcases hres with hl | ⟨-, hexception | hfault⟩
        · exact hl
        · rw [ErrorClass.isException_of_isKeyTypeOrValueError hcaught] at hexception
          cases hexception
        · rw [hcaught] at hfault
          cases hfault
      subst hheld
      exact Prog.Obeys.bind obeys_release_held fun _ _ _ => trivial
    · split <;> trivial
  · refine Prog.obeys_ofExcept_bind (fun _ _ => trivial) fun _ _ => ?_
    exact obeys_complete hres

/-- The part under the lock.
SOURCE: macro_lease_execution_handoff.py:490-682 -/
theorem obeys_executeLocked {handoff : GhostWalkLeaseExecutionHandoff} {attemptedAt : String} :
    (executeLocked iso sha256 handoff sha attemptedAt).Obeys
      (GhostWalkFaults fun e => e.cls.isKeyTypeOrValueError = false) (leaseNext sha)
      (fun _ _ => True) (fun _ _ => True) .fresh := by
  unfold executeLocked
  refine Prog.Obeys.bind obeys_leaseRecord ?_
  rintro p (_ | record) rfl
  · exact obeys_recordReceipt
  refine Prog.Obeys.bind obeys_currentBinding ?_
  rintro p (_ | binding) rfl
  · exact obeys_recordReceipt
  refine Prog.obeys_ofExcept_bind (fun _ _ => trivial) ?_
  rintro (_ | ⟨policy, profile⟩) _
  · exact obeys_recordReceipt
  refine Prog.Obeys.bind obeys_currentEpoch ?_
  rintro p (_ | epoch) rfl
  · exact obeys_recordReceipt
  dsimp only
  split
  · exact obeys_recordReceipt
  refine Prog.obeys_ofExcept_bind (fun _ _ => trivial) fun _ _ => ?_
  refine Prog.obeys_ofExcept_bind (fun _ _ => trivial) fun reason _ => ?_
  cases reason with
  | some reason => exact obeys_recordReceipt
  | none =>
      refine Prog.Obeys.bind obeys_evaluate ?_
      rintro p evaluation rfl
      split
      · exact obeys_recordReceipt
      refine Prog.Obeys.bind (obeys_onLedger (obeys_tryClaim (next_own_claim .actionLease sha))) ?_
      rintro p (e | granted) hp
      · trivial
      cases granted with
      | false => exact obeys_recordReceipt
      | true =>
          obtain rfl := hp
          exact obeys_lease_executeClaimed

theorem obeys_withLock {service : ℕ} {body : GhostWalkProg α}
    (h : body.Obeys (GhostWalkFaults F) (leaseNext sha) (fun _ _ => True) (fun _ _ => True) p) :
    (withLock service body).Obeys (GhostWalkFaults F) (leaseNext sha) (fun _ _ => True)
      (fun _ _ => True) p := by
  unfold withLock
  refine obeys_off_ledger rfl fun _ => ?_
  refine Prog.Obeys.bind (Q := fun _ _ => True) h.attempt ?_
  intro q result _
  refine obeys_off_ledger rfl fun _ => ?_
  exact Prog.obeys_ofExcept (fun _ _ => trivial) fun _ _ => trivial

/-- **The claim of a lease obeys the claim protocol**, while the late appends are accepted.
SOURCE: macro_lease_execution_handoff.py:477-682 -/
theorem obeys_lease_execute {handoff : GhostWalkLeaseExecutionHandoff} :
    (execute iso sha256 handoff sha).Obeys
      (GhostWalkFaults fun e => e.cls.isKeyTypeOrValueError = false) (leaseNext sha)
      (fun _ _ => True) (fun _ _ => True) .fresh := by
  unfold execute
  refine Prog.obeys_ofExcept_bind (fun _ _ => trivial) fun leaseSha hsha => ?_
  obtain rfl := eq_of_requireSha256 hsha
  refine Prog.Obeys.bind (Q := fun p _ => p = .fresh) (obeys_off_ledger rfl fun value => ?_) ?_
  · cases value with
    | naive => trivial
    | aware utc => rfl
  rintro p attempted rfl
  exact obeys_withLock obeys_executeLocked

end Obeys

/-- One call: a handoff object and the lease it is asked to execute. -/
structure LeaseExecutionCall where
  handoff : GhostWalkLeaseExecutionHandoff
  actionLeaseSha256 : String

/-- Calls of `GhostWalkLeaseExecutionHandoff.execute` on one trusted state. -/
def leaseSystem (iso : Iso8601) (sha256 : Json → String) :
    System GhostWalkOp.Reply PyError GhostWalkLeaseExecutionReceipt GhostWalkState
      LeaseExecutionCall :=
  ghostWalkSystem sha256 fun c => execute iso sha256 c.handoff c.actionLeaseSha256

/-- The operation enters the executor registry. -/
def entersExecutor : GhostWalkOp → Bool
  | .ledger o => o.enters
  | _ => false

/-- No append after the executor was entered, that of the receipt of a success apart, raises what
the handoff takes for a rejection before the executor. -/
def LateGhostWalkAppendsAccepted : (o : GhostWalkOp) → o.Reply → Prop :=
  GhostWalkFaults fun e => e.cls.isKeyTypeOrValueError = false

/-- SOURCE: spine/runtime.py:617 -/
theorem enters_ghostWalkPart {α Call : Type} {sha256 : Json → String}
    {body : Call → GhostWalkProg α} (o : GhostWalkOp) (r : o.Reply) :
    (ghostWalkPart sha256 body).enters o r = entersExecutor o := by
  cases o <;> rfl

/-- One digest for every value, as the services of the Ghost-Walk chain compute it. -/
def oneSha256 (_ : Json) : String := emptySha256

/-- The executable binding of the lease of the first hour. -/
def hourlyBinding : GhostWalkExecutableBinding where
  authorizationDecisionSha256 := emptySha256
  authorityRequestSha256 := emptySha256
  targetInferenceReceiptSha256 := emptySha256
  actionObservationSha256 := emptySha256
  intentCode := "write_text"
  mappingId := "mapping"
  mappingSha256 := emptySha256
  mappingSetSha256 := emptySha256
  capabilityId := "commons.text_artifact"
  capabilityVersion := "0.1.0"
  payload := textPayload
  payloadSha256 := emptySha256
  permissionsRequired := ["artifact.write"]
  effectsDeclared := ["filesystem.change"]
  effectIntent := hourlyIntent
  boundAt := "2026-01-01T00:00:00+00:00"

/-- The server-owned policy that it was issued under. -/
def hourlyPolicy : GhostWalkLeasePolicy where
  policyId := "policy"
  principalId := "operator"
  issuerId := "console"
  capabilityId := "commons.text_artifact"
  capabilityVersion := "0.1.0"
  permissionsAuthorized := ["artifact.write"]
  effectsDeclared := ["filesystem.change"]
  enforcementRules := hourlyEnforcement.rules
  acceptedUnenforcedEffects := ["filesystem.change"]
  maxLeaseSeconds := 3600

/-- The custody record of the lease. -/
def hourlyRecord : GhostWalkActionLeaseRecord where
  targetInferenceReceiptSha256 := emptySha256
  executableBindingSha256 := emptySha256
  policySha256 := emptySha256
  enforcementProfile := hourlyEnforcement
  authorityEpoch := hourlyEpoch
  actionLease := hourlyLease
  recordedAt := "2026-01-01T00:00:00+00:00"

/-- A ledger directory that holds this record and nothing else. -/
def hourlyCustody : GhostWalkState where
  ledger := emptyLedger
  leaseRows := [.ofRecord oneSha256 hourlyRecord]
  executionReceipts := []
  locked := fun _ => false

/-- The replies of a trusted state where the ports confirm the binding and the epoch of the first
hour, and where every operation succeeds, except for the handler and the append of the abort
receipt. A lock that is taken is waited for. -/
def ghostWalkAnswer (handler : Except PyError ArtifactResult) (abort : AppendReply)
    (w : GhostWalkState) : (o : GhostWalkOp) → Option o.Reply
  | .acquire service => if w.locked service then none else some ()
  | .release _ => some ()
  | .clock => some (.aware 1767225600000000)
  | .latestBinding _ => some (.ok (some hourlyBinding))
  | .bindingReadiness _ => some (.ok ⟨some .bindingAlreadyExists, some emptySha256⟩)
  | .currentEpoch => some (.ok (some hourlyEpoch))
  | .leaseRecords query => some (.ok (w.leaseRows.filter query.selects))
  | .appendLeaseRecord _ => some AppendReply.stored
  | .appendExecutionReceipt _ => some AppendReply.stored
  | .ledger o => some (ledgerAnswer handler abort w.ledger o)

/-- SOURCE: macro_action_lease_service.py:529-618, macro_lease_execution_handoff.py -/
theorem effect_ghostWalkAnswer {handler : Except PyError ArtifactResult} {abort : AppendReply}
    {sha256 : Json → String} (w : GhostWalkState) (o : GhostWalkOp) (r : o.Reply)
    (hr : ghostWalkAnswer handler abort w o = some r) : w.Effect sha256 o r (w.after sha256 o r) := by
  refine ⟨?_, rfl⟩
  cases o with
  | acquire service =>
      show w.locked service = false
      by_cases hlocked : w.locked service = true
      · simp [ghostWalkAnswer, hlocked] at hr
      · simpa using hlocked
  | leaseRecords query =>
      obtain rfl := Option.some.inj hr
      rfl
  | ledger o =>
      obtain rfl := Option.some.inj hr
      exact admits_ledgerAnswer handler abort w.ledger o
  | release _ | clock | latestBinding _ | bindingReadiness _ | currentEpoch | appendLeaseRecord _
  | appendExecutionReceipt _ => trivial

/-- The environment with these replies. -/
def ghostWalkEnvironment {α Call : Type} (sha256 : Json → String) (body : Call → GhostWalkProg α)
    (handler : Except PyError ArtifactResult) (abort : AppendReply) :
    (ghostWalkSystem sha256 body).Environment where
  answer := ghostWalkAnswer handler abort
  after := GhostWalkState.after sha256
  sound := effect_ghostWalkAnswer

/-- A call for this lease. -/
def hourlyCall : LeaseExecutionCall where
  handoff := { service := 0, policies := ⟨[hourlyPolicy], emptySha256⟩, spine := handoffSpine }
  actionLeaseSha256 := emptySha256

/-- Two calls for this lease, one after another. -/
def leaseRun (handler : Except PyError ArtifactResult) (abort : AppendReply) :
    Pool GhostWalkOp.Reply PyError GhostWalkLeaseExecutionReceipt GhostWalkState
      LeaseExecutionCall :=
  (ghostWalkEnvironment oneSha256
    (fun c : LeaseExecutionCall => execute hourlyIso oneSha256 c.handoff c.actionLeaseSha256)
    handler abort).play 60 0 [hourlyCall, hourlyCall] (System.initial hourlyCustody)

theorem reachable_leaseRun {handler : Except PyError ArtifactResult} {abort : AppendReply}
    {ok : Pool GhostWalkOp.Reply PyError GhostWalkLeaseExecutionReceipt GhostWalkState
      LeaseExecutionCall → PoolEvent GhostWalkOp.Reply LeaseExecutionCall → Prop}
    (hok : ∀ s i c o r, ghostWalkAnswer handler abort s.world o = some r → ok s ⟨i, c, o, r⟩) :
    (leaseSystem hourlyIso oneSha256).Reachable (fun _ => True) ok (leaseRun handler abort) :=
  (System.Reachable.initial hourlyCustody trivial).play _ hok 60 _ fun _ _ => rfl

/-- Every append to the ledger succeeds or raises `OSError` or `ValueError`. -/
def GhostWalkAppendsRaiseOSOrValueError : (o : GhostWalkOp) → o.Reply → Prop
  | .ledger o, r => AppendsRaiseOSOrValueError o r
  | _, _ => True

end PhiOS.Analysis
