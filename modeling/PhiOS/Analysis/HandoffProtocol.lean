import PhiOS.Model.LeasedExecutionHandoff
import PhiOS.Library.ClaimProtocol
import PhiOS.Analysis.SpineStages

/-!
# How a claim protocol sees a governed handoff

The handoffs are judged by protocols on the operations of a ledger that only look at claims,
releases and executor entries. `HandoffView` names the local states such a protocol passes through
during one governed handoff, and `obeys_execute` says that `GovernedExecutionHandoff.execute` keeps
to it and where it ends. The binding claim and the lease claim are two instances.
-/

set_option autoImplicit false

namespace PhiOS.Analysis

open Interaction RealityLedger

/-- The environments in which the appends after an entry raise nothing but what `F` allows. -/
def LedgerFaults (F : PyError → Prop) : (o : LedgerOp) → o.Reply → Prop
  | .spine o, r => Faults F o r
  | _, _ => True

theorem ledgerFaults_true (o : LedgerOp) (r : o.Reply) : LedgerFaults (fun _ => True) o r := by
  cases o with
  | spine o => exact fun _ _ _ => trivial
  | claim _ _ | release _ _ | hasConsumedBinding _ | hasConsumedActionLease _ => trivial

variable {Local : Type} {next : Local → (o : LedgerOp) → o.Reply → Option Local}
  {F : PyError → Prop} {sha : String} {before claimed freed entered : Local}

/-- What a protocol sees of a spine run: the state before the entry and the one after it. -/
structure RunView (next : Local → (o : LedgerOp) → o.Reply → Option Local)
    (claimed entered : Local) : Prop where
  spine : ∀ l o r, (LedgerOp.spine o).enters = false → next l (.spine o) r = some l
  enter : ∀ o r, (LedgerOp.spine o).enters = true → next claimed (.spine o) r = some entered

/-- What a protocol sees of a handoff that claims the binding `sha`: the state before the claim,
with it, after its release, and after the entry. A release after the entry only comes about through
an exception that `F` allows. -/
structure HandoffView (next : Local → (o : LedgerOp) → o.Reply → Option Local)
    (F : PyError → Prop) (sha : String) (before claimed freed entered : Local) : Prop
    extends RunView next claimed entered where
  consumed : ∀ r, next before (.hasConsumedBinding sha) r = some before
  claim : ∀ r : ClaimReply, next before (.claim .binding sha) r =
    some (if r.isCreated then claimed else before)
  release : ∀ r, next claimed (.release .binding sha) r = some freed
  releaseEntered : ∀ e, F e → e.cls.isKeyTypeOrValueError = true →
    ∀ r, next entered (.release .binding sha) r = some entered

/-! ## The ledger's operations -/

/-- A claim file is created, or the caller learns that it was not. -/
theorem obeys_tryClaim {admits : (o : LedgerOp) → o.Reply → Prop}
    {exn : Local → PyError → Prop} {kind : ClaimKind} {label : String}
    (hclaim : ∀ r : ClaimReply, next before (.claim kind sha) r =
      some (if r.isCreated then claimed else before)) :
    (tryClaim kind sha label).Obeys admits next
      (fun l res => match res with
        | .ok true => l = claimed
        | .ok false => l = before
        | .error _ => True) exn before := by
  unfold tryClaim
  split
  · trivial
  · refine Prog.obeys_call_bind fun (reply : ClaimReply) _ => ⟨_, hclaim reply, ?_⟩
    cases reply with
    | created | «exists» => rfl
    | createdRaised _ | failed _ => trivial

/-- SOURCE: spine/ledger.py:1547-1558, 1599-1610 -/
theorem obeys_releaseClaim {admits : (o : LedgerOp) → o.Reply → Prop}
    {exn : Local → PyError → Prop} {kind : ClaimKind} {label : String} {l l' : Local}
    (hrelease : ∀ r, next l (.release kind sha) r = some l') (hexn : ∀ l e, exn l e) :
    (releaseClaim kind sha label).Obeys admits next (fun l'' _ => l'' = l') exn l := by
  refine Prog.Obeys.bind (Q := fun l'' _ => l'' = l)
    (Prog.obeys_ofExcept (fun _ _ => rfl) fun e _ => hexn l e) ?_
  rintro l'' _ rfl
  refine Prog.obeys_call_bind fun reply _ => ⟨l', hrelease reply, ?_⟩
  exact Prog.obeys_ofExcept (fun _ _ => rfl) fun e _ => hexn l' e

/-- SOURCE: spine/ledger.py:1612-1632 -/
theorem obeys_tryHasConsumedActionLease {admits : (o : LedgerOp) → o.Reply → Prop}
    {exn : Local → PyError → Prop} {l : Local}
    (hnext : ∀ r, next l (.hasConsumedActionLease sha) r = some l) :
    (tryHasConsumedActionLease sha).Obeys admits next (fun l' _ => l' = l) exn l := by
  unfold tryHasConsumedActionLease
  split
  · rfl
  · exact Prog.obeys_call_bind_of_skip hnext fun _ _ => rfl

/-! ## The spine run -/

section Run

variable {spine : PhiOSSpine} {capabilityId : String} {payload : Json}
  {provenance : Option GovernedProvenance}

/-- The stages of a run, on the operations of the ledger. -/
noncomputable def Stage.nextOn (spine : PhiOSSpine) (capabilityId : String) (payload : Json)
    (s : Stage) : (o : LedgerOp) → o.Reply → Option Stage
  | .spine o, r => Stage.next spine capabilityId payload s o r
  | _, _ => none

/-- How a protocol sees the stages of a run. -/
def viewStage (claimed entered : Local) : Stage → Local
  | .entered => entered
  | _ => claimed

/-- A protocol sees a move between the stages as one of its own. -/
theorem viewStage_next (hview : RunView next claimed entered)
    {s s' : Stage} {o : LedgerOp} {r : o.Reply}
    (h : Stage.nextOn spine capabilityId payload s o r = some s') :
    next (viewStage claimed entered s) o r = some (viewStage claimed entered s') := by
  cases o with
  | spine o =>
      change Stage.next spine capabilityId payload s o r = some s' at h
      cases o with
      | execute c p =>
          obtain ⟨⟨id, rfl⟩, -, rfl⟩ := Stage.next_execute h
          exact hview.enter _ r rfl
      | uuid4 | now | mandalaAppend _ | ledgerAppend _ =>
          have hiff := Stage.next_entered_iff (by simp) h
          have hsame : viewStage claimed entered s' = viewStage claimed entered s := by
            cases s <;> cases s' <;> simp_all [viewStage]
          rw [hsame]
          exact hview.spine _ _ r rfl
  | claim _ _ | release _ _ | hasConsumedBinding _ | hasConsumedActionLease _ => cases h

/-- A run enters the executor at most once; a receipt that it returns says whether it
did, and so does an exception that the handoff takes for one from before the entry. -/
theorem obeys_runOn (hview : RunView next claimed entered) :
    (spine.runOn capabilityId payload provenance).Obeys (LedgerFaults F) next
      (fun l r => (r.permissionStatus = .denied ∧ l = claimed) ∨
        (r.permissionStatus = .allowed ∧ r.executorEntered = true ∧
          r.executionStatus ≠ .notExecuted ∧ l = entered))
      (fun l e => l = claimed ∨ (l = entered ∧ (e.cls.isException = false ∨ F e))) claimed := by
  have hhoist : (spine.runOn capabilityId payload provenance).Obeys (LedgerFaults F)
      (Stage.nextOn spine capabilityId payload) RunPost (RunExn F) .opened :=
    Prog.Obeys.hoist obeys_run (fun _ _ h => h) fun _ _ _ => rfl
  refine hhoist.map (m := viewStage claimed entered) (fun _ _ _ _ => viewStage_next hview) ?_ ?_
  · rintro s r (⟨hdenied, -, hs⟩ | ⟨hallowed, hstatus, hentered, rfl⟩)
    · refine .inl ⟨hdenied, ?_⟩
      cases s <;> first | rfl | exact absurd rfl hs
    · exact .inr ⟨hallowed, hentered, hstatus, rfl⟩
  · intro s e h
    cases s with
    | entered => exact .inr ⟨rfl, h rfl⟩
    | opened | effectRecorded _ | gateRecorded _ | closed => exact .inl rfl

end Run

/-! ## The handoff -/

section Handoff

variable {digest : Json → Except PyError String} {request : ExecutionRequest}

/-- SOURCE: core/governed_execution_handoff.py:387-459 -/
theorem bindingConsumed_of_receipt {plan : PlanState} {binding : PlanActionBinding}
    {status : HandoffStatus} {reason : String} {bindingConsumed replayBlocked : Bool}
    {execution : Option ExecutionReceipt} {r : ExecutionHandoffReceipt}
    (h : GovernedExecutionHandoff.receipt digest plan binding status reason bindingConsumed
      replayBlocked execution = .ok r) : r.bindingConsumed = bindingConsumed := by
  unfold GovernedExecutionHandoff.receipt at h
  obtain ⟨receiptSha256, -, h⟩ := bind_eq_ok.mp h
  obtain rfl := Except.ok.inj h
  rfl

/-- SOURCE: core/governed_execution_handoff.py:367-385 -/
theorem obeys_held {plan : PlanState} {binding : PlanActionBinding} {reason : String}
    {replayBlocked : Bool} {admits : (o : LedgerOp) → o.Reply → Prop} {l : Local} :
    (GovernedExecutionHandoff.held digest plan binding reason replayBlocked).Obeys admits next
      (fun l' r => r.bindingConsumed = false ∧ l' = l) (fun _ _ => True) l :=
  Prog.obeys_ofExcept (fun _ h => ⟨bindingConsumed_of_receipt h, rfl⟩) fun _ _ => trivial

theorem consumed_of_outcome {execution : ExecutionReceipt} {status : HandoffStatus}
    {reason : String} {consumed : Bool}
    (h : GovernedExecutionHandoff.outcome execution = .ok (status, reason, consumed)) :
    consumed = true ↔ execution.permissionStatus = .allowed := by
  unfold GovernedExecutionHandoff.outcome at h
  split at h <;> simp_all

/-- The part after the claim. A receipt with an unconsumed binding leaves the claim
released and the executor unentered.
SOURCE: core/governed_execution_handoff.py:216-275 -/
theorem obeys_executeClaimed
    (hview : HandoffView next F request.binding.bindingSha256 before claimed freed entered) :
    (GovernedExecutionHandoff.executeClaimed digest request).Obeys (LedgerFaults F) next
      (fun l r => (r.bindingConsumed = false ∧ l = freed) ∨
        (r.bindingConsumed = true ∧ l = entered)) (fun _ _ => True) claimed := by
  unfold GovernedExecutionHandoff.executeClaimed
  refine Prog.Obeys.bind (Q := fun l res => match res with
    | .ok r => (r.permissionStatus = .denied ∧ l = claimed) ∨
        (r.permissionStatus = .allowed ∧ l = entered)
    | .error e => l = claimed ∨ (l = entered ∧ (e.cls.isException = false ∨ F e)))
    (Prog.Obeys.attempt ((obeys_runOn hview.toRunView).mono ?_ fun _ _ h => h)) ?_
  · rintro l r (h | ⟨hallowed, -, -, hl⟩)
    · exact .inl h
    · exact .inr ⟨hallowed, hl⟩
  · rintro l (e | execution) hres
    · -- the run raised
      dsimp only at hres ⊢
      split
      · rename_i hcaught
        refine Prog.Obeys.bind (Q := fun _ _ => True) ?_ fun _ _ _ => trivial
        rcases hres with rfl | ⟨rfl, hexception | hfault⟩
        · exact (obeys_releaseClaim hview.release fun _ _ => trivial).mono
            (fun _ _ _ => trivial) fun _ _ _ => trivial
        · rw [ErrorClass.isException_of_isKeyTypeOrValueError hcaught] at hexception
          cases hexception
        · exact (obeys_releaseClaim (hview.releaseEntered e hfault hcaught)
            fun _ _ => trivial).mono (fun _ _ _ => trivial) fun _ _ _ => trivial
      · trivial
    · refine Prog.obeys_ofExcept_bind (fun _ _ => trivial) fun _ _ => ?_
      refine Prog.obeys_ofExcept_bind (fun _ _ => trivial) ?_
      rintro ⟨status, reason, consumed⟩ houtcome
      have hconsumed := consumed_of_outcome houtcome
      cases consumed with
      | false =>
          obtain ⟨-, rfl⟩ : execution.permissionStatus = .denied ∧ l = claimed := by
            simp_all
          refine Prog.Obeys.bind (obeys_releaseClaim hview.release fun _ _ => trivial) ?_
          rintro l _ rfl
          exact Prog.obeys_ofExcept
            (fun _ h => .inl ⟨bindingConsumed_of_receipt h, rfl⟩) fun _ _ => trivial
      | true =>
          obtain ⟨-, rfl⟩ : execution.permissionStatus = .allowed ∧ l = entered := by
            simp_all
          exact Prog.obeys_ofExcept
            (fun _ h => .inr ⟨bindingConsumed_of_receipt h, rfl⟩) fun _ _ => trivial

/-- **What a governed handoff does to a claim.** From the state before the claim, a receipt with an
unconsumed binding leaves the executor unentered and a consumed one leaves it entered.
SOURCE: core/governed_execution_handoff.py:108-275 -/
theorem obeys_execute
    (hview : HandoffView next F request.binding.bindingSha256 before claimed freed entered) :
    (GovernedExecutionHandoff.execute digest request).Obeys (LedgerFaults F) next
      (fun l r => (r.bindingConsumed = false ∧ (l = before ∨ l = freed)) ∨
        (r.bindingConsumed = true ∧ l = entered)) (fun _ _ => True) before := by
  have hheld : ∀ {reason replayBlocked},
      (GovernedExecutionHandoff.held digest request.plan request.binding reason replayBlocked).Obeys
        (LedgerFaults F) next
        (fun l r => (r.bindingConsumed = false ∧ (l = before ∨ l = freed)) ∨
          (r.bindingConsumed = true ∧ l = entered)) (fun _ _ => True) before :=
    obeys_held.mono (fun _ _ h => .inl ⟨h.1, .inl h.2⟩) fun _ _ _ => trivial
  unfold GovernedExecutionHandoff.execute
  refine Prog.obeys_ofExcept_bind (fun _ _ => trivial) fun _ _ => ?_
  refine Prog.obeys_ofExcept_bind (fun _ _ => trivial) fun _ _ => ?_
  split
  · exact hheld
  · refine Prog.obeys_ofExcept_bind (fun _ _ => trivial) fun payloadSha256 _ => ?_
    split
    · exact hheld
    · refine Prog.obeys_ofExcept_bind (fun _ _ => trivial) fun scope _ => ?_
      split
      · exact hheld
      · refine Prog.Obeys.bind (Q := fun l _ => l = before) ?_ ?_
        · refine Prog.obeys_call_bind fun reply _ => ⟨before, hview.consumed reply, rfl⟩
        rintro l (e | consumed) rfl
        · trivial
        cases consumed with
        | true => exact hheld
        | false =>
            refine Prog.Obeys.bind (obeys_tryClaim hview.claim) ?_
            rintro l (e | granted) hres
            · trivial
            cases granted with
            | false =>
                obtain rfl := hres
                exact hheld
            | true =>
                obtain rfl := hres
                refine (obeys_executeClaimed hview).mono ?_ fun _ _ h => h
                rintro l r (⟨hconsumed, hl⟩ | h)
                · exact .inl ⟨hconsumed, .inr hl⟩
                · exact .inr h

end Handoff

end PhiOS.Analysis
