import Mathlib
import PhiOS.Model.MacroDispatcher
import PhiOS.Analysis.LeasedHandoffOnce
import PhiOS.Analysis.PlanPaths

/-!
# What stands behind the passes of a `DO`

The dispatcher executes the operation of a `DO` for one paused run state, and hands back a
resolution that names the path and the operation. The runner passes the `DO` on every such
resolution it is supplied, as often as the flow of the plan reaches it within one `advance`.
-/

set_option autoImplicit false

namespace PhiOS.Analysis

open Interaction MacroRunner KeyOrder

/-! ## Executor entries -/

section Entries

variable {Op : Type} {Reply : Op → Type} {enters : Op → Bool}

/-- The protocol of one executor entry at most: whether it is made, and a second one is out of
bounds. -/
def entersOnce (enters : Op → Bool) (entered : Bool) (o : Op) (_ : Reply o) : Option Bool :=
  if enters o then (if entered then none else some true) else some entered

theorem entersOnce_of_not {o : Op} (h : enters o = false) (entered : Bool) (r : Reply o) :
    entersOnce enters entered o r = some entered := by
  simp [entersOnce, h]

/-- The entries of a run that keeps to the protocol. -/
theorem countP_of_advance {t : List (Prog.Event Reply)} {before after : Bool}
    (h : Prog.advance (entersOnce enters) before t = some after) :
    t.countP (fun e => enters e.1) + before.toNat = after.toNat := by
  induction t generalizing before with
  | nil =>
      obtain rfl : before = after := by simpa [Prog.advance] using h
      simp
  | cons e t ih =>
      rw [Prog.advance, Option.bind_eq_some_iff] at h
      obtain ⟨middle, hstep, hrest⟩ := h
      have hcount := ih hrest
      rw [List.countP_cons]
      cases hentry : enters e.1 with
      | false =>
          obtain rfl : before = middle := by simpa [entersOnce, hentry] using hstep
          simpa using hcount
      | true =>
          cases before with
          | true => simp [entersOnce, hentry] at hstep
          | false =>
              obtain rfl : true = middle := by simpa [entersOnce, hentry] using hstep
              simpa using hcount

end Entries

section Dispatch

variable {iso : Iso8601} {sha256 : Json → String} {digest : Json → Except PyError String}

theorem entersOnce_claim (kind : ClaimKind) (sha : String) (r : ClaimReply) :
    @entersOnce LedgerOp LedgerOp.Reply LedgerOp.enters false (.claim kind sha) r =
      some (if r.isCreated then false else false) := by
  cases r.isCreated <;> rfl

theorem handoffView_entersOnce (sha : String) :
    HandoffView (entersOnce LedgerOp.enters) (fun _ => True) sha false false false true where
  spine := fun l o r ho => entersOnce_of_not ho l r
  enter := fun o r ho => by
    simp [entersOnce, ho]
  consumed := fun r => entersOnce_of_not rfl _ r
  claim := entersOnce_claim .binding sha
  release := fun r => entersOnce_of_not rfl _ r
  releaseEntered := fun _ _ _ r => entersOnce_of_not rfl _ r

/-- SOURCE: core/governed_execution_handoff.py:387-459 -/
theorem status_of_receipt {plan : PlanState} {binding : PlanActionBinding}
    {status : HandoffStatus} {reason : String} {bindingConsumed replayBlocked : Bool}
    {execution : Option ExecutionReceipt} {r : ExecutionHandoffReceipt}
    (h : GovernedExecutionHandoff.receipt digest plan binding status reason bindingConsumed
      replayBlocked execution = .ok r) : r.status = status := by
  unfold GovernedExecutionHandoff.receipt at h
  obtain ⟨receiptSha256, -, h⟩ := bind_eq_ok.mp h
  obtain rfl := Except.ok.inj h
  rfl

/-- The handoff succeeded only if its binding is consumed. -/
def SucceedsConsumed (receipt : ExecutionHandoffReceipt) : Prop :=
  receipt.status = .succeeded → receipt.bindingConsumed = true

/-- SOURCE: core/governed_execution_handoff.py:216-275 -/
theorem returns_executeClaimed_succeeds {request : ExecutionRequest} :
    (GovernedExecutionHandoff.executeClaimed digest request).Returns SucceedsConsumed := by
  unfold GovernedExecutionHandoff.executeClaimed
  refine Prog.returns_bind fun run => ?_
  rcases run with e | execution
  · dsimp only
    split
    · exact Prog.returns_bind fun _ => trivial
    · trivial
  · refine Prog.returns_ofExcept_bind fun _ _ => ?_
    refine Prog.returns_ofExcept_bind ?_
    rintro ⟨status, reason, consumed⟩ houtcome
    have hstatus : status = .succeeded → consumed = true := by
      unfold GovernedExecutionHandoff.outcome at houtcome
      rintro rfl
      split at houtcome <;> simp_all
    have hreceipt : ∀ receipt, GovernedExecutionHandoff.receipt digest request.plan request.binding
        status reason consumed false (some execution) = .ok receipt → SucceedsConsumed receipt := by
      intro receipt h hsucceeded
      rw [bindingConsumed_of_receipt h]
      exact hstatus ((status_of_receipt h).symm.trans hsucceeded)
    cases consumed with
    | false =>
        refine Prog.returns_bind fun _ => ?_
        exact Prog.returns_ofExcept hreceipt
    | true => exact Prog.returns_ofExcept hreceipt

/-- A handoff that consumes no binding does not succeed.
SOURCE: core/governed_execution_handoff.py:108-275 -/
theorem returns_execute_succeeds {request : ExecutionRequest} :
    (GovernedExecutionHandoff.execute digest request).Returns SucceedsConsumed := by
  have hheld : ∀ {reason replayBlocked},
      (GovernedExecutionHandoff.held digest request.plan request.binding reason
        replayBlocked).Returns SucceedsConsumed := by
    intro reason replayBlocked
    refine Prog.returns_ofExcept fun receipt h hsucceeded => ?_
    rw [status_of_receipt h] at hsucceeded
    cases hsucceeded
  unfold GovernedExecutionHandoff.execute
  refine Prog.returns_ofExcept_bind fun _ _ => ?_
  refine Prog.returns_ofExcept_bind fun _ _ => ?_
  split
  · exact hheld
  refine Prog.returns_ofExcept_bind fun payloadSha256 _ => ?_
  split
  · exact hheld
  refine Prog.returns_ofExcept_bind fun scope _ => ?_
  split
  · exact hheld
  refine Prog.returns_bind fun consumed => ?_
  rcases consumed with e | consumed
  · trivial
  cases consumed with
  | true => exact hheld
  | false =>
      refine Prog.returns_bind fun claimed => ?_
      rcases claimed with e | claimed
      · trivial
      cases claimed with
      | false => exact hheld
      | true => exact returns_executeClaimed_succeeds

/-- A handoff that ends with this status has entered the executor. -/
def SucceedsEntered (entered : Bool) (status : HandoffStatus) : Prop :=
  status = .succeeded → entered = true

/-- A leased handoff enters the executor at most once, and once where it succeeds.
SOURCE: core/leased_execution_handoff.py:219-338 -/
theorem obeys_leased_entersOnce {request : LeasedExecutionRequest} :
    (GovernedLeasedExecutionHandoff.execute iso sha256 digest request).Obeys
      (LedgerFaults fun _ => True) (entersOnce LedgerOp.enters)
      (fun entered receipt => SucceedsEntered entered receipt.status) (fun _ _ => True) false := by
  have hheld : ∀ {status : HandoffStatus} {entered : Bool}, status = .held →
      SucceedsEntered entered status := by
    rintro _ _ rfl h
    cases h
  unfold GovernedLeasedExecutionHandoff.execute
  refine Prog.obeys_ofExcept_bind (fun _ _ => trivial) fun currentEpoch _ => ?_
  split
  · exact hheld rfl
  split
  · exact hheld rfl
  refine Prog.Obeys.bind (obeys_tryHasConsumedActionLease fun r => entersOnce_of_not rfl _ r) ?_
  rintro _ (e | consumed) rfl
  · trivial
  refine Prog.obeys_ofExcept_bind (fun _ _ => trivial) fun evaluation _ => ?_
  split
  · exact hheld rfl
  refine Prog.Obeys.bind (obeys_tryClaim (entersOnce_claim .actionLease _)) ?_
  rintro entered (e | granted) hgranted
  · trivial
  cases granted with
  | false => exact hheld rfl
  | true =>
      obtain rfl := hgranted
      unfold GovernedLeasedExecutionHandoff.executeClaimed
      refine Prog.Obeys.bind ((obeys_execute (handoffView_entersOnce _)).and_returns
        returns_execute_succeeds) ?_
      rintro entered inner ⟨hinner, hsucceeds⟩
      cases hconsumed : inner.bindingConsumed with
      | false =>
          obtain rfl : entered = false := by simpa [hconsumed] using hinner
          refine Prog.Obeys.bind (obeys_releaseClaim (fun r => entersOnce_of_not rfl _ r)
            fun _ _ => trivial) ?_
          rintro _ _ rfl hsucceeded
          have := hsucceeds hsucceeded
          rw [hconsumed] at this
          cases this
      | true =>
          obtain rfl : entered = true := by simpa [hconsumed] using hinner
          exact fun _ => rfl

/-- SOURCE: macro_spine_bridge.py:305-363 -/
theorem obeys_bridge {operation : Operation} {macroBinding : MacroSpineBinding}
    {request : DispatchRequest} :
    (MacroSpineBridge.execute iso sha256 digest operation macroBinding request).Obeys
      (fun _ _ => True) (entersOnce DispatchOp.enters)
      (fun entered receipt => SucceedsEntered entered receipt.status) (fun _ _ => True) false := by
  unfold MacroSpineBridge.execute
  refine Prog.obeys_ofExcept_bind (fun _ _ => trivial) fun _ _ => ?_
  refine Prog.Obeys.bind (obeys_leased_entersOnce.hoist (fun o r _ => ledgerFaults_true o r)
    fun _ _ _ => rfl) ?_
  intro entered handoff hentered
  refine Prog.obeys_ofExcept_bind (fun _ _ => trivial) fun _ _ => ?_
  refine Prog.Obeys.bind (Q := fun l _ => l = entered) ?_ ?_
  · unfold appendMacroReceipt
    refine Prog.obeys_call_bind_of_skip (fun r => entersOnce_of_not rfl _ r) fun _ _ => ?_
    exact Prog.obeys_ofExcept (fun _ _ => rfl) fun _ _ => trivial
  · rintro _ _ rfl
    exact hentered

/-- What a dispatch says with the resolution it returns. -/
structure Accounts (sha256 : Json → String) (call : GovernedDoDispatcher.Call) (entered : Bool)
    (result : DoDispatchResult) : Prop where
  waiting : call.runState.status = .waitingOperation
  instruction : ∃ instruction, call.macroPlan.instructions[call.runState.cursor]? =
    some instruction ∧ instruction.opcode = .doOp ∧
      instruction.path = result.operationResolution.instructionPath
  operation : result.operationResolution.operationHash = call.operation.operationHash sha256
  package : call.workPackage.instructionPath = result.operationResolution.instructionPath
  entered : result.operationResolution.status = .succeeded → entered = true

/-- What a work package says about the run state. -/
theorem instruction_of_package {macroPlan : MacroPlan} {runState : MacroRunState}
    {operation : Operation} {package : OperationWorkPackage}
    (h : GovernedDoDispatcher.package sha256 macroPlan runState operation = .ok package) :
    runState.status = .waitingOperation ∧ ∃ instruction,
      macroPlan.instructions[runState.cursor]? = some instruction ∧ instruction.opcode = .doOp ∧
        instruction.path = package.instructionPath := by
  unfold GovernedDoDispatcher.package at h
  obtain ⟨instruction, hinstruction, h⟩ := bind_eq_ok.mp h
  obtain ⟨_, -, h⟩ := bind_eq_ok.mp h
  obtain rfl := Except.ok.inj h
  unfold GovernedDoDispatcher.validateWaitingOperation at hinstruction
  obtain ⟨_, hstatus, hinstruction⟩ := bind_eq_ok.mp hinstruction
  obtain ⟨_, _, hinstruction⟩ := ok_past_two hinstruction
  split at hinstruction
  · cases hinstruction
  · rename_i found hfound
    obtain ⟨_, hopcode, hinstruction⟩ := bind_eq_ok.mp hinstruction
    obtain ⟨_, _, hinstruction⟩ := ok_past_two hinstruction
    obtain rfl := Except.ok.inj hinstruction
    exact ⟨not_not.mp (raiseIf_eq_ok.mp hstatus), found, hfound,
      not_not.mp (raiseIf_eq_ok.mp hopcode), rfl⟩

/-- A dispatch enters the executor at most once, and once where its resolution is
`SUCCEEDED`. -/
theorem obeys_dispatch {call : GovernedDoDispatcher.Call} :
    (GovernedDoDispatcher.dispatch iso sha256 digest call).Obeys (fun _ _ => True)
      (entersOnce DispatchOp.enters) (Accounts sha256 call) (fun _ _ => True) false := by
  unfold GovernedDoDispatcher.dispatch
  refine Prog.obeys_ofExcept_bind (fun _ _ => trivial) fun expected hpackage => ?_
  refine Prog.obeys_ofExcept_bind (fun _ _ => trivial) fun _ hsame => ?_
  obtain ⟨hwaiting, hinstruction⟩ := instruction_of_package hpackage
  rw [← not_not.mp (raiseIf_eq_ok.mp hsame)] at hinstruction
  refine Prog.obeys_ofExcept_bind (fun _ _ => trivial) fun macroBinding _ => ?_
  refine Prog.Obeys.bind obeys_bridge fun entered macroReceipt hentered => ?_
  unfold GovernedDoDispatcher.conclude
  refine Prog.obeys_ofExcept_bind (fun _ _ => trivial) fun _ _ => ?_
  refine Prog.Obeys.bind (Q := fun l _ => l = entered) ?_ ?_
  · unfold appendMacroDispatchReceipt
    refine Prog.obeys_call_bind_of_skip (fun r => entersOnce_of_not rfl _ r) fun _ _ => ?_
    exact Prog.obeys_ofExcept (fun _ _ => rfl) fun _ _ => trivial
  · rintro _ _ rfl
    refine ⟨hwaiting, hinstruction, rfl, rfl, fun hsucceeded => hentered ?_⟩
    change GovernedDoDispatcher.resolutionStatus macroReceipt = .succeeded at hsucceeded
    unfold GovernedDoDispatcher.resolutionStatus at hsucceeded
    split at hsucceeded <;> simp_all

end Dispatch

/-! ## What one call of `advance` passes on -/

section Advance

variable {sha256 : Json → String} {plan : MacroPlan} {index : ResolutionIndex}

/-- SOURCE: macro_runner.py:334-356 -/
theorem mem_of_uniqueIndex {α : Type} {key : α → String} {label : String} {values : List α}
    {result : Dict String α} (h : uniqueIndex key label values = .ok result) {k : String} {v : α}
    (hget : result.get? k = some v) : v ∈ values ∧ key v = k := by
  have hfold : ∀ (step : Dict String α → α → Except PyError (Dict String α)),
      (∀ before value after, step before value = .ok after →
        after = before.set (key value) value) →
      ∀ (values : List α) (before result : Dict String α), values.foldlM step before = .ok result →
      result.get? k = some v → before.get? k = some v ∨ v ∈ values ∧ key v = k := by
    intro step hstep values
    induction values with
    | nil =>
        intro before result h hget
        obtain rfl : before = result := by simpa [pure, Except.pure] using h
        exact .inl hget
    | cons value values ih =>
        intro before result h hget
        rw [List.foldlM_cons] at h
        obtain ⟨middle, hmiddle, h⟩ := bind_eq_ok.mp h
        obtain rfl := hstep _ _ _ hmiddle
        rcases ih _ _ h hget with hbefore | ⟨hmem, hkey⟩
        · rw [Dict.get?_set] at hbefore
          split at hbefore
          · rename_i heq
            obtain rfl := Option.some.inj hbefore
            exact .inr ⟨List.mem_cons_self, heq.symm⟩
          · exact .inl hbefore
        · exact .inr ⟨List.mem_cons_of_mem _ hmem, hkey⟩
  have hstep := hfold _ (fun before value after hafter => by
    split at hafter
    · cases hafter
    · exact (Except.ok.inj hafter).symm) values .empty result h hget
  rcases hstep with hempty | hvalue
  · simp at hempty
  · exact hvalue

/-- The index has a `SUCCEEDED` resolution for the `DO`. -/
def Resolves (index : ResolutionIndex) (instruction : PlanInstruction) : Prop :=
  ∃ resolution, index.operations.get? instruction.path = some resolution ∧
    resolution.status = .succeeded ∧
      payloadText instruction "operation_hash" = .ok resolution.operationHash

/-- A `DO` is passed on a `SUCCEEDED` resolution of its path and operation. -/
theorem resolves_of_pass {config next : Config} {instruction : PlanInstruction}
    (hdo : instruction.opcode = .doOp)
    (h : passInstruction plan index config instruction = .ok (.moved next)) :
    Resolves index instruction := by
  unfold passInstruction at h
  rw [hdo] at h
  dsimp only at h
  split at h
  · cases h
  · rename_i resolution hresolution
    obtain ⟨expected, hexpected, h⟩ := bind_eq_ok.mp h
    split at h
    · cases h
    · rename_i hsame
      have hmoved := Except.ok.inj h
      rw [← not_not.mp hsame] at hexpected
      refine ⟨resolution, hresolution, ?_, hexpected⟩
      cases hstatus : resolution.status with
      | succeeded => rfl
      | held | failed =>
          rw [hstatus] at hmoved
          cases hmoved

/-- What the loop passes are boundaries of the plan, and the `DO`s among them have a
resolution. By induction on the budget. SOURCE: macro_runner.py:417-500 -/
theorem resolves_of_passed {remaining : ℕ} {config : Config} {passed : List String}
    {final : MacroRunState}
    (h : advanceLoop sha256 plan index remaining config = .ok (passed, final)) :
    ∀ path ∈ passed, ∃ instruction ∈ plan.instructions, instruction.path = path ∧
      (instruction.opcode = .doOp → Resolves index instruction) := by
  induction remaining generalizing config passed final with
  | zero =>
      unfold advanceLoop at h
      split at h
      · obtain ⟨_, -, h⟩ := bind_eq_ok.mp h
        obtain ⟨rfl, -⟩ := Prod.mk.inj (Except.ok.inj h)
        simp
      · obtain ⟨_, -, h⟩ := bind_eq_ok.mp h
        obtain ⟨rfl, -⟩ := Prod.mk.inj (Except.ok.inj h)
        simp
  | succ remaining ih =>
      unfold advanceLoop at h
      split at h
      · obtain ⟨_, -, h⟩ := bind_eq_ok.mp h
        obtain ⟨rfl, -⟩ := Prod.mk.inj (Except.ok.inj h)
        simp
      · rename_i instruction hat
        obtain ⟨passage, hpass, h⟩ := bind_eq_ok.mp h
        cases passage with
        | moved next =>
            obtain ⟨⟨rest, final'⟩, hrest, h⟩ := bind_eq_ok.mp h
            obtain ⟨rfl, -⟩ := Prod.mk.inj (Except.ok.inj h)
            intro path hpath
            rcases List.mem_append.mp hpath with hpath | hpath
            · have hsame : instruction.path = path := by
                unfold passedPath at hpath
                split at hpath
                · exact (List.mem_singleton.mp hpath).symm
                · cases hpath
              exact ⟨instruction, List.mem_of_getElem? hat, hsame, fun hdo =>
                resolves_of_pass hdo hpass⟩
            · exact ih hrest path hpath
        | returned status reason extra =>
            obtain ⟨_, -, h⟩ := bind_eq_ok.mp h
            obtain ⟨rfl, -⟩ := Prod.mk.inj (Except.ok.inj h)
            simp

/-- The resolution for the path among the inputs of a call of `advance`. -/
def resolutionFor (inputs : Option RunnerInputs) (path : String) : Option OperationResolution :=
  match (inputs.getD {}).index with
  | .ok index => index.operations.get? path
  | .error _ => none

theorem mem_of_resolutionFor {inputs : Option RunnerInputs} {path : String}
    {resolution : OperationResolution} (h : resolutionFor inputs path = some resolution) :
    resolution ∈ (inputs.getD {}).operations ∧ resolution.instructionPath = path := by
  unfold resolutionFor at h
  split at h
  · rename_i index hindex
    unfold RunnerInputs.index at hindex
    obtain ⟨_, -, hindex⟩ := bind_eq_ok.mp hindex
    obtain ⟨operations, hoperations, hindex⟩ := bind_eq_ok.mp hindex
    obtain ⟨_, _, _, _, hindex⟩ := ok_past_four hindex
    obtain rfl := Except.ok.inj hindex
    exact mem_of_uniqueIndex hoperations h
  · cases h

/-- A call of `advance` that passes a `DO` was supplied a `SUCCEEDED` resolution of its
path and operation. -/
theorem resolution_of_passed {state final : MacroRunState} {inputs : Option RunnerInputs}
    {budget : ℤ} {passed : List String} (hpaths : (plan.instructions.map (·.path)).Nodup)
    (h : advancePassing sha256 plan state inputs budget = .ok (passed, final))
    {instruction : PlanInstruction} (hmem : instruction ∈ plan.instructions)
    (hdo : instruction.opcode = .doOp) (hpassed : instruction.path ∈ passed) :
    ∃ resolution, resolutionFor inputs instruction.path = some resolution ∧
      resolution.status = .succeeded ∧
        payloadText instruction "operation_hash" = .ok resolution.operationHash := by
  unfold advancePassing at h
  obtain ⟨_, -, h⟩ := bind_eq_ok.mp h
  split at h
  · obtain ⟨rfl, -⟩ := Prod.mk.inj (Except.ok.inj h)
    cases hpassed
  · obtain ⟨_, -, h⟩ := bind_eq_ok.mp h
    obtain ⟨index, hindex, h⟩ := bind_eq_ok.mp h
    obtain ⟨found, hfound, hpath, hresolves⟩ := resolves_of_passed h _ hpassed
    -- no other instruction has the path
    have hsame : found = instruction :=
      List.inj_on_of_nodup_map hpaths hfound hmem hpath
    subst hsame
    obtain ⟨resolution, hget, hresolution⟩ := hresolves hdo
    refine ⟨resolution, ?_, hresolution⟩
    unfold resolutionFor
    rw [hindex]
    exact hget

end Advance

/-! ## Runs -/

/-- What is done in a run: a dispatch with its operations and where it stopped, or a call of
`advance` with the paths it passed. -/
inductive RunEvent
  | dispatched (call : GovernedDoDispatcher.Call) (trace : List (Prog.Event DispatchOp.Reply))
      (stopped : DispatchProg DoDispatchResult)
  | advanced (inputs : Option RunnerInputs) (passed : List String)

namespace RunEvent

/-- The resolution that a dispatch returned. -/
def resolution? : RunEvent → Option OperationResolution
  | .dispatched _ _ (.ret result) => some result.operationResolution
  | _ => none

/-- The operation resolutions that a call of `advance` was supplied. -/
def supplied : RunEvent → List OperationResolution
  | .dispatched _ _ _ => []
  | .advanced inputs _ => (inputs.getD {}).operations

/-- The call of `advance` passed the path. -/
def passes (path : String) : RunEvent → Bool
  | .dispatched _ _ _ => false
  | .advanced _ passed => passed.contains path

/-- The paths that a call of `advance` passed, as often as it passed them. -/
def passedPaths : RunEvent → List String
  | .dispatched _ _ _ => []
  | .advanced _ passed => passed

/-- The resolution on which a call of `advance` passed the path. -/
def spent? (path : String) : RunEvent → Option OperationResolution
  | .dispatched _ _ _ => none
  | .advanced inputs passed =>
      if passed.contains path then resolutionFor inputs path else none

/-- The executor entries of a dispatch for the path. -/
def entriesFor (path : String) : RunEvent → ℕ
  | .dispatched call trace _ =>
      if call.workPackage.instructionPath = path then trace.countP fun e => e.1.enters else 0
  | .advanced _ _ => 0

end RunEvent

/-- The `SUCCEEDED` resolutions of the path that dispatches returned, one for each dispatch. -/
def succeededFor (path : String) (events : List RunEvent) : List OperationResolution :=
  (events.filterMap RunEvent.resolution?).filter fun resolution =>
    resolution.status = .succeeded ∧ resolution.instructionPath = path

/-- The runs of a plan, with the states they went through: any number of dispatches on any of
these states, which may raise or stop between two operations and whose operations may be answered
in any way, and calls of `advance` on them that are only supplied operation resolutions that
dispatches of the run returned. -/
inductive DispatchedRun (iso : Iso8601) (sha256 : Json → String)
    (digest : Json → Except PyError String) (plan : MacroPlan) :
    List RunEvent → List MacroRunState → Prop
  | started {s : MacroRunState} (hstart : start sha256 plan = .ok s) :
      DispatchedRun iso sha256 digest plan [] [s]
  | dispatch {events : List RunEvent} {states : List MacroRunState}
      {call : GovernedDoDispatcher.Call} {trace : List (Prog.Event DispatchOp.Reply)}
      {stopped : DispatchProg DoDispatchResult} (hplan : call.macroPlan = plan)
      (hstate : call.runState ∈ states)
      (hsteps : Prog.Steps (GovernedDoDispatcher.dispatch iso sha256 digest call) trace stopped)
      (hrun : DispatchedRun iso sha256 digest plan events states) :
      DispatchedRun iso sha256 digest plan (events ++ [.dispatched call trace stopped]) states
  | advance {events : List RunEvent} {states : List MacroRunState} {s s' : MacroRunState}
      {inputs : Option RunnerInputs} {budget : ℤ} {passed : List String} (hstate : s ∈ states)
      (hinputs : ∀ resolution ∈ (inputs.getD {}).operations,
        ∃ event ∈ events, event.resolution? = some resolution)
      (hadvance : advancePassing sha256 plan s inputs budget = .ok (passed, s'))
      (hrun : DispatchedRun iso sha256 digest plan events states) :
      DispatchedRun iso sha256 digest plan (events ++ [.advanced inputs passed]) (states ++ [s'])
  | abort {events : List RunEvent} {states : List MacroRunState} {s s' : MacroRunState}
      {reason : String} (hstate : s ∈ states)
      (habort : MacroRunner.abort sha256 plan s reason = .ok s')
      (hrun : DispatchedRun iso sha256 digest plan events states) :
      DispatchedRun iso sha256 digest plan events (states ++ [s'])

/-- The dispatch that returned the resolution executed the instruction: it paused there, the
resolution names its path and its operation, and the executor was entered once. -/
structure Backs (sha256 : Json → String) (plan : MacroPlan) (instruction : PlanInstruction)
    (resolution : OperationResolution) (event : RunEvent) : Prop where
  dispatched : ∃ call trace result, event = .dispatched call trace (.ret result) ∧
    result.operationResolution = resolution ∧ call.runState.status = .waitingOperation ∧
      plan.instructions[call.runState.cursor]? = some instruction ∧
        resolution.operationHash = call.operation.operationHash sha256 ∧
          trace.countP (fun e => e.1.enters) = 1
  status : resolution.status = .succeeded
  path : resolution.instructionPath = instruction.path
  operation : payloadText instruction "operation_hash" = .ok resolution.operationHash

section Runs

variable {iso : Iso8601} {sha256 : Json → String} {digest : Json → Except PyError String}
  {plan : MacroPlan} {definition : MacroDefinition} {events : List RunEvent}
  {states : List MacroRunState}

theorem accounts_of_returned {call : GovernedDoDispatcher.Call}
    {trace : List (Prog.Event DispatchOp.Reply)} {result : DoDispatchResult}
    (h : Prog.Steps (GovernedDoDispatcher.dispatch iso sha256 digest call) trace (.ret result)) :
    ∃ entered, Accounts sha256 call entered result ∧
      trace.countP (fun e => e.1.enters) = entered.toNat := by
  obtain ⟨entered, hadvance, haccounts⟩ := obeys_dispatch.steps h fun _ _ => trivial
  have hcount := countP_of_advance hadvance
  exact ⟨entered, haccounts, by simpa using hcount⟩

/-- The events of a run are runs of `dispatch` on the plan, and calls of `advance` that
were supplied what earlier events returned. -/
theorem DispatchedRun.split (hrun : DispatchedRun iso sha256 digest plan events states) :
    (∀ call trace stopped, .dispatched call trace stopped ∈ events → call.macroPlan = plan ∧
      Prog.Steps (GovernedDoDispatcher.dispatch iso sha256 digest call) trace stopped) ∧
    ∀ before inputs passed after, events = before ++ .advanced inputs passed :: after →
      (∀ resolution ∈ (inputs.getD {}).operations,
        ∃ event ∈ before, event.resolution? = some resolution) ∧
      ∃ s s' budget, advancePassing sha256 plan s inputs budget = .ok (passed, s') := by
  induction hrun with
  | started _ => simp
  | @dispatch events states call trace stopped hplan _ hsteps _ ih =>
      constructor
      · intro call' trace' stopped' hmem
        rcases List.mem_append.mp hmem with hmem | hmem
        · exact ih.1 _ _ _ hmem
        · cases List.mem_singleton.mp hmem
          exact ⟨hplan, hsteps⟩
      · intro before inputs passed after heq
        rcases List.eq_nil_or_concat after with rfl | ⟨after, last, rfl⟩
        · have hlast := congrArg List.getLast? heq
          simp at hlast
        · rw [List.concat_eq_append, ← List.cons_append, ← List.append_assoc] at heq
          exact ih.2 _ _ _ _ (List.append_inj_left' heq rfl)
  | @advance events states s s' inputs budget passed _ hinputs hadvance _ ih =>
      constructor
      · intro call trace stopped hmem
        rcases List.mem_append.mp hmem with hmem | hmem
        · exact ih.1 _ _ _ hmem
        · cases List.mem_singleton.mp hmem
      · intro before inputs' passed' after heq
        rcases List.eq_nil_or_concat after with rfl | ⟨after, last, rfl⟩
        · obtain ⟨rfl, hlast⟩ := List.append_inj' heq rfl
          cases hlast
          exact ⟨hinputs, s, s', budget, hadvance⟩
        · rw [List.concat_eq_append, ← List.cons_append, ← List.append_assoc] at heq
          exact ih.2 _ _ _ _ (List.append_inj_left' heq rfl)
  | abort _ _ _ ih => exact ih

/-- The resolution on which a `DO` was passed, and the dispatch behind it.
SOURCE: macro_runner.py:452-479, macro_dispatcher.py:347-468 -/
theorem backs_of_passed (hpaths : (plan.instructions.map (·.path)).Nodup)
    (hrun : DispatchedRun iso sha256 digest plan events states)
    {before after : List RunEvent} {inputs : Option RunnerInputs} {passed : List String}
    (heq : events = before ++ .advanced inputs passed :: after) {instruction : PlanInstruction}
    (hmem : instruction ∈ plan.instructions) (hdo : instruction.opcode = .doOp)
    (hpassed : instruction.path ∈ passed) :
    ∃ resolution, resolutionFor inputs instruction.path = some resolution ∧
      ∃ event ∈ before, Backs sha256 plan instruction resolution event := by
  obtain ⟨hdispatches, hadvances⟩ := hrun.split
  obtain ⟨hinputs, s, s', budget, hadvance⟩ := hadvances _ _ _ _ heq
  obtain ⟨resolution, hresolution, hstatus, hoperation⟩ :=
    resolution_of_passed hpaths hadvance hmem hdo hpassed
  obtain ⟨hsupplied, hpath⟩ := mem_of_resolutionFor hresolution
  obtain ⟨event, hevent, hreturned⟩ := hinputs _ hsupplied
  refine ⟨resolution, hresolution, event, hevent, ?_, hstatus, hpath, hoperation⟩
  cases event with
  | advanced _ _ => cases hreturned
  | dispatched call trace stopped =>
      cases stopped with
      | raise _ | op _ _ => cases hreturned
      | ret result =>
          obtain rfl := Option.some.inj hreturned
          obtain ⟨hplan, hsteps⟩ := hdispatches call trace (.ret result)
            (heq ▸ List.mem_append_left _ hevent)
          obtain ⟨entered, haccounts, hentries⟩ := accounts_of_returned hsteps
          obtain ⟨found, hfound, -, hfoundPath⟩ := haccounts.instruction
          rw [hplan] at hfound
          have hsame : found = instruction := List.inj_on_of_nodup_map hpaths
            (List.mem_of_getElem? hfound) hmem (hfoundPath.trans hpath)
          rw [haccounts.entered hstatus] at hentries
          exact ⟨call, trace, result, rfl, rfl, haccounts.waiting, hsame ▸ hfound,
            haccounts.operation, hentries⟩

theorem spent_advanced {path : String} {inputs : Option RunnerInputs} {passed : List String}
    {resolution : OperationResolution}
    (h : (RunEvent.advanced inputs passed).spent? path = some resolution) :
    path ∈ passed ∧ resolutionFor inputs path = some resolution := by
  change (if passed.contains path then resolutionFor inputs path else none) = _ at h
  split at h
  · rename_i hpassed
    exact ⟨List.contains_iff_mem.mp hpassed, h⟩
  · cases h

/-- The resolutions spent are among those supplied, in their order. -/
theorem spent_sublist (path : String) (events : List RunEvent) :
    (events.filterMap (RunEvent.spent? path)).Sublist (events.flatMap RunEvent.supplied) := by
  induction events with
  | nil => exact List.Sublist.refl _
  | cons event events ih =>
      rw [List.flatMap_cons]
      cases hspent : event.spent? path with
      | none =>
          rw [List.filterMap_cons_none hspent]
          exact ih.trans (List.sublist_append_right _ _)
      | some resolution =>
          rw [List.filterMap_cons_some hspent]
          have hsupplied : resolution ∈ event.supplied := by
            cases event with
            | dispatched _ _ _ => cases hspent
            | advanced inputs passed => exact (mem_of_resolutionFor (spent_advanced hspent).2).1
          exact (List.singleton_sublist.mpr hsupplied).append ih

/-- A call of `advance` that passes a `DO` spends a resolution, and the calls spend what
different dispatches returned. SOURCE: macro_runner.py:452-479 -/
theorem passes_le_succeeded (hpaths : (plan.instructions.map (·.path)).Nodup)
    (hrun : DispatchedRun iso sha256 digest plan events states)
    (honce : (events.flatMap RunEvent.supplied).Nodup) {instruction : PlanInstruction}
    (hmem : instruction ∈ plan.instructions) (hdo : instruction.opcode = .doOp) :
    events.countP (·.passes instruction.path) ≤ (succeededFor instruction.path events).length := by
  have hbacked : ∀ inputs passed, .advanced inputs passed ∈ events → instruction.path ∈ passed →
      ∃ resolution, resolutionFor inputs instruction.path = some resolution ∧
        resolution ∈ succeededFor instruction.path events := by
    intro inputs passed hevent hpassed
    obtain ⟨before, after, heq⟩ := List.append_of_mem hevent
    obtain ⟨resolution, hresolution, event, hbefore, hbacks⟩ :=
      backs_of_passed hpaths hrun heq hmem hdo hpassed
    obtain ⟨call, trace, result, rfl, hresult, -⟩ := hbacks.dispatched
    refine ⟨resolution, hresolution, List.mem_filter.mpr ⟨List.mem_filterMap.mpr
      ⟨_, heq ▸ List.mem_append_left _ hbefore, ?_⟩, ?_⟩⟩
    · rw [RunEvent.resolution?, hresult]
    · simp [hbacks.status, hbacks.path]
  have hspends : events.countP (·.passes instruction.path) ≤
      (events.filterMap (RunEvent.spent? instruction.path)).length := by
    rw [List.length_filterMap_eq_countP]
    refine List.countP_mono_left fun event hevent hpasses => ?_
    cases event with
    | dispatched _ _ _ => cases hpasses
    | advanced inputs passed =>
        have hpassed : passed.contains instruction.path = true := hpasses
        obtain ⟨resolution, hresolution, -⟩ :=
          hbacked inputs passed hevent (List.contains_iff_mem.mp hpassed)
        simp [RunEvent.spent?, List.contains_iff_mem.mp hpassed, hresolution]
  have hsubset : events.filterMap (RunEvent.spent? instruction.path) ⊆
      succeededFor instruction.path events := by
    intro resolution hresolution
    obtain ⟨event, hevent, hspent⟩ := List.mem_filterMap.mp hresolution
    cases event with
    | dispatched _ _ _ => cases hspent
    | advanced inputs passed =>
        obtain ⟨hpassed, hspent⟩ := spent_advanced hspent
        obtain ⟨found, hfound, hgained⟩ := hbacked inputs passed hevent hpassed
        rw [hspent] at hfound
        exact Option.some.inj hfound ▸ hgained
  have hnodup := honce.sublist (spent_sublist instruction.path events)
  exact hspends.trans (List.subperm_of_subset hnodup hsubset).length_le

/-- Every `SUCCEEDED` dispatch for a path entered the executor.
SOURCE: macro_dispatcher.py:347-468 -/
theorem succeeded_le_entries (path : String)
    (h : ∀ call trace stopped, .dispatched call trace stopped ∈ events →
      Prog.Steps (GovernedDoDispatcher.dispatch iso sha256 digest call) trace stopped) :
    (succeededFor path events).length ≤ (events.map (·.entriesFor path)).sum := by
  induction events with
  | nil => simp [succeededFor]
  | cons event events ih =>
      have hrest := ih fun call trace stopped hmem => h _ _ _ (List.mem_cons_of_mem _ hmem)
      unfold succeededFor at hrest ⊢
      rw [List.map_cons, List.sum_cons]
      cases hreturned : event.resolution? with
      | none =>
          rw [List.filterMap_cons_none hreturned]
          omega
      | some resolution =>
          rw [List.filterMap_cons_some hreturned]
          by_cases hfor : resolution.status = .succeeded ∧ resolution.instructionPath = path
          · rw [List.filter_cons_of_pos (by simpa using hfor), List.length_cons]
            have hentry : event.entriesFor path = 1 := by
              cases event with
              | advanced _ _ => cases hreturned
              | dispatched call trace stopped =>
                  cases stopped with
                  | raise _ | op _ _ => cases hreturned
                  | ret result =>
                      obtain rfl := Option.some.inj hreturned
                      obtain ⟨entered, haccounts, hentries⟩ :=
                        accounts_of_returned (h _ _ _ List.mem_cons_self)
                      rw [haccounts.entered hfor.1] at hentries
                      simp [RunEvent.entriesFor, haccounts.package, hfor.2, hentries]
            omega
          · rw [List.filter_cons_of_neg (by simpa using hfor)]
            omega

/-- MAIN: **a pass of a `DO` is backed by a dispatch, one dispatch for each call of `advance`.** In
every run of a compiled plan whose operation resolutions come from dispatches of the run: a call of
`advance` that passes a `DO` was supplied a `SUCCEEDED` resolution of its path and operation, which
an earlier dispatch returned that paused at this very instruction and entered the executor once. If
no resolution is supplied twice, the calls of `advance` that pass a `DO` are no more than its
`SUCCEEDED` dispatches, and these no more than its executor entries.
SOURCE: macro_runner.py:359-500, macro_dispatcher.py:315-468, macro_spine_bridge.py:305-363 -/
theorem passes_backed_by_dispatches
    (hplan : MacroGraphPlanner.plan sha256 definition = .ok plan)
    (hrun : DispatchedRun iso sha256 digest plan events states) :
    (∀ before inputs passed after, events = before ++ .advanced inputs passed :: after →
      ∀ instruction ∈ plan.instructions, instruction.opcode = .doOp →
        instruction.path ∈ passed → ∃ resolution ∈ (inputs.getD {}).operations,
          ∃ event ∈ before, Backs sha256 plan instruction resolution event) ∧
    ((events.flatMap RunEvent.supplied).Nodup →
      ∀ instruction ∈ plan.instructions, instruction.opcode = .doOp →
        events.countP (·.passes instruction.path) ≤
          (succeededFor instruction.path events).length ∧
        (succeededFor instruction.path events).length ≤
          (events.map (·.entriesFor instruction.path)).sum) := by
  have hpaths := nodup_paths_of_plan hplan
  constructor
  · intro before inputs passed after heq instruction hmem hdo hpassed
    obtain ⟨resolution, hresolution, hbacked⟩ :=
      backs_of_passed hpaths hrun heq hmem hdo hpassed
    exact ⟨resolution, (mem_of_resolutionFor hresolution).1, hbacked⟩
  · intro honce instruction hmem hdo
    have hdispatches := hrun.split.1
    exact ⟨passes_le_succeeded hpaths hrun honce hmem hdo,
      succeeded_le_entries _ fun call trace stopped h => (hdispatches _ _ _ h).2⟩

end Runs

/-! ### A `DO` in a loop -/

/-- The operation that writes the text artifact. -/
def writeOperation : Operation where
  operationId := "write"
  operationVersion := "1"
  adapterId := "phios.spine"
  action := "commons.text_artifact"
  inputs := textPayload
  requiredCapabilities := ["artifact.write"]

/-- Writing it twice. -/
def writeTwice : MacroDefinition where
  macroId := "macro.twice"
  macroVersion := "1.0.0"
  steps := [.loopStep "twice" 2 [.doStep writeOperation]]

/-- A digest that tells the loop from everything else. -/
def twiceSha256 (payload : Json) : String :=
  match payload with
  | .obj fields => if fieldText fields "loop_id" = "twice" then
      "aaaaaaaaaaaaaaaaaaaaaaaaaaaaaaaaaaaaaaaaaaaaaaaaaaaaaaaaaaaaaaaa" else emptySha256
  | _ => emptySha256

/-- The plan of the loop. -/
def twicePlan : MacroPlan where
  macroId := "macro.twice"
  macroVersion := "1.0.0"
  definitionSha256 := emptySha256
  instructions := MacroGraphPlanner.emitSteps twiceSha256 "root" writeTwice.steps 0 0

theorem plan_writeTwice : MacroGraphPlanner.plan twiceSha256 writeTwice = .ok twicePlan := by
  have hvalidate : MacroGraphPlanner.validate writeTwice = .ok () := rfl
  have hcode : twicePlan.instructions.forM (·.postInit) = .ok () := rfl
  have hplan : twicePlan.postInit = .ok () := rfl
  show (MacroGraphPlanner.validate writeTwice >>= fun _ =>
    twicePlan.instructions.forM (·.postInit) >>= fun _ =>
      twicePlan.postInit >>= fun _ => Except.ok twicePlan) = _
  rw [hvalidate, hcode, hplan]
  rfl

/-- The run at its start, -/
def twiceReady : MacroRunState where
  macroId := "macro.twice"
  macroVersion := "1.0.0"
  planSha256 := emptySha256
  cursor := 0
  status := .ready
  reason := "plan_ready"
  loopIterations := []
  foreachIndices := []
  runVariables := []
  waitingOn := []
  lastInstructionPath := none
  transitions := 0

/-- And where it waits for the operation. -/
def twicePaused : MacroRunState :=
  { twiceReady with
    cursor := 1
    status := .waitingOperation
    reason := "operation_resolution_required"
    waitingOn := [("instruction_path", .str "root.0.body.0"), ("opcode", .str "DO")]
    lastInstructionPath := some "root.0.body.0"
    transitions := 2 }

/-- The dispatch of the operation there. -/
def twiceCall : GovernedDoDispatcher.Call where
  workPackage := {
    macroId := "macro.twice"
    macroVersion := "1.0.0"
    macroPlanSha256 := emptySha256
    macroRunStateSha256 := emptySha256
    instructionIndex := 1
    instructionPath := "root.0.body.0"
    operationId := "write"
    operationVersion := "1"
    operationHash := emptySha256
    inputHash := emptySha256
    adapterId := "phios.spine"
    action := "commons.text_artifact"
    requiredCapabilities := ["artifact.write"] }
  macroPlan := twicePlan
  runState := twicePaused
  operation := writeOperation
  request := hourlyRequest

/-- Everything succeeds. -/
def answerDispatch (n : ℕ) : (o : DispatchOp) → o.Reply
  | .ledger (.spine o) => answerWell n o
  | .ledger (.claim _ _) => ClaimReply.created
  | .ledger (.release _ _) => ReleaseReply.released
  | .ledger (.hasConsumedBinding _) | .ledger (.hasConsumedActionLease _) => .ok false
  | .appendMacroReceipt _ | .appendMacroDispatchReceipt _ => AppendReply.stored

/-- The resolution that a dispatch stopped with, without its receipt. -/
def returnedResolution : DispatchProg DoDispatchResult → Option (String × String × ResolutionStatus)
  | .ret result =>
      let resolution := result.operationResolution
      some (resolution.instructionPath, resolution.operationHash, resolution.status)
  | _ => none

/-- The dispatch returns a `SUCCEEDED` resolution. -/
theorem dispatch_writeTwice : ∃ trace result receipt,
    Prog.Steps (GovernedDoDispatcher.dispatch hourlyIso twiceSha256 oneDigest twiceCall) trace
      (.ret result) ∧
    result.operationResolution = ⟨"root.0.body.0", emptySha256, .succeeded, receipt⟩ := by
  have hsteps := Prog.steps_eval answerDispatch 0
    (GovernedDoDispatcher.dispatch hourlyIso twiceSha256 oneDigest twiceCall)
  have hreturned : returnedResolution ((GovernedDoDispatcher.dispatch hourlyIso twiceSha256
      oneDigest twiceCall).eval answerDispatch 0).2 =
      some ("root.0.body.0", emptySha256, .succeeded) := by
    decide +kernel
  generalize ((GovernedDoDispatcher.dispatch hourlyIso twiceSha256 oneDigest twiceCall).eval
    answerDispatch 0).2 = q at hsteps hreturned
  cases q with
  | raise _ | op _ _ => cases hreturned
  | ret result =>
      have h := Option.some.inj hreturned
      simp only [Prod.mk.injEq] at h
      obtain ⟨hpath, hhash, hstatus⟩ := h
      refine ⟨_, result, result.operationResolution.receiptSha256, hsteps, ?_⟩
      rw [← hpath, ← hhash, ← hstatus]

/-- The events of the run: the pause at the `DO`, its dispatch, and the call of `advance` with the
resolution. -/
def twiceEvents (trace : List (Prog.Event DispatchOp.Reply)) (result : DoDispatchResult) :
    List RunEvent :=
  [.advanced none [], .dispatched twiceCall trace (.ret result),
    .advanced (some { operations := [result.operationResolution] })
      ["root.0.body.0", "root.0.body.0"]]

/-- The run: one dispatch, and one call of `advance` that passes the `DO` twice. -/
theorem run_writeTwice : ∃ trace result states receipt,
    DispatchedRun hourlyIso twiceSha256 oneDigest twicePlan (twiceEvents trace result) states ∧
    result.operationResolution = ⟨"root.0.body.0", emptySha256, .succeeded, receipt⟩ := by
  obtain ⟨trace, result, receipt, hsteps, hresolution⟩ := dispatch_writeTwice
  have hstart : start twiceSha256 twicePlan = .ok twiceReady := rfl
  have hpause : advancePassing twiceSha256 twicePlan twiceReady none 100 =
      .ok ([], twicePaused) := rfl
  obtain ⟨final, hpass⟩ : ∃ final, advancePassing twiceSha256 twicePlan twicePaused
      (some { operations := [⟨"root.0.body.0", emptySha256, .succeeded, receipt⟩] }) 100 =
        .ok (["root.0.body.0", "root.0.body.0"], final) := ⟨_, rfl⟩
  have hstarted : DispatchedRun hourlyIso twiceSha256 oneDigest twicePlan [] [twiceReady] :=
    .started hstart
  have hpaused := hstarted.advance List.mem_cons_self (by simp) hpause
  have hplan : twiceCall.macroPlan = twicePlan := rfl
  have hstate : twiceCall.runState ∈ [twiceReady] ++ [twicePaused] := by simp [twiceCall]
  have hdispatched := hpaused.dispatch hplan hstate hsteps
  rw [← hresolution] at hpass
  exact ⟨trace, result, _, receipt, hdispatched.advance (by simp)
    (by simp [RunEvent.resolution?]) hpass, hresolution⟩

/-- WITNESS: in this run one call of `advance` passes the `DO`, on one dispatch. -/
theorem passes_backed_by_dispatches_writeTwice : ∃ events states,
    DispatchedRun hourlyIso twiceSha256 oneDigest twicePlan events states ∧
    events.countP (·.passes "root.0.body.0") = 1 ∧
    ∀ instruction ∈ twicePlan.instructions, instruction.opcode = .doOp →
      events.countP (·.passes instruction.path) ≤
        (succeededFor instruction.path events).length ∧
      (succeededFor instruction.path events).length ≤
        (events.map (·.entriesFor instruction.path)).sum := by
  obtain ⟨trace, result, states, receipt, hrun, -⟩ := run_writeTwice
  have honce : ((twiceEvents trace result).flatMap RunEvent.supplied).Nodup := by
    simp [twiceEvents, RunEvent.supplied]
  refine ⟨_, states, hrun, ?_, (passes_backed_by_dispatches plan_writeTwice hrun).2 honce⟩
  simp [twiceEvents, RunEvent.passes]

/-- COUNTEREXAMPLE: the `DO` is passed twice in this run, on the one dispatch in it, which enters
the executor once: the passes of a `DO` are not bounded by its executor entries. -/
theorem do_passed_beyond_its_entries :
    ¬ ∀ (iso : Iso8601) (sha256 : Json → String) (digest : Json → Except PyError String)
      (definition : MacroDefinition) (plan : MacroPlan) (events : List RunEvent)
      (states : List MacroRunState), MacroGraphPlanner.plan sha256 definition = .ok plan →
      DispatchedRun iso sha256 digest plan events states →
      ∀ instruction ∈ plan.instructions, instruction.opcode = .doOp →
        (events.flatMap RunEvent.passedPaths).count instruction.path ≤
          (events.map (·.entriesFor instruction.path)).sum := by
  intro hclaim
  obtain ⟨trace, result, states, receipt, hrun, -⟩ := run_writeTwice
  have hbound := hclaim _ _ _ _ _ _ _ plan_writeTwice hrun (twicePlan.instructions.get ⟨1, by decide⟩)
    (List.get_mem _ _) rfl
  have hsteps := (hrun.split.1 twiceCall trace (.ret result) (by simp [twiceEvents])).2
  obtain ⟨entered, -, hentries⟩ := accounts_of_returned hsteps
  have hpath : (twicePlan.instructions.get ⟨1, by decide⟩).path = "root.0.body.0" := rfl
  have honce : trace.countP (fun e => e.1.enters) ≤ 1 := by
    rw [hentries]
    exact Bool.toNat_le entered
  rw [hpath] at hbound
  simp [twiceEvents, RunEvent.passedPaths, RunEvent.entriesFor, twiceCall] at hbound
  omega

end PhiOS.Analysis
