import PhiOS.Analysis.CalendarReads
import PhiOS.Analysis.RuntimeRuns

/-!
# Grants of live effects

An adapter is made to execute an operation only in a live call, and only if each capability that the
operation requires is one of a grant of the principal that is not revoked. What a grant has as its
scope and its expiry is not read. Of the in-memory adapters, a dry run tells what the live run that
comes next will report, unless that has been applied before.

* `live_effects_granted`: the two laws
* `expired_grant_enters`: a live effect under a grant that has expired, for another scope
-/

set_option autoImplicit false

namespace PhiOS

open Interaction KeyOrder

namespace PyMacro

/-- Each required capability is one of a grant of the principal that is not revoked. -/
def ScopedRequest.Covered (asked : ScopedRequest) : Prop :=
  ∀ capability ∈ asked.operation.requiredCapabilities, ∃ grant ∈ asked.grants,
    grant.capability = capability ∧ grant.principalId = asked.principalId ∧ grant.revoked = false

/-- The events of a run of calls, each with its call. -/
inductive Session {Snapshot : Type} (json : PyJson) :
    List RuntimeCall → List (RuntimeCall × Prog.Event (RuntimeReply Snapshot)) → Prop
  | done : Session json [] []
  | call {call : RuntimeCall} {calls : List RuntimeCall} {t : List (Prog.Event (RuntimeReply Snapshot))}
      {q : RuntimeProg Snapshot Unit} {events : List (RuntimeCall × Prog.Event (RuntimeReply Snapshot))}
      (h : Prog.Steps (call.program json) t q) (hrest : Session json calls events) :
      Session json (call :: calls) (t.map (fun event => (call, event)) ++ events)

/-! ## What adapters are asked to do -/

section

variable {Snapshot : Type} {json : PyJson} {stamps : Stamps} {request : MacroRuntime.Request}

/-- An operation that has an adapter execute is the one allowed. -/
def RuntimeOp.Allowed (allowed : PyText → Operation → Prop) : RuntimeOp Snapshot → Prop
  | .execute adapterId operation => allowed adapterId operation
  | _ => True

variable {allowed : PyText → Operation → Prop}

theorem expect_issues {α : Type} {p : RuntimeProg Snapshot (Except PyError α)}
    (hp : p.Issues (RuntimeOp.Allowed allowed)) : (expect p).Issues (RuntimeOp.Allowed allowed) :=
  hp.bind fun _ => Prog.issues_ofExcept _

theorem call_issues {o : RuntimeOp Snapshot} (h : RuntimeOp.Allowed allowed o) :
    (Prog.call o : RuntimeProg Snapshot _).Issues (RuntimeOp.Allowed allowed) :=
  Prog.issues_op h fun _ => Prog.issues_ret _

theorem check_issues (bad : Prop) [Decidable bad] (e : PyError) :
    (check bad e : RuntimeProg Snapshot Unit).Issues (RuntimeOp.Allowed allowed) :=
  Prog.issues_ofExcept _

theorem findAdapter_issues (id : PyText) :
    (findAdapter id : RuntimeProg Snapshot Unit).Issues (RuntimeOp.Allowed allowed) :=
  expect_issues (call_issues trivial)

theorem askStateHash_issues (id : PyText) :
    (askStateHash id : RuntimeProg Snapshot String).Issues (RuntimeOp.Allowed allowed) :=
  expect_issues (call_issues trivial)

theorem findReceiptCall_issues (receiptId : String) : (findReceiptCall receiptId :
    RuntimeProg Snapshot RuntimeReceipt).Issues (RuntimeOp.Allowed allowed) :=
  expect_issues (call_issues trivial)

theorem askSnapshot_issues (id : PyText) :
    (askSnapshot id : RuntimeProg Snapshot Snapshot).Issues (RuntimeOp.Allowed allowed) :=
  expect_issues (call_issues trivial)

theorem askRestore_issues (id : PyText) (snapshot : Snapshot) :
    (askRestore id snapshot : RuntimeProg Snapshot Unit).Issues (RuntimeOp.Allowed allowed) :=
  expect_issues (call_issues trivial)

theorem findCheckpoint_issues (checkpointId : String) : (findCheckpoint checkpointId :
    RuntimeProg Snapshot (AdapterCheckpoint Snapshot)).Issues (RuntimeOp.Allowed allowed) :=
  expect_issues (call_issues trivial)

theorem record_issues (receipt : RuntimeReceipt) : (Prog.call (RuntimeOp.record receipt) :
    RuntimeProg Snapshot Unit).Issues (RuntimeOp.Allowed allowed) :=
  call_issues trivial

theorem askSimulate_issues (operation : Operation) : (askSimulate operation :
    RuntimeProg Snapshot AdapterResult).Issues (RuntimeOp.Allowed allowed) :=
  expect_issues (call_issues trivial)

theorem registerCall_issues (adapter : MacroAdapter) :
    (registerCall adapter : RuntimeProg Snapshot Unit).Issues (RuntimeOp.Allowed allowed) :=
  (check_issues _ _).bind fun _ => Prog.issues_op trivial fun _ =>
    (check_issues _ _).bind fun _ => call_issues trivial

theorem receiptCall_issues {state : ExecutionState} {preStateHash postStateHash : String}
    {output : PyFields} {count : ℕ} {checkpointId : Option String} {status : RuntimeResultStatus} :
    (receiptCall json stamps request state preStateHash postStateHash output count checkpointId status :
      RuntimeProg Snapshot ExecutionResult).Issues (RuntimeOp.Allowed allowed) :=
  Prog.issues_op trivial fun _ => (Prog.issues_ofExcept _).bind fun _ =>
    (record_issues _).bind fun _ => Prog.issues_ret _

theorem checkpointCall_issues (id : PyText) (rollbackClass : RollbackClass) :
    (checkpointCall stamps id rollbackClass :
      RuntimeProg Snapshot (Option String)).Issues (RuntimeOp.Allowed allowed) := by
  unfold checkpointCall
  split
  · exact Prog.issues_ret _
  · refine (askStateHash_issues id).bind fun stateHash => (askSnapshot_issues id).bind fun snapshot => ?_
    exact Prog.issues_op trivial fun _ => Prog.issues_ret _

/-- Only a live call has the adapter execute, and what it executes is the operation of the
call. -/
theorem performCall_issues
    (h : request.mode = .live → allowed request.operation.adapterId request.operation) :
    (performCall request : RuntimeProg Snapshot _).Issues (RuntimeOp.Allowed allowed) := by
  unfold performCall
  cases hmode : request.mode with
  | live =>
      have hcall : (askExecute request.operation :
          RuntimeProg Snapshot AdapterResult).Issues (RuntimeOp.Allowed allowed) :=
        expect_issues (call_issues (h hmode))
      exact hcall.bind fun _ => Prog.issues_ret _
  | dryRun =>
      exact (askSimulate_issues _).bind fun _ => (check_issues _ _).bind fun _ => Prog.issues_ret _
  | replay =>
      exact (check_issues _ _).bind fun _ => (askSimulate_issues _).bind fun _ =>
        (check_issues _ _).bind fun _ => Prog.issues_ret _

theorem commitCall_issues (receipt : RuntimeReceipt) (identity : Option String) :
    (commitCall receipt identity : RuntimeProg Snapshot Unit).Issues (RuntimeOp.Allowed allowed) := by
  cases identity with
  | none => exact Prog.issues_ret _
  | some identity => exact call_issues trivial

theorem priorCall_issues (identity : Option String) : (priorCall identity :
    RuntimeProg Snapshot (Option RuntimeReceipt)).Issues (RuntimeOp.Allowed allowed) := by
  cases identity with
  | none => exact Prog.issues_ret _
  | some identity => exact call_issues trivial

/-- And the authority of the call has been granted. -/
theorem executeCall_issues (h : request.mode = .live →
      (authorize request.principalId request.operation request.grants).decision = .granted →
      allowed request.operation.adapterId request.operation) :
    (executeCall json stamps request : RuntimeProg Snapshot _).Issues (RuntimeOp.Allowed allowed) := by
  refine (findAdapter_issues _).bind fun _ => (askStateHash_issues _).bind fun preStateHash =>
    (check_issues _ _).bind fun _ => ?_
  unfold authorizedCall
  split
  · exact receiptCall_issues
  · rename_i hdecision
    refine (Prog.issues_ofExcept _).bind fun identity => (priorCall_issues _).bind fun prior => ?_
    cases prior with
    | some prior => exact receiptCall_issues
    | none =>
        refine (checkpointCall_issues _ _).bind fun _ => (performCall_issues fun hlive =>
          h hlive (not_not.mp hdecision)).bind fun _ => (askStateHash_issues _).bind fun _ =>
            receiptCall_issues.bind fun _ => (commitCall_issues _ _).bind fun _ => Prog.issues_ret _

theorem rollbackCall_issues (receiptId : String) : (rollbackCall json stamps receiptId :
    RuntimeProg Snapshot RuntimeReceipt).Issues (RuntimeOp.Allowed allowed) := by
  refine (findReceiptCall_issues _).bind fun original => ?_
  cases original.checkpointId with
  | none => exact Prog.issues_raise _
  | some checkpointId =>
      exact (findCheckpoint_issues _).bind fun _ => (findAdapter_issues _).bind fun _ =>
        (askStateHash_issues _).bind fun _ => (askRestore_issues _ _).bind fun _ =>
          (askStateHash_issues _).bind fun _ => (check_issues _ _).bind fun _ =>
            (Prog.issues_ofExcept _).bind fun _ => (record_issues _).bind fun _ =>
              Prog.issues_ret _

theorem replayCall_issues (principalId : PyText) (operation : Operation) (receiptId : String)
    (grants : List CapabilityGrant) :
    (replayCall json stamps principalId operation receiptId grants :
      RuntimeProg Snapshot ExecutionResult).Issues (RuntimeOp.Allowed allowed) :=
  (findReceiptCall_issues _).bind fun _ => (Prog.issues_ofExcept _).bind fun _ =>
    (check_issues _ _).bind fun _ => (executeCall_issues fun hlive =>
      nomatch (show ExecutionMode.replay = .live from hlive)).bind fun _ =>
      (check_issues _ _).bind fun _ => Prog.issues_ret _

end

/-- Where no capability is missing, each is one of a grant that counts. -/
theorem covered_of_granted {asked : ScopedRequest}
    (h : (authorize asked.request.principalId asked.request.operation asked.request.grants).decision =
      .granted) : asked.Covered := by
  intro capability hcapability
  by_contra hnone
  have hmissing : capability ∈ asked.operation.requiredCapabilities.filter fun capability =>
      capability ∉ ((asked.grants.map (·.toCapabilityGrant)).filter fun grant =>
        grant.principalId = asked.principalId ∧ grant.revoked = false).map (·.capability) := by
    refine List.mem_filter.mpr ⟨hcapability, decide_eq_true fun hmem => hnone ?_⟩
    obtain ⟨grant, hgrant, rfl⟩ := List.mem_map.mp hmem
    obtain ⟨hsupplied, hactive⟩ := List.mem_filter.mp hgrant
    obtain ⟨whole, hwhole, rfl⟩ := List.mem_map.mp hsupplied
    have hcounts := of_decide_eq_true hactive
    exact ⟨whole, hwhole, rfl, hcounts.1, hcounts.2⟩
  unfold authorize at h
  dsimp only at h
  split at h
  · rename_i hempty
    have hmem := hempty ▸ hmissing
    cases hmem
  · cases h

/-- Of any calls of the runtime, whatever the adapters answer, each effect is one of a live
call that is covered. SOURCE: macro_runtime.py:226-472 -/
theorem Session.covered {Snapshot : Type} {json : PyJson} {calls : List RuntimeCall}
    {events : List (RuntimeCall × Prog.Event (RuntimeReply Snapshot))} (h : Session json calls events)
    {call : RuntimeCall} {event : Prog.Event (RuntimeReply Snapshot)} (hevent : (call, event) ∈ events)
    {adapterId : PyText} {operation : Operation} (hentry : event.1 = .execute adapterId operation) :
    ∃ stamps asked, call = .execute stamps asked ∧ call ∈ calls ∧ asked.mode = .live ∧
      adapterId = asked.operation.adapterId ∧ operation = asked.operation ∧ asked.Covered := by
  induction h with
  | done => cases hevent
  | @call first calls t q events hsteps _ ih =>
      rcases List.mem_append.mp hevent with hmem | hmem
      · have hfirst : call = first ∧ event ∈ t := by
          obtain ⟨found, hfound, heq⟩ := List.mem_map.mp hmem
          obtain ⟨rfl, rfl⟩ := Prod.mk.inj heq
          exact ⟨rfl, hfound⟩
        obtain ⟨rfl, hcarried⟩ := hfirst
        have hallowed : ∀ allowed : PyText → Operation → Prop,
            (call.program json : RuntimeProg Snapshot Unit).Issues (RuntimeOp.Allowed allowed) →
            allowed adapterId operation := by
          intro allowed hissues
          have hop := hissues.mem hsteps _ hcarried
          rwa [hentry] at hop
        cases call with
        | register adapter => exact (hallowed (fun _ _ => False) (registerCall_issues adapter)).elim
        | rollback stamps receiptId =>
            exact (hallowed (fun _ _ => False)
              ((rollbackCall_issues receiptId).bind fun _ => Prog.issues_ret _)).elim
        | replay stamps principalId operation receiptId grants =>
            exact (hallowed (fun _ _ => False)
              ((replayCall_issues _ _ _ _).bind fun _ => Prog.issues_ret _)).elim
        | execute stamps asked =>
            have hcovered := hallowed (fun adapterId operation => asked.mode = .live ∧
              adapterId = asked.operation.adapterId ∧ operation = asked.operation ∧ asked.Covered)
              ((executeCall_issues fun hlive hgranted =>
                ⟨hlive, rfl, rfl, covered_of_granted hgranted⟩).bind fun _ => Prog.issues_ret _)
            exact ⟨stamps, asked, rfl, by simp, hcovered⟩
      · obtain ⟨stamps, asked, hcall, hmem, hrest⟩ := ih hmem
        exact ⟨stamps, asked, hcall, List.mem_cons_of_mem _ hmem, hrest⟩

/-! ## A dry run, and the live run after it -/

namespace MacroRuntime

variable {json : PyJson} {runtime later : MacroRuntime} {stamps : Stamps} {request : Request}
  {adapter : InMemoryStateAdapter} {preStateHash : String} {identity : Option String}

/-- The same call in another mode. -/
def Request.inMode (request : Request) (mode : ExecutionMode) : Request := { request with mode }

/-- The adapters and the idempotency map are the same. -/
def SameAdapters (before after : MacroRuntime) : Prop :=
  (∀ id, after.adapters.get? id = before.adapters.get? id) ∧
    after.committedIdempotency = before.committedIdempotency

/-- A dry run has the authority that a live run has. -/
theorem admission_of_dry {admission : Admission}
    (h : runtime.admission json (request.inMode .dryRun) = .ok admission) :
    ((authorize request.principalId request.operation request.grants).decision ≠ .granted ∧
      admission = .denied) ∨
    ((authorize request.principalId request.operation request.grants).decision = .granted ∧
      ∃ identity, idempotencyIdentity json request.operation = .ok identity ∧
        admission = .enters identity) := by
  obtain ⟨_, -, h⟩ := bind_eq_ok.mp h
  change (if (authorize request.principalId request.operation request.grants).decision ≠ .granted
    then _ else _) = Except.ok admission at h
  by_cases hdecision : (authorize request.principalId request.operation
      request.grants).decision ≠ .granted
  · rw [if_pos hdecision] at h
    exact .inl ⟨hdecision, (Except.ok.inj h).symm⟩
  · rw [if_neg hdecision] at h
    obtain ⟨identity, hidentity, h⟩ := bind_eq_ok.mp h
    refine .inr ⟨not_not.mp hdecision, identity, hidentity, ?_⟩
    exact (Except.ok.inj h).symm

/-- What a live run begins with, after a dry run that began.
SOURCE: macro_runtime.py:287-334 -/
theorem begin_live {admission : Admission} (hsame : SameAdapters runtime later)
    (hlive : .live ∈ request.operation.executionModesSupported)
    (h : runtime.begin json (request.inMode .dryRun) = .ok (adapter, preStateHash, admission)) :
    (admission = .denied ∧
      later.begin json (request.inMode .live) = .ok (adapter, preStateHash, .denied)) ∨
    ∃ identity, admission = .enters identity ∧
      idempotencyIdentity json request.operation = .ok identity ∧
      later.begin json (request.inMode .live) = .ok (adapter, preStateHash,
        match identity.bind runtime.committedIdempotency.get? with
        | some prior => .alreadyApplied prior
        | none => .enters identity) := by
  obtain ⟨found, hfound, h⟩ := bind_eq_ok.mp h
  obtain ⟨hash, hhash, h⟩ := bind_eq_ok.mp h
  obtain ⟨admitted, hadmitted, h⟩ := bind_eq_ok.mp h
  obtain ⟨rfl, hrest⟩ := Prod.mk.inj (Except.ok.inj h)
  obtain ⟨rfl, rfl⟩ := Prod.mk.inj hrest
  have hadapter : later.adapter request.operation.adapterId = .ok found := by
    have hget := (hsame.1 request.operation.adapterId).trans (adapter_found hfound)
    unfold MacroRuntime.adapter
    rw [hget]
  have hbegin : ∀ {admission}, later.admission json (request.inMode .live) = .ok admission →
      later.begin json (request.inMode .live) = .ok (found, hash, admission) := fun hlater =>
    bind_eq_ok.mpr ⟨found, hadapter, bind_eq_ok.mpr ⟨hash, hhash, bind_eq_ok.mpr ⟨_, hlater, rfl⟩⟩⟩
  have hsupported : raiseIf ((request.inMode .live).mode ∉ request.operation.executionModesSupported)
      ⟨.valueError, "execution mode " ++ (request.inMode .live).mode.value ++ " is not supported",
        []⟩ = .ok () := raiseIf_eq_ok.mpr fun hnot => hnot hlive
  rcases admission_of_dry hadmitted with ⟨hdecision, rfl⟩ | ⟨hdecision, identity, hidentity, rfl⟩
  · refine .inl ⟨rfl, hbegin (bind_eq_ok.mpr ⟨(), hsupported, ?_⟩)⟩
    exact if_pos hdecision
  · refine .inr ⟨identity, rfl, hidentity, hbegin (bind_eq_ok.mpr ⟨(), hsupported, ?_⟩)⟩
    refine (if_neg fun hnot => hnot hdecision).trans (bind_eq_ok.mpr ⟨identity, hidentity, ?_⟩)
    show (match (if ExecutionMode.live = .live then
      identity.bind later.committedIdempotency.get? else none) with
      | some prior => Except.ok (Admission.alreadyApplied prior)
      | none => .ok (.enters identity)) = _
    rw [if_pos rfl, hsame.2]
    cases identity.bind runtime.committedIdempotency.get? <;> rfl

/-- What an adapter simulates, when a dry run has returned. -/
theorem perform_dry {result : AdapterResult} {status : RuntimeResultStatus}
    (h : (perform json adapter (request.inMode .dryRun)).1 = .ok (result, status)) :
    status = .dryRun ∧ ∃ setting, InMemoryStateAdapter.setting request.operation = .ok setting ∧
      adapter.output json setting = .ok result.output := by
  unfold perform InMemoryStateAdapter.simulate InMemoryStateAdapter.apply at h
  change ((_ : Except PyError AdapterResult) >>= _) = _ at h
  obtain ⟨simulated, hsimulated, h⟩ := bind_eq_ok.mp h
  obtain ⟨_, -, h⟩ := bind_eq_ok.mp h
  obtain ⟨rfl, rfl⟩ := Prod.mk.inj (Except.ok.inj h)
  refine ⟨rfl, ?_⟩
  have hmode : (request.inMode .dryRun).operation = request.operation := rfl
  rw [hmode] at hsimulated
  cases hsetting : InMemoryStateAdapter.setting request.operation with
  | error e =>
      rw [hsetting] at hsimulated
      cases hsimulated
  | ok setting =>
      rw [hsetting] at hsimulated
      dsimp only at hsimulated
      refine ⟨setting, rfl, ?_⟩
      cases houtput : adapter.output json setting with
      | error e =>
          rw [houtput] at hsimulated
          cases hsimulated
      | ok output =>
          rw [houtput] at hsimulated
          rw [← Except.ok.inj hsimulated]

theorem refuse_eq_ok {state : ExecutionState} {status : RuntimeResultStatus} {output : PyFields}
    {returned : ExecutionResult}
    (h : (runtime.refuse json adapter preStateHash stamps request state status output).1 =
      .ok returned) :
    returned.status = status ∧ returned.output = output ∧
      request.operation.operationHash json = .ok returned.receipt.operationHash ∧
      (runtime.refuse json adapter preStateHash stamps request state status output).2 =
        runtime.record returned.receipt := by
  unfold refuse at h ⊢
  dsimp only at h ⊢
  split at h
  · cases h
  · rename_i made hmade
    obtain rfl := Except.ok.inj h
    exact ⟨rfl, rfl, (hashes_of_receipt hmade).1, rfl⟩

theorem postStateHash_of_receipt {authority : AuthorityDecision} {state : ExecutionState}
    {before after : String} {output : PyFields} {count : ℕ} {checkpointId : Option String}
    {status : RuntimeResultStatus} {made : RuntimeReceipt}
    (h : receipt json stamps request authority state before after output count checkpointId adapter
      status = .ok made) : made.postStateHash = after := by
  obtain ⟨_, _, _, h⟩ := ok_past_three h
  rw [← Except.ok.inj h]

/-- What an execution returns and records once the adapter has returned. -/
theorem settle_eq_ok {after : InMemoryStateAdapter} {checkpoint : Option Checkpoint}
    {result : AdapterResult} {status : RuntimeResultStatus} {returned : ExecutionResult}
    (h : (runtime.settle json after preStateHash stamps request identity checkpoint result status).1 =
      .ok returned) :
    returned.status = status ∧ returned.output = result.output ∧
      request.operation.operationHash json = .ok returned.receipt.operationHash ∧
      after.stateHash json = .ok returned.receipt.postStateHash ∧
      (runtime.settle json after preStateHash stamps request identity checkpoint result status).2 =
        (runtime.record returned.receipt).commit returned.receipt
          (if request.mode = .live then identity else none) := by
  unfold settle at h ⊢
  dsimp only at h ⊢
  split at h
  · cases h
  · rename_i made hmade
    obtain ⟨post, hpost, hmade⟩ := bind_eq_ok.mp hmade
    obtain rfl := Except.ok.inj h
    refine ⟨rfl, rfl, (hashes_of_receipt hmade).1, ?_, rfl⟩
    rw [hpost, postStateHash_of_receipt hmade]

theorem sameAdapters_update {id : PyText} (h : runtime.adapters.get? id = some adapter)
    (checkpoint : Option Checkpoint) :
    SameAdapters runtime ((runtime.hold checkpoint).update id adapter) :=
  ⟨(untouched_update h checkpoint).adapters, (untouched_update h checkpoint).committedIdempotency⟩

/-- How a dry run has returned: denied, or with what its adapter has simulated. -/
def DryRun (json : PyJson) (runtime : MacroRuntime) (stamps : Stamps) (request : Request)
    (dry : ExecutionResult) : Prop :=
  ∃ adapter preStateHash,
    (runtime.begin json (request.inMode .dryRun) = .ok (adapter, preStateHash, .denied) ∧
      dry.status = .denied ∧ dry.output = [(pyText "missing_capabilities", texts
        (authorize request.principalId request.operation request.grants).missingCapabilities)]) ∨
    ∃ identity checkpoint setting,
      runtime.begin json (request.inMode .dryRun) = .ok (adapter, preStateHash, .enters identity) ∧
      createCheckpoint json adapter stamps request.operation.rollbackClass = .ok checkpoint ∧
      InMemoryStateAdapter.setting request.operation = .ok setting ∧
      adapter.output json setting = .ok dry.output ∧ dry.status = .dryRun

/-- A dry run that returns has a hash of its operation, and leaves the adapters as they are.
SOURCE: macro_runtime.py:278-424 -/
theorem dry_run {dry : ExecutionResult}
    (h : (runtime.execute json stamps (request.inMode .dryRun)).1 = .ok dry) :
    (∃ hash, request.operation.operationHash json = .ok hash) ∧
      SameAdapters runtime (runtime.execute json stamps (request.inMode .dryRun)).2 ∧
      DryRun json runtime stamps request dry := by
  unfold execute at h ⊢
  cases hbegin : runtime.begin json (request.inMode .dryRun) with
  | error e =>
      rw [hbegin] at h
      cases h
  | ok found =>
      obtain ⟨adapter, preStateHash, admission⟩ := found
      rw [hbegin] at h
      obtain ⟨hadapter, -, hadmission⟩ := begin_eq_ok hbegin
      have hadmitted := admission_of_dry hadmission
      cases admission with
      | alreadyApplied prior =>
          rcases hadmitted with ⟨-, hdenied⟩ | ⟨-, _, -, henters⟩
          · cases hdenied
          · cases henters
      | denied =>
          obtain ⟨hstatus, houtput, hhash, hafter⟩ := refuse_eq_ok h
          dsimp only
          rw [hafter]
          exact ⟨⟨_, hhash⟩, ⟨fun _ => rfl, rfl⟩, adapter, preStateHash, .inl ⟨hbegin, hstatus, houtput⟩⟩
      | enters identity =>
          dsimp only at h ⊢
          unfold enter at h ⊢
          cases hcheckpoint : createCheckpoint json adapter stamps
              (request.inMode .dryRun).operation.rollbackClass with
          | error e =>
              rw [hcheckpoint] at h
              cases h
          | ok checkpoint =>
              rw [hcheckpoint] at h
              dsimp only at h ⊢
              have hunchanged : (perform json adapter (request.inMode .dryRun)).2 = adapter :=
                perform_unchanged fun hmode => nomatch (show ExecutionMode.dryRun = .live from hmode)
              rw [hunchanged] at h ⊢
              have hsame := sameAdapters_update hadapter checkpoint
              cases hperformed : (perform json adapter (request.inMode .dryRun)).1 with
              | error e =>
                  rw [hperformed] at h
                  cases h
              | ok performed =>
                  rw [hperformed] at h
                  obtain ⟨hstatus, houtput, hhash, -, hafter⟩ := settle_eq_ok h
                  obtain ⟨hdry, setting, hsetting, hsimulated⟩ := perform_dry hperformed
                  dsimp only
                  rw [hafter]
                  refine ⟨⟨_, hhash⟩, hsame, adapter, preStateHash, .inr ⟨identity, checkpoint, setting,
                    hbegin, hcheckpoint, hsetting, ?_, hstatus.trans hdry⟩⟩
                  rw [houtput, hsimulated]

/-- A live execution of an operation of the same identity is on record. -/
def AppliedBefore (json : PyJson) (runtime : MacroRuntime) (operation : Operation) : Prop :=
  ∃ identity prior, idempotencyIdentity json operation = .ok (some identity) ∧
    runtime.committedIdempotency.get? identity = some prior

/-- What a live run reports after a dry run: it is denied as that was, it has been applied before, or
it has the output that was predicted, and the state whose hash was. -/
def Predicted (json : PyJson) (runtime : MacroRuntime) (operation : Operation)
    (dry live : ExecutionResult) : Prop :=
  (dry.status = .denied ∧ live.status = .denied ∧ live.output = dry.output) ∨
  (dry.status = .dryRun ∧ AppliedBefore json runtime operation ∧ live.status = .alreadyApplied) ∨
  (dry.status = .dryRun ∧ ¬ AppliedBefore json runtime operation ∧ live.status = .succeeded ∧
    live.output = dry.output ∧
    dry.output.lookup (pyText "predicted_state_hash") = some (text live.receipt.postStateHash))

/-- A live execution that commits what was predicted.
SOURCE: macro_runtime.py:366-424, 576-608 -/
theorem enter_live {checkpoint : Option Checkpoint} {setting : PyText × PyValue} {output : PyFields}
    (hoperation : ∃ hash, request.operation.operationHash json = .ok hash)
    (hcheckpoint : createCheckpoint json adapter stamps request.operation.rollbackClass = .ok checkpoint)
    (hsetting : InMemoryStateAdapter.setting request.operation = .ok setting)
    (houtput : adapter.output json setting = .ok output) (hstate : (dictOf adapter.state).Hashable json) :
    ∃ live, (later.enter json adapter preStateHash stamps (request.inMode .live) identity).1 = .ok live ∧
      live.status = .succeeded ∧ live.output = output ∧
      output.lookup (pyText "predicted_state_hash") = some (text live.receipt.postStateHash) := by
  obtain ⟨hash, hoperation⟩ := hoperation
  have hinputs := Operation.hashable_inputs hoperation
  obtain ⟨hkey, hvalue⟩ := InMemoryStateAdapter.hashable_setting hinputs hsetting
  obtain ⟨hpredicted, output', houtput', hhashable⟩ :=
    InMemoryStateAdapter.output_of_hashable hstate hkey hvalue
  rw [houtput] at houtput'
  obtain rfl := Except.ok.inj houtput'
  have hafter : (dictOf (adapter.committed setting).state).Hashable json := hpredicted
  have hresult : (dictOf (AdapterResult.mk output 1).output).Hashable json := hhashable
  have hlive : (request.inMode .live).operation.operationHash json = .ok hash := hoperation
  have hperform : perform json adapter (request.inMode .live) = _ := perform_of_setting rfl hsetting
  have henter : later.enter json adapter preStateHash stamps (request.inMode .live) identity =
      ((later.hold checkpoint).update request.operation.adapterId
        (adapter.committed setting)).settle json (adapter.committed setting) preStateHash stamps
        (request.inMode .live) identity checkpoint ⟨output, 1⟩ .succeeded := by
    unfold enter
    have hcreated : createCheckpoint json adapter stamps
        (request.inMode .live).operation.rollbackClass = .ok checkpoint := hcheckpoint
    rw [hcreated]
    dsimp only
    rw [hperform, houtput]
    rfl
  rw [henter]
  obtain ⟨live, hreturned, -⟩ := settle_of_hashable hlive hafter hresult
  obtain ⟨hstatus, hreported, -, hpost, -⟩ := settle_eq_ok hreturned
  refine ⟨live, hreturned, hstatus, hreported, ?_⟩
  obtain ⟨predicted, hhash, hfields⟩ := bind_eq_ok.mp houtput
  have hsame : adapter.predicted setting = (adapter.committed setting).state := rfl
  have hpredictedHash : predicted = live.receipt.postStateHash := by
    unfold InMemoryStateAdapter.stateHash at hpost
    rw [hsame, hpost] at hhash
    exact (Except.ok.inj hhash).symm
  rw [← Except.ok.inj hfields, hpredictedHash]
  rfl

theorem createCheckpoint_stamps {stamps' : Stamps} {rollbackClass : RollbackClass}
    {checkpoint : Option Checkpoint}
    (h : createCheckpoint json adapter stamps rollbackClass = .ok checkpoint) :
    ∃ checkpoint', createCheckpoint json adapter stamps' rollbackClass = .ok checkpoint' := by
  unfold createCheckpoint at h ⊢
  split
  · exact ⟨none, rfl⟩
  · rename_i hclass
    rw [if_neg hclass] at h
    obtain ⟨stateHash, hhash, h⟩ := bind_eq_ok.mp h
    obtain ⟨snapshot, hsnapshot, -⟩ := bind_eq_ok.mp h
    exact ⟨_, bind_eq_ok.mpr ⟨stateHash, hhash, bind_eq_ok.mpr ⟨snapshot, hsnapshot, rfl⟩⟩⟩

/-- After a dry run that has returned, a live run returns, and reports what was predicted.
SOURCE: macro_runtime.py:278-424, 576-608 -/
theorem live_of_dry {stamps' : Stamps} {dry : ExecutionResult}
    (hoperation : ∃ hash, request.operation.operationHash json = .ok hash)
    (hsame : SameAdapters runtime later)
    (hlive : .live ∈ request.operation.executionModesSupported)
    (h : DryRun json runtime stamps request dry) :
    ∃ live, (later.execute json stamps' (request.inMode .live)).1 = .ok live ∧
      Predicted json runtime request.operation dry live := by
  obtain ⟨hash, hhash⟩ := hoperation
  have hlater : (request.inMode .live).operation.operationHash json = .ok hash := hhash
  obtain ⟨adapter, preStateHash, ⟨hbegin, hstatus, houtput⟩ |
    ⟨identity, checkpoint, setting, hbegin, hcheckpoint, hsetting, houtput, hstatus⟩⟩ := h
  · rcases begin_live hsame hlive hbegin with ⟨-, hbeginLive⟩ | ⟨_, henters, -⟩
    · unfold execute
      rw [hbeginLive]
      obtain ⟨live, hreturned, -⟩ := refuse_of_hashable hlater (hashable_missing hlater)
      obtain ⟨hliveStatus, hliveOutput, -⟩ := refuse_eq_ok hreturned
      exact ⟨live, hreturned, .inl ⟨hstatus, hliveStatus, hliveOutput.trans houtput.symm⟩⟩
    · cases henters
  · rcases begin_live hsame hlive hbegin with ⟨hdenied, -⟩ | ⟨identity', henters, hidentity, hbeginLive⟩
    · cases hdenied
    · obtain rfl := Admission.enters.inj henters
      obtain ⟨-, hstate, -⟩ := begin_eq_ok hbegin
      unfold execute
      rw [hbeginLive]
      cases hprior : identity.bind runtime.committedIdempotency.get? with
      | none =>
          have hfresh : ¬ AppliedBefore json runtime request.operation := by
            rintro ⟨applied, prior, happlied, hget⟩
            rw [hidentity] at happlied
            obtain rfl := Except.ok.inj happlied
            have hfound : runtime.committedIdempotency.get? applied = none := hprior
            rw [hget] at hfound
            cases hfound
          obtain ⟨checkpoint', hcheckpoint'⟩ := @createCheckpoint_stamps _ _ _ stamps' _ _ hcheckpoint
          obtain ⟨live, hreturned, hliveStatus, hliveOutput, hpost⟩ :=
            @enter_live json later stamps' request adapter preStateHash identity checkpoint' setting
              dry.output ⟨hash, hhash⟩ hcheckpoint' hsetting houtput hstate
          exact ⟨live, hreturned, .inr (.inr ⟨hstatus, hfresh, hliveStatus, hliveOutput, hpost⟩)⟩
      | some prior =>
          have happlied : AppliedBefore json runtime request.operation := by
            cases identity with
            | none => cases hprior
            | some applied => exact ⟨applied, prior, hidentity, hprior⟩
          have hreceipt : (dictOf [(pyText "prior_receipt_id", text prior.receiptId)]).Hashable json := by
            refine PyValue.hashable_dictOf.mpr fun e he => ?_
            obtain rfl := List.mem_singleton.mp he
            exact ⟨encodable_pyText _, hashable_text _⟩
          obtain ⟨live, hreturned, -⟩ := refuse_of_hashable hlater hreceipt
          obtain ⟨hliveStatus, -⟩ := refuse_eq_ok hreturned
          exact ⟨live, hreturned, .inr (.inl ⟨hstatus, happlied, hliveStatus⟩)⟩

end MacroRuntime

/-- MAIN: **Live effects are granted, and predicted by a dry run.** Of any calls of the runtime,
whatever the adapters answer, an adapter is made to execute only in a live call of `execute`, with the
operation of that call, each capability of which is one of a supplied grant of the principal that is
not revoked. Of in-memory adapters, whatever their states are: after a dry run that has returned, a
live run of the same operation returns as well; it is denied as the dry run was, or it has been
applied before, or it reports the output of the dry run, and the hash of its state is the predicted
one. -/
theorem live_effects_granted (json : PyJson) (Snapshot : Type) :
    (∀ (calls : List RuntimeCall) (events : List (RuntimeCall × Prog.Event (RuntimeReply Snapshot))),
      Session json calls events → ∀ call event, (call, event) ∈ events →
      ∀ adapterId operation, event.1 = .execute adapterId operation →
      ∃ stamps asked, call = .execute stamps asked ∧ call ∈ calls ∧ asked.mode = .live ∧
        adapterId = asked.operation.adapterId ∧ operation = asked.operation ∧ asked.Covered) ∧
    ∀ (runtime later : MacroRuntime) (stamps stamps' : Stamps) (request : MacroRuntime.Request)
      (dry : ExecutionResult), .live ∈ request.operation.executionModesSupported →
      (executeCall json stamps (request.inMode .dryRun)).run (MacroRuntime.act json) runtime =
        (.ok dry, later) →
      ∃ live, ((executeCall json stamps' (request.inMode .live)).run (MacroRuntime.act json) later).1 =
          .ok live ∧ MacroRuntime.Predicted json runtime request.operation dry live := by
  constructor
  · intro calls events hsession call event hevent adapterId operation hentry
    exact hsession.covered hevent hentry
  · intro runtime later stamps stamps' request dry hlive hdry
    rw [MacroRuntime.run_executeCall] at hdry
    have hreturned : (runtime.execute json stamps (request.inMode .dryRun)).1 = .ok dry := by
      rw [hdry]
    obtain ⟨hoperation, hsame, hcases⟩ := MacroRuntime.dry_run hreturned
    rw [hdry] at hsame
    rw [MacroRuntime.run_executeCall]
    exact MacroRuntime.live_of_dry hoperation hsame hlive hcases

/-! ## A grant that has expired -/

/-- The instant of a text. -/
def instantOf (text : PyText) : Option ℤ := Calendar.instantFromIso (text.map Char.ofNat)

/-- Each required capability is one of a grant of the principal that is not revoked, has not expired
when the call starts, and has the operation in its scope. -/
def ScopedRequest.InForce (admits : PyText → Operation → Prop) (startedAt : String)
    (asked : ScopedRequest) : Prop :=
  ∀ capability ∈ asked.operation.requiredCapabilities, ∃ grant ∈ asked.grants,
    grant.capability = capability ∧ grant.principalId = asked.principalId ∧ grant.revoked = false ∧
    (∀ expiry ∈ grant.expiresAt, ∃ stop start, instantOf expiry = some stop ∧
      instantOf (pyText startedAt) = some start ∧ start < stop) ∧
    admits grant.scope asked.operation

/-- Set `alpha`, with a grant of 1999. -/
def askedLate : ScopedRequest where
  principalId := pyText "operator"
  operation :=
    { operationId := pyText "state.set", operationVersion := pyText "0.1.0"
      adapterId := pyText "memory.state", action := pyText "set"
      inputs := dictOf [(pyText "key", text "alpha")], requiredCapabilities := [pyText "write"] }
  grants := [{ grantId := pyText "grant", principalId := pyText "operator"
               capability := pyText "write", scope := pyText "reports"
               expiresAt := some (pyText "1999-12-31T00:00:00+00:00") }]

/-- What a call of 2026 draws. -/
def lateStamps : Stamps :=
  ⟨"execution", "receipt", "checkpoint", "2026-01-01T00:00:00+00:00", "2026-01-01T00:00:01+00:00"⟩

/-- The entry of the adapter in that call. -/
def lateEntry : Prog.Event (RuntimeReply PyFields) :=
  ⟨.execute askedLate.operation.adapterId askedLate.operation, .ok ⟨[], 1⟩⟩

theorem session_late : ∃ events, Session MacroRuntime.plainJson [.execute lateStamps askedLate] events ∧
    (.execute lateStamps askedLate, lateEntry) ∈ events := by
  have hsteps : ∃ q, Prog.Steps
      (RuntimeCall.program MacroRuntime.plainJson (.execute lateStamps askedLate))
      [⟨.adapter askedLate.operation.adapterId, .ok ()⟩,
        ⟨.stateHash askedLate.operation.adapterId, .ok "digest"⟩, lateEntry] q :=
    ⟨_, .op (.op (.op (.refl _)))⟩
  obtain ⟨q, hsteps⟩ := hsteps
  exact ⟨_, .call hsteps .done, by simp⟩

/-- COUNTEREXAMPLE: Whatever scopes admit, the adapter is entered under a grant that expired in 1999. -/
theorem expired_grant_enters : ¬ ∃ admits : PyText → Operation → Prop,
    ∀ (calls : List RuntimeCall) (events : List (RuntimeCall × Prog.Event (RuntimeReply PyFields))),
      Session MacroRuntime.plainJson calls events → ∀ call event, (call, event) ∈ events →
      ∀ adapterId operation, event.1 = .execute adapterId operation →
      ∃ stamps asked, call = .execute stamps asked ∧ asked.InForce admits stamps.startedAt := by
  rintro ⟨admits, hclaim⟩
  obtain ⟨events, hsession, hentry⟩ := session_late
  obtain ⟨stamps, asked, hcall, hforce⟩ := hclaim _ _ hsession _ _ hentry _ _ rfl
  obtain ⟨rfl, rfl⟩ := RuntimeCall.execute.inj hcall
  obtain ⟨grant, hgrant, -, -, -, hexpiry, -⟩ := hforce (pyText "write") (by simp [askedLate])
  rw [List.mem_singleton.mp hgrant] at hexpiry
  obtain ⟨expiry, start, hexpires, hstarts, hlt⟩ := hexpiry _ rfl
  have hpast : ∃ past now, instantOf (pyText "1999-12-31T00:00:00+00:00") = some past ∧
      instantOf (pyText "2026-01-01T00:00:00+00:00") = some now ∧ past < now :=
    ⟨_, _, rfl, rfl, by decide⟩
  obtain ⟨past, now, hpast, hnow, hlt'⟩ := hpast
  have hexpiryPast : expiry = past := Option.some.inj (hexpires.symm.trans hpast)
  have hstartNow : start = now := Option.some.inj (hstarts.symm.trans hnow)
  omega

/-- WITNESS: That call has the grant that it takes, and a dry run of it predicts the live run. -/
theorem live_effects_granted_late :
    askedLate.Covered ∧ ∃ dry later, (executeCall MacroRuntime.plainJson lateStamps
        (askedLate.request.inMode .dryRun)).run (MacroRuntime.act MacroRuntime.plainJson)
          MacroRuntime.oneAdapter = (.ok dry, later) ∧
      ∃ live, ((executeCall MacroRuntime.plainJson lateStamps (askedLate.request.inMode .live)).run
          (MacroRuntime.act MacroRuntime.plainJson) later).1 = .ok live ∧
        MacroRuntime.Predicted MacroRuntime.plainJson MacroRuntime.oneAdapter askedLate.operation dry
          live := by
  obtain ⟨hgranted, hpredicted⟩ := live_effects_granted MacroRuntime.plainJson PyFields
  obtain ⟨events, hsession, hentry⟩ := session_late
  obtain ⟨stamps, asked, hcall, -, -, -, -, hcovered⟩ := hgranted _ _ hsession _ _ hentry _ _ rfl
  obtain ⟨rfl, rfl⟩ := RuntimeCall.execute.inj hcall
  have hdry : ∃ dry later, (executeCall MacroRuntime.plainJson lateStamps
      (askedLate.request.inMode .dryRun)).run (MacroRuntime.act MacroRuntime.plainJson)
        MacroRuntime.oneAdapter = (.ok dry, later) := ⟨_, _, rfl⟩
  obtain ⟨dry, later, hdry⟩ := hdry
  have hlive : .live ∈ askedLate.request.operation.executionModesSupported := by decide
  exact ⟨hcovered, dry, later, hdry, hpredicted _ later _ lateStamps _ dry hlive hdry⟩

end PyMacro

end PhiOS
