import PhiOS.Model.MacroRuntimeCalls

/-!
# Calls that raise

What a call of the macro runtime that raises has changed by then. An adapter commits before the hash
of its state is taken and before the receipt is made, so a live execution leaves a trace exactly if
its operation has no hash; a rollback leaves one if the state that it restores is another and has
not the hash of the checkpoint; a replay if the simulation has another result than the original,
`raising_call_leaves_no_trace_iff`.
-/

set_option autoImplicit false

namespace PhiOS

open KeyOrder

namespace PyMacro

variable {json : PyJson}

/-! ## What the hash of an operation takes -/

theorem encodable_pyText (value : String) : (pyText value).encodable = true := by
  unfold PyText.encodable pyText
  rw [List.all_eq_true]
  intro point hpoint
  obtain ⟨c, -, rfl⟩ := List.mem_map.mp hpoint
  have hvalid : c.toNat < 0xD800 ∨ 0xDFFF < c.toNat ∧ c.toNat < 0x110000 := c.valid
  rw [Bool.or_eq_true, decide_eq_true_eq, decide_eq_true_eq]
  omega

theorem hashable_text (value : String) : (text value).Hashable json :=
  PyValue.hashable_str.mpr (encodable_pyText value)

theorem hashable_null : PyValue.null.Hashable json := ⟨_, rfl⟩

theorem Operation.hashable_inputs {operation : Operation} {hash : String}
    (h : operation.operationHash json = .ok hash) : operation.inputs.Hashable json := by
  have hfields := PyValue.hashable_dictOf.mp ⟨hash, h⟩
  exact (hfields (pyText "inputs", operation.inputs) (by simp)).2

/-- What is read from inputs with a hash has a hash. -/
theorem Operation.hashable_input {operation : Operation} (h : operation.inputs.Hashable json)
    {name : String} {value : PyValue} (hvalue : operation.input name = .ok (some value)) :
    value.Hashable json := by
  unfold Operation.input at hvalue
  cases hinputs : operation.inputs with
  | dict entries =>
      rw [hinputs] at h hvalue
      have hlookup : entries.lookup (.text (pyText name)) = some value := Except.ok.inj hvalue
      obtain ⟨earlier, later, hsplit, -⟩ := List.lookup_eq_some_iff.mp hlookup
      have hmem : (.text (pyText name), value) ∈ entries := by
        rw [hsplit]
        exact List.mem_append_right _ List.mem_cons_self
      exact (PyValue.hashable_of_entry h hmem).2
  | foreign error mapping entries =>
      rw [hinputs] at h
      obtain ⟨hash, hhash⟩ := h
      cases hhash
  | _ =>
      rw [hinputs] at hvalue
      cases hvalue

namespace InMemoryStateAdapter

/-- So have the key and the value that an operation sets. -/
theorem hashable_setting {operation : Operation} (h : operation.inputs.Hashable json)
    {key : PyText} {value : PyValue} (hsetting : setting operation = .ok (key, value)) :
    key.encodable = true ∧ value.Hashable json := by
  unfold setting at hsetting
  obtain ⟨_, -, hsetting⟩ := bind_eq_ok.mp hsetting
  obtain ⟨found, hfound, hsetting⟩ := bind_eq_ok.mp hsetting
  split at hsetting
  · obtain ⟨_, -, hsetting⟩ := bind_eq_ok.mp hsetting
    obtain ⟨given, hgiven, hsetting⟩ := bind_eq_ok.mp hsetting
    obtain ⟨rfl, rfl⟩ := Prod.mk.inj (Except.ok.inj hsetting)
    have hkey := Operation.hashable_input h hfound
    refine ⟨PyValue.hashable_str.mp hkey, ?_⟩
    cases given with
    | none => exact hashable_null
    | some given => exact Operation.hashable_input h hgiven
  · cases hsetting

variable {adapter : InMemoryStateAdapter} {setting : PyText × PyValue}

/-- Where the state, the key and the value have hashes, the adapter returns after it has
committed, and what it returns and its state have hashes. -/
theorem output_of_hashable (hstate : (dictOf adapter.state).Hashable json)
    (hkey : setting.1.encodable = true) (hvalue : setting.2.Hashable json) :
    (dictOf (adapter.predicted setting)).Hashable json ∧
      ∃ output, adapter.output json setting = .ok output ∧ (dictOf output).Hashable json := by
  have hpredicted := PyValue.hashable_set hstate hkey hvalue
  obtain ⟨hash, hhash⟩ := hpredicted
  refine ⟨⟨hash, hhash⟩, _, bind_eq_ok.mpr ⟨hash, hhash, rfl⟩, PyValue.hashable_dictOf.mpr ?_⟩
  intro e he
  simp only [List.mem_cons, List.not_mem_nil, or_false] at he
  rcases he with rfl | rfl | rfl
  · exact ⟨encodable_pyText _, PyValue.hashable_str.mpr hkey⟩
  · exact ⟨encodable_pyText _, hvalue⟩
  · exact ⟨encodable_pyText _, hashable_text hash⟩

end InMemoryStateAdapter

/-! ## Receipts -/

namespace MacroRuntime

variable {stamps : Stamps} {request : Request} {authority : AuthorityDecision}
  {state : ExecutionState} {preStateHash postStateHash : String} {output : PyFields} {count : ℕ}
  {checkpointId : Option String} {adapter : InMemoryStateAdapter} {status : RuntimeResultStatus}

theorem hashes_of_receipt {made : RuntimeReceipt} (h : receipt json stamps request authority state
    preStateHash postStateHash output count checkpointId adapter status = .ok made) :
    request.operation.operationHash json = .ok made.operationHash ∧
      json.canonicalSha256 (dictOf output) = .ok made.resultHash := by
  obtain ⟨inputHash, -, h⟩ := bind_eq_ok.mp h
  obtain ⟨operationHash, hoperation, h⟩ := bind_eq_ok.mp h
  obtain ⟨resultHash, hresult, h⟩ := bind_eq_ok.mp h
  rw [← Except.ok.inj h]
  exact ⟨hoperation, hresult⟩

theorem receipt_of_hashable {hash : String} (hoperation : request.operation.operationHash json =
    .ok hash) (houtput : (dictOf output).Hashable json) :
    ∃ made, receipt json stamps request authority state preStateHash postStateHash output count
        checkpointId adapter status = .ok made ∧
      json.canonicalSha256 (dictOf output) = .ok made.resultHash := by
  obtain ⟨inputHash, hinput⟩ := Operation.hashable_inputs hoperation
  obtain ⟨resultHash, hresult⟩ := houtput
  have hmade : ∃ made, receipt json stamps request authority state preStateHash postStateHash output
      count checkpointId adapter status = .ok made :=
    ⟨_, bind_eq_ok.mpr ⟨inputHash, hinput, bind_eq_ok.mpr ⟨hash, hoperation,
      bind_eq_ok.mpr ⟨resultHash, hresult, rfl⟩⟩⟩⟩
  obtain ⟨made, hmade⟩ := hmade
  exact ⟨made, hmade, (hashes_of_receipt hmade).2⟩

/-! ## What a call leaves -/

/-- The adapters with their states and effect counters, the receipts and the idempotency map are the
same. -/
structure Untouched (before after : MacroRuntime) : Prop where
  adapters : ∀ id, after.adapters.get? id = before.adapters.get? id
  receipts : after.receipts = before.receipts
  committedIdempotency : after.committedIdempotency = before.committedIdempotency

variable {runtime : MacroRuntime}

theorem untouched_self : Untouched runtime runtime := ⟨fun _ => rfl, rfl, rfl⟩

/-- A checkpoint and an adapter as it was leave no trace. -/
theorem untouched_update {id : PyText} (hadapter : runtime.adapters.get? id = some adapter)
    (checkpoint : Option Checkpoint) :
    Untouched runtime ((runtime.hold checkpoint).update id adapter) := by
  have hadapters : (runtime.hold checkpoint).adapters = runtime.adapters := by
    cases checkpoint <;> rfl
  have hreceipts : (runtime.hold checkpoint).receipts = runtime.receipts := by
    cases checkpoint <;> rfl
  have hidempotency : (runtime.hold checkpoint).committedIdempotency =
      runtime.committedIdempotency := by
    cases checkpoint <;> rfl
  refine ⟨fun id' => ?_, hreceipts, hidempotency⟩
  show ((runtime.hold checkpoint).adapters.set id adapter).get? id' = _
  rw [hadapters, Dict.get?_set]
  by_cases hid : id' = id
  · rw [if_pos hid, hid, hadapter]
  · rw [if_neg hid]

theorem not_untouched_update {id : PyText} {after : InMemoryStateAdapter}
    (hadapter : runtime.adapters.get? id = some adapter) (hne : after ≠ adapter)
    (checkpoint : Option Checkpoint) :
    ¬ Untouched runtime ((runtime.hold checkpoint).update id after) := by
  intro h
  have hget := h.adapters id
  rw [hadapter] at hget
  have hset : ((runtime.hold checkpoint).update id after).adapters.get? id = some after :=
    (Dict.get?_set _ _ _ _).trans (if_pos rfl)
  exact hne (Option.some.inj (hset.symm.trans hget))

theorem adapter_found {id : PyText} (h : runtime.adapter id = .ok adapter) :
    runtime.adapters.get? id = some adapter := by
  unfold MacroRuntime.adapter at h
  split at h
  · rename_i found hfound
    rw [hfound, Except.ok.inj h]
  · cases h

theorem begin_eq_ok {admission : Admission}
    (h : runtime.begin json request = .ok (adapter, preStateHash, admission)) :
    runtime.adapters.get? request.operation.adapterId = some adapter ∧
      (dictOf adapter.state).Hashable json ∧
      runtime.admission json request = .ok admission := by
  obtain ⟨found, hfound, h⟩ := bind_eq_ok.mp h
  obtain ⟨hash, hhash, h⟩ := bind_eq_ok.mp h
  obtain ⟨admitted, hadmitted, h⟩ := bind_eq_ok.mp h
  obtain ⟨rfl, hrest⟩ := Prod.mk.inj (Except.ok.inj h)
  obtain ⟨rfl, rfl⟩ := Prod.mk.inj hrest
  exact ⟨adapter_found hfound, ⟨hash, hhash⟩, hadmitted⟩

/-! ## What the adapter is made to do -/

theorem perform_of_setting {setting : PyText × PyValue} (hmode : request.mode = .live)
    (hsetting : InMemoryStateAdapter.setting request.operation = .ok setting) :
    perform json adapter request =
      ((adapter.output json setting).map fun output => (⟨output, 1⟩, .succeeded),
        adapter.committed setting) := by
  unfold perform InMemoryStateAdapter.execute InMemoryStateAdapter.apply
  rw [hmode, hsetting]
  dsimp only
  cases adapter.output json setting <;> rfl

/-- Everything else leaves the adapter as it is. -/
theorem perform_unchanged (h : request.mode = .live →
      ∀ setting, InMemoryStateAdapter.setting request.operation ≠ .ok setting) :
    (perform json adapter request).2 = adapter := by
  unfold perform InMemoryStateAdapter.execute InMemoryStateAdapter.simulate
    InMemoryStateAdapter.apply
  cases hmode : request.mode with
  | live =>
      cases hsetting : InMemoryStateAdapter.setting request.operation with
      | error e => rfl
      | ok setting => exact absurd hsetting (h hmode setting)
  | dryRun => cases InMemoryStateAdapter.setting request.operation <;> rfl
  | replay =>
      dsimp only
      split
      · rfl
      · cases InMemoryStateAdapter.setting request.operation <;> rfl

/-- What a replay simulates. -/
def simulation (json : PyJson) (adapter : InMemoryStateAdapter) (operation : Operation) :
    Except PyError PyFields := do
  raiseIf (operation.replayClass ≠ .deterministic)
    ⟨.valueError, "operation is not declared deterministic", []⟩
  let setting ← InMemoryStateAdapter.setting operation
  adapter.output json setting

theorem perform_replay (hmode : request.mode = .replay) : (perform json adapter request).1 =
    (simulation json adapter request.operation).map fun output => (⟨output, 0⟩, .succeeded) := by
  unfold perform InMemoryStateAdapter.simulate InMemoryStateAdapter.apply simulation
  rw [hmode]
  dsimp only
  by_cases hclass : request.operation.replayClass = .deterministic
  · rw [if_neg (fun h => h hclass), raiseIf, if_neg (fun h => h hclass)]
    cases hsetting : InMemoryStateAdapter.setting request.operation with
    | error e => rfl
    | ok setting =>
        show _ = (adapter.output json setting).map _
        dsimp only
        cases adapter.output json setting <;> rfl
  · rw [if_pos hclass, raiseIf, if_pos hclass]
    rfl

/-! ## The part of a call after the adapter has returned -/

variable {identity : Option String} {checkpoint : Option Checkpoint} {result : AdapterResult}

theorem settle_of_error {e : PyError} (h : (runtime.settle json adapter preStateHash stamps request
    identity checkpoint result status).1 = .error e) :
    (runtime.settle json adapter preStateHash stamps request identity checkpoint result status).2 =
      runtime := by
  unfold settle at h ⊢
  dsimp only at h ⊢
  split at h
  · rfl
  · cases h

/-- Where the state, the operation and the output have hashes, a receipt is recorded. -/
theorem settle_of_hashable {hash : String} (hoperation : request.operation.operationHash json =
    .ok hash) (hstate : (dictOf adapter.state).Hashable json)
    (houtput : (dictOf result.output).Hashable json) :
    ∃ returned, (runtime.settle json adapter preStateHash stamps request identity checkpoint result
        status).1 = .ok returned ∧
      json.canonicalSha256 (dictOf result.output) = .ok returned.receipt.resultHash ∧
      (runtime.settle json adapter preStateHash stamps request identity checkpoint result
        status).2.receipts = runtime.receipts ++ [returned.receipt] := by
  obtain ⟨postStateHash, hpost⟩ := hstate
  have hmade : ∃ made, receipt json stamps request
      (authorize request.principalId request.operation request.grants) .completed preStateHash
      postStateHash result.output result.committedSideEffectCount
      (checkpoint.map (·.checkpointId)) adapter status = .ok made ∧
      json.canonicalSha256 (dictOf result.output) = .ok made.resultHash :=
    receipt_of_hashable hoperation houtput
  obtain ⟨made, hmade, hresult⟩ := hmade
  have hsettled : (adapter.stateHash json >>= fun postStateHash => receipt json stamps request
      (authorize request.principalId request.operation request.grants) .completed preStateHash
      postStateHash result.output result.committedSideEffectCount
      (checkpoint.map (·.checkpointId)) adapter status) = .ok made :=
    bind_eq_ok.mpr ⟨postStateHash, hpost, hmade⟩
  unfold settle
  dsimp only
  rw [hsettled]
  refine ⟨_, rfl, hresult, ?_⟩
  dsimp only
  generalize (if request.mode = .live then identity else none) = identity
  cases identity <;> rfl

theorem settle_of_unhashed (h : ¬ ∃ hash, request.operation.operationHash json = .ok hash) :
    ∃ e, (runtime.settle json adapter preStateHash stamps request identity checkpoint result
      status).1 = .error e := by
  unfold settle
  dsimp only
  split
  · rename_i e _
    exact ⟨e, rfl⟩
  · rename_i made hmade
    obtain ⟨postStateHash, -, hmade⟩ := bind_eq_ok.mp hmade
    exact absurd ⟨_, (hashes_of_receipt hmade).1⟩ h

theorem refuse_of_error {e : PyError} (h : (runtime.refuse json adapter preStateHash stamps request
    state status output).1 = .error e) :
    (runtime.refuse json adapter preStateHash stamps request state status output).2 = runtime := by
  unfold refuse at h ⊢
  dsimp only at h ⊢
  split at h
  · rfl
  · cases h

/-- And what is recorded there. -/
theorem refuse_of_hashable {hash : String} (hoperation : request.operation.operationHash json =
    .ok hash) (houtput : (dictOf output).Hashable json) :
    ∃ returned, (runtime.refuse json adapter preStateHash stamps request state status output).1 =
        .ok returned ∧
      json.canonicalSha256 (dictOf output) = .ok returned.receipt.resultHash ∧
      (runtime.refuse json adapter preStateHash stamps request state status output).2.receipts =
        runtime.receipts ++ [returned.receipt] := by
  have hmade : ∃ made, receipt json stamps request
      (authorize request.principalId request.operation request.grants) state preStateHash
      preStateHash output 0 none adapter status = .ok made ∧
      json.canonicalSha256 (dictOf output) = .ok made.resultHash :=
    receipt_of_hashable hoperation houtput
  obtain ⟨made, hmade, hresult⟩ := hmade
  unfold refuse
  dsimp only
  rw [hmade]
  exact ⟨_, rfl, hresult, rfl⟩

/-! ## Executions -/

/-- The execution gets as far as to commit: it is live, its checks pass, a checkpoint is there if one
is due, and the action is to set a key. -/
def Commits (json : PyJson) (runtime : MacroRuntime) (stamps : Stamps) (request : Request) : Prop :=
  ∃ adapter preStateHash identity checkpoint setting,
    runtime.begin json request = .ok (adapter, preStateHash, .enters identity) ∧
    createCheckpoint json adapter stamps request.operation.rollbackClass = .ok checkpoint ∧
    request.mode = .live ∧ InMemoryStateAdapter.setting request.operation = .ok setting

/-- An execution that does not get as far as to commit leaves no trace if it raises.
SOURCE: macro_runtime.py:278-424 -/
theorem untouched_of_not_commits (h : ¬ Commits json runtime stamps request) {e : PyError}
    (hraises : (runtime.execute json stamps request).1 = .error e) :
    Untouched runtime (runtime.execute json stamps request).2 := by
  unfold execute at hraises ⊢
  cases hbegin : runtime.begin json request with
  | error e => exact untouched_self
  | ok found =>
      obtain ⟨adapter, preStateHash, admission⟩ := found
      obtain ⟨hadapter, -, -⟩ := begin_eq_ok hbegin
      rw [hbegin] at hraises
      cases admission with
      | denied =>
          dsimp only at hraises ⊢
          rw [refuse_of_error hraises]
          exact untouched_self
      | alreadyApplied prior =>
          dsimp only at hraises ⊢
          rw [refuse_of_error hraises]
          exact untouched_self
      | enters identity =>
          dsimp only at hraises ⊢
          unfold enter at hraises ⊢
          cases hcheckpoint : createCheckpoint json adapter stamps
              request.operation.rollbackClass with
          | error e => exact untouched_self
          | ok checkpoint =>
              rw [hcheckpoint] at hraises
              dsimp only at hraises ⊢
              have hafter : (perform json adapter request).2 = adapter := by
                apply perform_unchanged
                intro hmode setting hsetting
                exact h ⟨adapter, preStateHash, identity, checkpoint, setting, hbegin, hcheckpoint,
                  hmode, hsetting⟩
              rw [hafter] at hraises ⊢
              have huntouched := untouched_update hadapter checkpoint
              cases hperformed : (perform json adapter request).1 with
              | error e => exact huntouched
              | ok performed =>
                  rw [hperformed] at hraises
                  dsimp only at hraises ⊢
                  rw [settle_of_error hraises]
                  exact huntouched

/-- What is left of an execution that gets as far as to commit.
SOURCE: macro_runtime.py:366-424 -/
theorem execute_of_commits (h : Commits json runtime stamps request) :
    ((∃ hash, request.operation.operationHash json = .ok hash) →
      ∃ returned, (runtime.execute json stamps request).1 = .ok returned) ∧
    ((¬ ∃ hash, request.operation.operationHash json = .ok hash) →
      (∃ e, (runtime.execute json stamps request).1 = .error e) ∧
        ¬ Untouched runtime (runtime.execute json stamps request).2) := by
  obtain ⟨adapter, preStateHash, identity, checkpoint, setting, hbegin, hcheckpoint, hmode,
    hsetting⟩ := h
  obtain ⟨hadapter, hstate, -⟩ := begin_eq_ok hbegin
  have hperform : perform json adapter request = _ := perform_of_setting hmode hsetting
  unfold execute
  rw [hbegin]
  dsimp only
  unfold enter
  rw [hcheckpoint]
  dsimp only
  rw [hperform]
  dsimp only
  constructor
  · rintro ⟨hash, hoperation⟩
    have hinputs := Operation.hashable_inputs hoperation
    obtain ⟨hkey, hvalue⟩ := InMemoryStateAdapter.hashable_setting hinputs hsetting
    obtain ⟨hpredicted, output, houtput, hhashable⟩ :=
      InMemoryStateAdapter.output_of_hashable hstate hkey hvalue
    have hresult : (dictOf (AdapterResult.mk output 1).output).Hashable json := hhashable
    have hafter : (dictOf (adapter.committed setting).state).Hashable json := hpredicted
    rw [houtput]
    obtain ⟨returned, hreturned, -⟩ := settle_of_hashable hoperation hafter hresult
    exact ⟨returned, hreturned⟩
  · intro hunhashed
    have hne : adapter.committed setting ≠ adapter := by
      intro heq
      have hcount : adapter.committedEffects + 1 = adapter.committedEffects :=
        congrArg (·.committedEffects) heq
      omega
    have htouched := not_untouched_update hadapter hne checkpoint
    cases houtput : adapter.output json setting with
    | error e => exact ⟨⟨e, rfl⟩, htouched⟩
    | ok output =>
        show (∃ e, (settle _ _ _ _ _ _ _ _ _ _).1 = _) ∧ ¬ Untouched _ (settle _ _ _ _ _ _ _ _ _ _).2
        obtain ⟨e, he⟩ := settle_of_unhashed hunhashed
        refine ⟨⟨e, he⟩, ?_⟩
        rw [settle_of_error he]
        exact htouched

/-! ## Replays -/

/-- The output that `execute` gives without committing: what is missing where that is denied, and
else what the adapter simulates. -/
def replayOutput (json : PyJson) (runtime : MacroRuntime) (stamps : Stamps) (request : Request) :
    Except PyError PyFields := do
  let (adapter, _, admission) ← runtime.begin json request
  match admission with
  | .denied => return [(pyText "missing_capabilities", texts
      (authorize request.principalId request.operation request.grants).missingCapabilities)]
  | .alreadyApplied prior => return [(pyText "prior_receipt_id", text prior.receiptId)]
  | .enters _ => do
      let _ ← createCheckpoint json adapter stamps request.operation.rollbackClass
      simulation json adapter request.operation

theorem hashable_missing {hash : String} (h : request.operation.operationHash json = .ok hash) :
    (dictOf [(pyText "missing_capabilities", texts
      (authorize request.principalId request.operation request.grants).missingCapabilities)]).Hashable
        json := by
  have hfields := PyValue.hashable_dictOf.mp ⟨hash, h⟩
  have hcapabilities : (texts request.operation.requiredCapabilities).Hashable json :=
    (hfields (pyText "required_capabilities", texts request.operation.requiredCapabilities)
      (by simp)).2
  refine PyValue.hashable_dictOf.mpr fun e he => ?_
  obtain rfl := List.mem_singleton.mp he
  refine ⟨encodable_pyText _, PyValue.hashable_seq.mpr fun item hitem => ?_⟩
  obtain ⟨capability, hcapability, rfl⟩ := List.mem_map.mp hitem
  have hrequired := List.mem_of_mem_filter hcapability
  exact PyValue.hashable_seq.mp hcapabilities _ (List.mem_map.mpr ⟨capability, hrequired, rfl⟩)

theorem hashable_simulation {operation : Operation} {hash : String}
    (hoperation : operation.operationHash json = .ok hash)
    (hstate : (dictOf adapter.state).Hashable json)
    (h : simulation json adapter operation = .ok output) : (dictOf output).Hashable json := by
  obtain ⟨_, -, h⟩ := bind_eq_ok.mp h
  obtain ⟨setting, hsetting, h⟩ := bind_eq_ok.mp h
  obtain ⟨hkey, hvalue⟩ := InMemoryStateAdapter.hashable_setting
    (Operation.hashable_inputs hoperation) hsetting
  obtain ⟨-, output', houtput, hhashable⟩ :=
    InMemoryStateAdapter.output_of_hashable hstate hkey hvalue
  rw [h] at houtput
  rw [Except.ok.inj houtput]
  exact hhashable

/-- A replay that enters the adapter returns what that simulates.
SOURCE: macro_runtime.py:366-424 -/
theorem enter_replay {hash : String} (hmode : request.mode = .replay)
    (hoperation : request.operation.operationHash json = .ok hash)
    (hstate : (dictOf adapter.state).Hashable json) :
    (∃ e, (createCheckpoint json adapter stamps request.operation.rollbackClass >>= fun _ =>
        simulation json adapter request.operation) = .error e ∧
      (runtime.enter json adapter preStateHash stamps request identity).1 = .error e) ∨
    ∃ output returned, (createCheckpoint json adapter stamps
        request.operation.rollbackClass >>= fun _ =>
        simulation json adapter request.operation) = .ok output ∧
      (runtime.enter json adapter preStateHash stamps request identity).1 = .ok returned ∧
      json.canonicalSha256 (dictOf output) = .ok returned.receipt.resultHash ∧
      (runtime.enter json adapter preStateHash stamps request identity).2.receipts =
        runtime.receipts ++ [returned.receipt] := by
  have hafter : (perform json adapter request).2 = adapter := by
    apply perform_unchanged
    intro hlive
    rw [hmode] at hlive
    cases hlive
  unfold enter
  cases hcheckpoint : createCheckpoint json adapter stamps request.operation.rollbackClass with
  | error e => exact .inl ⟨e, rfl, rfl⟩
  | ok checkpoint =>
      have hreceipts : (runtime.hold checkpoint).receipts = runtime.receipts := by
        cases checkpoint <;> rfl
      dsimp only
      rw [hafter, perform_replay hmode]
      cases hsimulation : simulation json adapter request.operation with
      | error e => exact .inl ⟨e, rfl, rfl⟩
      | ok output =>
          have hhashable := hashable_simulation hoperation hstate hsimulation
          have hresult : (dictOf (AdapterResult.mk output 0).output).Hashable json := hhashable
          obtain ⟨returned, hreturned, hhash, hrecorded⟩ :=
            settle_of_hashable hoperation hstate hresult
          refine .inr ⟨output, returned, rfl, hreturned, hhash, ?_⟩
          rw [← hreceipts]
          exact hrecorded

/-- A replay of an operation with a hash returns if and only if it has an output, and the
receipt that it records has the hash of that output.
SOURCE: macro_runtime.py:278-424 -/
theorem execute_replay (runtime : MacroRuntime) (stamps : Stamps) {hash : String}
    (hmode : request.mode = .replay)
    (hoperation : request.operation.operationHash json = .ok hash) :
    (∃ e, replayOutput json runtime stamps request = .error e ∧
      (runtime.execute json stamps request).1 = .error e) ∨
    ∃ output returned, replayOutput json runtime stamps request = .ok output ∧
      (runtime.execute json stamps request).1 = .ok returned ∧
      json.canonicalSha256 (dictOf output) = .ok returned.receipt.resultHash ∧
      (runtime.execute json stamps request).2.receipts = runtime.receipts ++ [returned.receipt] := by
  have hinputs := Operation.hashable_inputs hoperation
  unfold execute replayOutput
  cases hbegin : runtime.begin json request with
  | error e => exact .inl ⟨e, rfl, rfl⟩
  | ok found =>
      obtain ⟨adapter, preStateHash, admission⟩ := found
      obtain ⟨-, hstate, -⟩ := begin_eq_ok hbegin
      cases admission with
      | denied =>
          obtain ⟨returned, hreturned⟩ := refuse_of_hashable hoperation
            (hashable_missing hoperation)
          exact .inr ⟨_, returned, rfl, hreturned⟩
      | alreadyApplied prior =>
          have hprior : (dictOf [(pyText "prior_receipt_id", text prior.receiptId)]).Hashable json := by
            refine PyValue.hashable_dictOf.mpr fun e he => ?_
            obtain rfl := List.mem_singleton.mp he
            exact ⟨encodable_pyText _, hashable_text _⟩
          obtain ⟨returned, hreturned⟩ := refuse_of_hashable hoperation hprior
          exact .inr ⟨_, returned, rfl, hreturned⟩
      | enters identity =>
          show (∃ e, (createCheckpoint json adapter stamps request.operation.rollbackClass >>= fun _ =>
              simulation json adapter request.operation) = .error e ∧
              (runtime.enter json adapter preStateHash stamps request identity).1 = .error e) ∨
            ∃ output returned, (createCheckpoint json adapter stamps
                request.operation.rollbackClass >>= fun _ =>
              simulation json adapter request.operation) = .ok output ∧
              (runtime.enter json adapter preStateHash stamps request identity).1 = .ok returned ∧
              json.canonicalSha256 (dictOf output) = .ok returned.receipt.resultHash ∧
              (runtime.enter json adapter preStateHash stamps request identity).2.receipts =
                runtime.receipts ++ [returned.receipt]
          exact enter_replay hmode hoperation hstate

/-! ## Rollbacks -/

/-- A rollback returns exactly if the restored state has the hash of the checkpoint.
SOURCE: macro_runtime.py:426-460 -/
theorem rollback_of_target {receiptId : String} {original : RuntimeReceipt}
    {checkpoint : Checkpoint} {restored : InMemoryStateAdapter}
    (h : runtime.rollbackTarget json receiptId =
      .ok (original, checkpoint, adapter, preStateHash, restored)) :
    (restored.stateHash json = .ok checkpoint.stateHash →
      ∃ receipt, (runtime.rollback json stamps receiptId).1 = .ok receipt) ∧
    (restored.stateHash json ≠ .ok checkpoint.stateHash →
      (∃ e, (runtime.rollback json stamps receiptId).1 = .error e) ∧
      (runtime.rollback json stamps receiptId).2 =
        (runtime.hold none).update original.adapterId restored) := by
  unfold rollback
  rw [h]
  dsimp only
  constructor
  · intro hhash
    have hreceipt : ∃ receipt, rollbackReceipt json stamps original preStateHash
        checkpoint.stateHash = .ok receipt := by
      have hhashable : (dictOf [(pyText "restored_state_hash",
          text checkpoint.stateHash)]).Hashable json := by
        refine PyValue.hashable_dictOf.mpr fun e he => ?_
        obtain rfl := List.mem_singleton.mp he
        exact ⟨encodable_pyText _, hashable_text _⟩
      obtain ⟨resultHash, hresult⟩ := hhashable
      exact ⟨_, bind_eq_ok.mpr ⟨resultHash, hresult, rfl⟩⟩
    obtain ⟨receipt, hreceipt⟩ := hreceipt
    have hsettled : (restored.stateHash json >>= fun postStateHash => do
        raiseIf (postStateHash ≠ checkpoint.stateHash)
          ⟨.runtimeError, "rollback did not restore checkpoint state", []⟩
        rollbackReceipt json stamps original preStateHash postStateHash) = .ok receipt := by
      refine bind_eq_ok.mpr ⟨_, hhash, bind_eq_ok.mpr ⟨(), ?_, hreceipt⟩⟩
      exact raiseIf_eq_ok.mpr fun hne => hne rfl
    rw [hsettled]
    exact ⟨receipt, rfl⟩
  · intro hhash
    split
    · rename_i e _
      exact ⟨⟨e, rfl⟩, rfl⟩
    · rename_i receipt hsettled
      obtain ⟨postStateHash, hpost, hsettled⟩ := bind_eq_ok.mp hsettled
      obtain ⟨_, hraise, -⟩ := bind_eq_ok.mp hsettled
      have hsame : postStateHash = checkpoint.stateHash := not_not.mp (raiseIf_eq_ok.mp hraise)
      exact absurd (hsame ▸ hpost) hhash

/-- The adapter that a rollback restores is that of the receipt. -/
theorem adapter_of_target {receiptId : String} {original : RuntimeReceipt}
    {checkpoint : Checkpoint} {restored : InMemoryStateAdapter}
    (h : runtime.rollbackTarget json receiptId =
      .ok (original, checkpoint, adapter, preStateHash, restored)) :
    runtime.adapters.get? original.adapterId = some adapter := by
  obtain ⟨found, -, h⟩ := bind_eq_ok.mp h
  split at h
  · cases h
  · split at h
    · cases h
    · obtain ⟨adapter', hadapter, h⟩ := bind_eq_ok.mp h
      obtain ⟨_, _, h⟩ := ok_past_two h
      obtain ⟨rfl, hrest⟩ := Prod.mk.inj (Except.ok.inj h)
      obtain ⟨-, hrest⟩ := Prod.mk.inj hrest
      obtain ⟨rfl, -⟩ := Prod.mk.inj hrest
      exact adapter_found hadapter

/-! ## Calls -/

/-- A call of the runtime. -/
inductive Call
  | execute (stamps : Stamps) (request : Request)
  | rollback (stamps : Stamps) (receiptId : String)
  | replay (stamps : Stamps) (principalId : PyText) (operation : Operation)
      (originalReceiptId : String) (grants : List CapabilityGrant)

/-- The call raises. -/
def Raises (json : PyJson) (runtime : MacroRuntime) : Call → Prop
  | .execute stamps request => ∃ e, (runtime.execute json stamps request).1 = .error e
  | .rollback stamps receiptId => ∃ e, (runtime.rollback json stamps receiptId).1 = .error e
  | .replay stamps principalId operation originalReceiptId grants =>
      ∃ e, (runtime.replay json stamps principalId operation originalReceiptId grants).1 = .error e

/-- The runtime after the call. -/
def after (json : PyJson) (runtime : MacroRuntime) : Call → MacroRuntime
  | .execute stamps request => (runtime.execute json stamps request).2
  | .rollback stamps receiptId => (runtime.rollback json stamps receiptId).2
  | .replay stamps principalId operation originalReceiptId grants =>
      (runtime.replay json stamps principalId operation originalReceiptId grants).2

/-- What an execution that commits sets comes from an operation with a hash; a rollback restores the
state that the hash of its checkpoint is of, or the one that is there; and a replay has the output
that the hash of the result of the original is of. -/
def Sound (json : PyJson) (runtime : MacroRuntime) : Call → Prop
  | .execute stamps request => Commits json runtime stamps request →
      ∃ hash, request.operation.operationHash json = .ok hash
  | .rollback _ receiptId => ∀ original checkpoint adapter preStateHash restored,
      runtime.rollbackTarget json receiptId =
        .ok (original, checkpoint, adapter, preStateHash, restored) →
      restored.stateHash json = .ok checkpoint.stateHash ∨ restored = adapter
  | .replay stamps principalId operation originalReceiptId grants => ∀ original output,
      runtime.replayOriginal json operation originalReceiptId = .ok original →
      replayOutput json runtime stamps (replayRequest principalId operation original grants) =
        .ok output →
      json.canonicalSha256 (dictOf output) = .ok original.resultHash

theorem execute_traceless_iff (stamps : Stamps) (request : Request) :
    (Raises json runtime (.execute stamps request) →
      Untouched runtime (runtime.after json (.execute stamps request))) ↔
    Sound json runtime (.execute stamps request) := by
  constructor
  · intro h hcommits
    by_contra hunhashed
    obtain ⟨hraises, htouched⟩ := (execute_of_commits hcommits).2 hunhashed
    exact htouched (h hraises)
  · rintro h ⟨e, he⟩
    by_cases hcommits : Commits json runtime stamps request
    · obtain ⟨returned, hreturned⟩ := (execute_of_commits hcommits).1 (h hcommits)
      rw [hreturned] at he
      cases he
    · exact untouched_of_not_commits hcommits he

/-- The case of a rollback. -/
theorem rollback_traceless_iff (stamps : Stamps) (receiptId : String) :
    (Raises json runtime (.rollback stamps receiptId) →
      Untouched runtime (runtime.after json (.rollback stamps receiptId))) ↔
    Sound json runtime (.rollback stamps receiptId) := by
  constructor
  · intro h original checkpoint adapter preStateHash restored htarget
    by_cases hhash : restored.stateHash json = .ok checkpoint.stateHash
    · exact .inl hhash
    · obtain ⟨hraises, hafter⟩ := (rollback_of_target htarget).2 hhash
      right
      by_contra hne
      have huntouched : Untouched runtime (runtime.rollback json stamps receiptId).2 := h hraises
      rw [hafter] at huntouched
      exact not_untouched_update (adapter_of_target htarget) hne none huntouched
  · rintro h ⟨e, he⟩
    show Untouched runtime (runtime.rollback json stamps receiptId).2
    cases htarget : runtime.rollbackTarget json receiptId with
    | error e' =>
        unfold rollback
        rw [htarget]
        exact untouched_self
    | ok target =>
        obtain ⟨original, checkpoint, adapter, preStateHash, restored⟩ := target
        by_cases hhash : restored.stateHash json = .ok checkpoint.stateHash
        · obtain ⟨receipt, hreceipt⟩ := (rollback_of_target htarget).1 hhash
          rw [hreceipt] at he
          cases he
        · have hsame := (h _ _ _ _ _ htarget).resolve_left hhash
          rw [((rollback_of_target htarget).2 hhash).2, hsame]
          exact untouched_update (adapter_of_target htarget) none

/-- The case of a replay.
SOURCE: macro_runtime.py:462-482 -/
theorem replay_traceless_iff (stamps : Stamps) (principalId : PyText) (operation : Operation)
    (originalReceiptId : String) (grants : List CapabilityGrant) :
    (Raises json runtime (.replay stamps principalId operation originalReceiptId grants) →
      Untouched runtime
        (runtime.after json (.replay stamps principalId operation originalReceiptId grants))) ↔
    Sound json runtime (.replay stamps principalId operation originalReceiptId grants) := by
  unfold Raises after Sound
  dsimp only
  unfold replay
  cases horiginal : runtime.replayOriginal json operation originalReceiptId with
  | error e =>
      refine ⟨fun _ original output h => ?_, fun _ _ => untouched_self⟩
      cases h
  | ok original =>
      dsimp only
      have hoperation : ∃ hash, operation.operationHash json = .ok hash := by
        obtain ⟨_, -, h⟩ := bind_eq_ok.mp horiginal
        obtain ⟨hash, hhash, -⟩ := bind_eq_ok.mp h
        exact ⟨hash, hhash⟩
      obtain ⟨hash, hoperation⟩ := hoperation
      have hmode : (replayRequest principalId operation original grants).mode = .replay := rfl
      have huncommitted : ¬ Commits json runtime stamps
          (replayRequest principalId operation original grants) := by
        rintro ⟨_, _, _, _, _, -, -, hlive, -⟩
        rw [hmode] at hlive
        cases hlive
      rcases execute_replay runtime stamps hmode hoperation with
        ⟨e, houtput, hexecute⟩ | ⟨output, returned, houtput, hexecute, hhash, hreceipts⟩
      · constructor
        · intro _ original' output' h h'
          rw [← Except.ok.inj h, houtput] at h'
          cases h'
        · intro _ _
          exact untouched_of_not_commits huncommitted hexecute
      · rw [hexecute]
        constructor
        · intro h original' output' horiginal' houtput'
          obtain rfl := Except.ok.inj horiginal'
          rw [houtput] at houtput'
          rw [← Except.ok.inj houtput', hhash]
          by_contra hne
          have hmismatch : returned.receipt.resultHash ≠ original.resultHash := by
            intro heq
            exact hne (congrArg Except.ok heq)
          have hraises : ∃ e, (raiseIf (returned.receipt.resultHash ≠ original.resultHash)
              ⟨.runtimeError, "deterministic replay result hash mismatch", []⟩ >>= fun _ =>
                Except.ok returned) = .error e := by
            rw [raiseIf, if_pos hmismatch]
            exact ⟨_, rfl⟩
          have hsame := (h hraises).receipts
          rw [hreceipts] at hsame
          have hlength := congrArg List.length hsame
          rw [List.length_append, List.length_singleton] at hlength
          omega
        · rintro h ⟨e, he⟩
          have hmatch := h original output rfl houtput
          rw [hhash] at hmatch
          have hreturns : (raiseIf (returned.receipt.resultHash ≠ original.resultHash)
              ⟨.runtimeError, "deterministic replay result hash mismatch", []⟩ >>= fun _ =>
                Except.ok returned) = .ok returned := by
            refine bind_eq_ok.mpr ⟨(), raiseIf_eq_ok.mpr fun hne => ?_, rfl⟩
            exact hne (Except.ok.inj hmatch)
          have herror : Except.error e = Except.ok returned := he.symm.trans hreturns
          cases herror

/-- A printer of values, with one digest for all. -/
def plainJson : PyJson where
  sha256 _ := "digest"
  sortError _ := ⟨.typeError, "'<' not supported between instances of 'int' and 'str'", []⟩
  encodeError _ := ⟨.unicodeEncodeError, "surrogates not allowed", []⟩

/-- The empty set. -/
def emptySet : PyValue :=
  .foreign ⟨.typeError, "Object of type set is not JSON serializable", []⟩ false []

/-- Set `alpha` to the empty set. -/
def setAlphaToSet : Operation where
  operationId := pyText "state.set"
  operationVersion := pyText "0.1.0"
  adapterId := pyText "memory.state"
  action := pyText "set"
  inputs := dictOf [(pyText "key", text "alpha"), (pyText "value", emptySet)]

/-- A runtime with one adapter. -/
def oneAdapter : MacroRuntime := ({} : MacroRuntime).update (pyText "memory.state") {}

end MacroRuntime

end PyMacro

end PhiOS
