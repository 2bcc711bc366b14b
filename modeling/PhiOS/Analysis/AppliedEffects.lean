import Mathlib.Logic.Function.Iterate
import PhiOS.Analysis.JsonCodes
import PhiOS.Model.MacroRuntime

/-!
# Effects that are applied

A `History` is what the state of an adapter stands for: a state to begin with and the effects that
live executions have had since. A rollback puts the history of a checkpoint in the place of the current
one, and so takes away the effects that are not in it. The map of committed operations is not told:
what it names is still there only as long as each rollback keeps it, `already_applied_reflected`.
-/

set_option autoImplicit false

namespace PhiOS

open KeyOrder

/-- What one live execution has set. -/
structure AppliedEffect where
  receipt : RuntimeReceipt
  key : String
  value : Json

/-- A state to begin with, and the effects since then, the oldest first. -/
structure History where
  base : Dict String Json
  effects : List AppliedEffect

namespace History

/-- The state after all effects. -/
def state (history : History) : Dict String Json :=
  history.effects.foldl (fun state effect => state.set effect.key effect.value) history.base

/-- One more effect. -/
def append (history : History) (effect : AppliedEffect) : History :=
  { history with effects := history.effects ++ [effect] }

@[simp] theorem effects_append (history : History) (effect : AppliedEffect) :
    (history.append effect).effects = history.effects ++ [effect] := rfl

theorem state_append (history : History) (effect : AppliedEffect) :
    (history.append effect).state = history.state.set effect.key effect.value := by
  unfold state append
  rw [List.foldl_append]
  rfl

theorem get?_state {history : History} {earlier later : List AppliedEffect} {effect : AppliedEffect}
    (h : history.effects = earlier ++ effect :: later) (hlater : ∀ e ∈ later, e.key ≠ effect.key) :
    history.state.get? effect.key = some effect.value := by
  unfold state
  rw [h, List.foldl_append, List.foldl_cons]
  generalize earlier.foldl (fun state e => state.set e.key e.value) history.base = before
  clear h
  induction later using List.reverseRecOn with
  | nil => rw [List.foldl_nil, Dict.get?_set, if_pos rfl]
  | append_singleton later e ih =>
      have hne : effect.key ≠ e.key := (hlater e (by simp)).symm
      rw [List.foldl_append, List.foldl_cons, List.foldl_nil, Dict.get?_set, if_neg hne]
      exact ih fun e he => hlater e (List.mem_append_left _ he)

/-- The state of an adapter is that of a history, up to how often its values have been written and
read again. -/
def ShownBy (history : History) (state : Dict String Json) : Prop :=
  ∀ key, ∃ n, state.get? key = (history.state.get? key).map Json.canonical^[n]

theorem shownBy_self (state : Dict String Json) : (⟨state, []⟩ : History).ShownBy state := by
  intro key
  refine ⟨0, ?_⟩
  rw [Function.iterate_zero, Option.map_id]
  rfl

theorem ShownBy.reread {history : History} {state : Dict String Json} (h : history.ShownBy state) :
    history.ShownBy (reread state) := by
  intro key
  obtain ⟨n, hn⟩ := h key
  refine ⟨n + 1, ?_⟩
  have hget : (PhiOS.reread state).get? key = (state.get? key).map Json.canonical :=
    Json.lookup_canonicalFields key state.entries
  rw [hget, hn, Option.map_map, Function.iterate_succ']

theorem ShownBy.append {history : History} {state : Dict String Json} (h : history.ShownBy state)
    (effect : AppliedEffect) :
    (history.append effect).ShownBy (state.set effect.key effect.value) := by
  intro key
  rw [state_append, Dict.get?_set, Dict.get?_set]
  by_cases hkey : key = effect.key
  · rw [if_pos hkey, if_pos hkey]
    exact ⟨0, rfl⟩
  · rw [if_neg hkey, if_neg hkey]
    exact h key

end History

/-- The history of each adapter, and the one at each checkpoint. -/
structure Histories where
  current : String → History
  saved : String → History

/-! ## Calls -/

/-- A call of the runtime. -/
inductive RuntimeCall
  | execute (stamps : Stamps) (request : MacroRuntime.Request)
  | rollback (stamps : Stamps) (receiptId : String)
  | replay (stamps : Stamps) (principalId : String) (operation : Operation)
      (originalReceiptId : String) (grants : List CapabilityGrant)

namespace MacroRuntime

variable (sha256 : Json → String)

/-- The runtime after a call. -/
def after (runtime : MacroRuntime) : RuntimeCall → MacroRuntime
  | .execute stamps request => (runtime.execute sha256 stamps request).2
  | .rollback stamps receiptId => (runtime.rollback sha256 stamps receiptId).2
  | .replay stamps principalId operation originalReceiptId grants =>
      (runtime.replay sha256 stamps principalId operation originalReceiptId grants).2

/-- The histories after `execute`: a checkpoint saves the history, a live execution extends it. -/
def executed (histories : Histories) (runtime : MacroRuntime) (stamps : Stamps) (request : Request) :
    Histories :=
  match runtime.adapter request.operation.adapterId, runtime.admission sha256 request with
  | .ok _, .ok (.enters _) =>
      let here := histories.current request.operation.adapterId
      { saved := if request.operation.rollbackClass = .reversible then
          Function.update histories.saved stamps.checkpointId here else histories.saved
        current := match request.mode, InMemoryStateAdapter.setting request.operation,
            (runtime.execute sha256 stamps request).1 with
          | .live, .ok (key, value), .ok result =>
              Function.update histories.current request.operation.adapterId
                (here.append ⟨result.receipt, key, value⟩)
          | _, _, _ => histories.current }
  | _, _ => histories

/-- The histories after a call: a rollback goes back to the history of its checkpoint, and a replay has
no effect. -/
def historiesAfter (histories : Histories) (runtime : MacroRuntime) : RuntimeCall → Histories
  | .execute stamps request => executed sha256 histories runtime stamps request
  | .rollback _ receiptId =>
      match runtime.rollbackTarget receiptId with
      | .ok (original, checkpoint, _) =>
          { histories with
            current := Function.update histories.current original.adapterId
              (histories.saved checkpoint.checkpointId) }
      | .error _ => histories
  | .replay stamps principalId operation originalReceiptId grants =>
      match runtime.findReceipt originalReceiptId with
      | .ok original =>
          if operation.operationHash sha256 ≠ original.operationHash then histories
          else executed sha256 histories runtime stamps
            { principalId, operation, grants, mode := .replay
              parentReceiptId := some original.receiptId }
      | .error _ => histories

/-- A runtime with adapters that has not been called. -/
def Fresh (runtime : MacroRuntime) : Prop :=
  runtime.receipts = [] ∧ runtime.committedIdempotency = .empty ∧ runtime.checkpoints = .empty

/-- The histories of a runtime that has not been called. -/
def startHistories (runtime : MacroRuntime) : Histories where
  current adapterId := ⟨((runtime.adapters.get? adapterId).map (·.state)).getD .empty, []⟩
  saved _ := ⟨.empty, []⟩

/-- The calls of a run, each of which is admitted. -/
inductive Run (admits : MacroRuntime → Histories → RuntimeCall → Prop) (start : MacroRuntime) :
    MacroRuntime → Histories → Prop
  | start : Run admits start start start.startHistories
  | call {runtime : MacroRuntime} {histories : Histories} (before : Run admits start runtime histories)
      {call : RuntimeCall} (h : admits runtime histories call) :
      Run admits start (runtime.after sha256 call) (historiesAfter sha256 histories runtime call)

/-- A call keeps what is committed: a rollback restores a checkpoint whose history has the effects of all
receipts that are committed for its adapter, and an operation that is committed is executed at the
adapter where it was. -/
def Keeps (runtime : MacroRuntime) (histories : Histories) : RuntimeCall → Prop
  | .execute _ request => ∀ prior, runtime.admission sha256 request = .ok (.alreadyApplied prior) →
      prior.adapterId = request.operation.adapterId
  | .rollback _ receiptId => ∀ original checkpoint adapter,
      runtime.rollbackTarget receiptId = .ok (original, checkpoint, adapter) →
      ∀ identity prior, runtime.committedIdempotency.get? identity = some prior →
        prior.adapterId = original.adapterId →
        ∃ effect ∈ (histories.saved checkpoint.checkpointId).effects, effect.receipt = prior
  | .replay _ _ _ _ _ => True

/-- The answer to an operation that is already applied is right: it names a receipt whose effect is in
the history of the adapter and is on the key of the operation, and the state has the value where no
later effect is on that key. -/
def Reflected (runtime : MacroRuntime) (histories : Histories) (operation : Operation)
    (result : ExecutionResult) : Prop :=
  ∃ effect ∈ (histories.current operation.adapterId).effects,
    result.output = [("prior_receipt_id", .str effect.receipt.receiptId)] ∧
    (∀ fields, operation.inputs = .obj fields → fields.lookup "key" = some (.str effect.key)) ∧
    ∃ adapter, runtime.adapters.get? operation.adapterId = some adapter ∧
      ∀ earlier later, (histories.current operation.adapterId).effects = earlier ++ effect :: later →
        (∀ e ∈ later, e.key ≠ effect.key) →
        ∃ n, adapter.state.get? effect.key = some (Json.canonical^[n] effect.value)

variable {sha256}

/-! ## What `execute` does -/

/-- Only a live execution enters the adapter.
SOURCE: macro_runtime.py:365-380, 585-608 -/
theorem perform_cases {adapter after : InMemoryStateAdapter} {request : Request}
    {result : AdapterResult} {status : RuntimeResultStatus}
    (h : perform sha256 adapter request = .ok (result, after, status)) :
    request.mode ≠ .live ∧ after = adapter ∨
      request.mode = .live ∧ ∃ key value,
        InMemoryStateAdapter.setting request.operation = .ok (key, value) ∧
        after.adapterId = adapter.adapterId ∧ after.state = adapter.state.set key value := by
  have hsimulate : ∀ {result : AdapterResult} {after : InMemoryStateAdapter},
      adapter.simulate sha256 request.operation = .ok (result, after) → after = adapter := by
    intro result after hresult
    obtain ⟨⟨output, adapter'⟩, happly, hresult⟩ := bind_eq_ok.mp hresult
    obtain ⟨⟨key, value⟩, -, happly⟩ := bind_eq_ok.mp happly
    rw [← (Prod.mk.inj (Except.ok.inj hresult)).2, ← (Prod.mk.inj (Except.ok.inj happly)).2]
    rfl
  unfold perform at h
  cases hmode : request.mode with
  | dryRun =>
      rw [hmode] at h
      obtain ⟨⟨result', after'⟩, hresult, h⟩ := bind_eq_ok.mp h
      obtain ⟨_, -, h⟩ := bind_eq_ok.mp h
      obtain ⟨-, rfl, -⟩ := by simpa [pure, Except.pure] using h
      exact Or.inl ⟨by decide, hsimulate hresult⟩
  | replay =>
      rw [hmode] at h
      obtain ⟨_, -, h⟩ := bind_eq_ok.mp h
      obtain ⟨⟨result', after'⟩, hresult, h⟩ := bind_eq_ok.mp h
      obtain ⟨_, -, h⟩ := bind_eq_ok.mp h
      obtain ⟨-, rfl, -⟩ := by simpa [pure, Except.pure] using h
      exact Or.inl ⟨by decide, hsimulate hresult⟩
  | live =>
      rw [hmode] at h
      obtain ⟨⟨result', after'⟩, hresult, h⟩ := bind_eq_ok.mp h
      obtain ⟨-, rfl, -⟩ := by simpa [pure, Except.pure] using h
      obtain ⟨⟨output, adapter'⟩, happly, hresult⟩ := bind_eq_ok.mp hresult
      obtain ⟨⟨key, value⟩, hsetting, happly⟩ := bind_eq_ok.mp happly
      refine Or.inr ⟨rfl, key, value, hsetting, ?_⟩
      rw [← (Prod.mk.inj (Except.ok.inj hresult)).2, ← (Prod.mk.inj (Except.ok.inj happly)).2]
      exact ⟨rfl, rfl⟩

/-- The adapter does not answer that an operation is already applied. -/
theorem status_of_perform {adapter after : InMemoryStateAdapter} {request : Request}
    {result : AdapterResult} {status : RuntimeResultStatus}
    (h : perform sha256 adapter request = .ok (result, after, status)) :
    status ≠ .alreadyApplied := by
  unfold perform at h
  split at h
  · obtain ⟨⟨result', after'⟩, -, h⟩ := bind_eq_ok.mp h
    obtain ⟨_, -, h⟩ := bind_eq_ok.mp h
    cases h
    decide
  · obtain ⟨_, -, h⟩ := bind_eq_ok.mp h
    obtain ⟨⟨result', after'⟩, -, h⟩ := bind_eq_ok.mp h
    obtain ⟨_, -, h⟩ := bind_eq_ok.mp h
    cases h
    decide
  · obtain ⟨⟨result', after'⟩, -, h⟩ := bind_eq_ok.mp h
    cases h
    decide

theorem adapter_eq_ok {runtime : MacroRuntime} {id : String} {adapter : InMemoryStateAdapter} :
    runtime.adapter id = .ok adapter ↔ runtime.adapters.get? id = some adapter := by
  unfold MacroRuntime.adapter
  cases runtime.adapters.get? id <;> simp

/-- The checkpoints after `execute`, with their histories: there may be a new one of the state. -/
def Checkpointed (runtime : MacroRuntime) (histories : Histories) (request : Request)
    (runtime' : MacroRuntime) (histories' : Histories) : Prop :=
  runtime'.checkpoints = runtime.checkpoints ∧ histories'.saved = histories.saved ∨
    ∃ adapter checkpoint, runtime.adapters.get? request.operation.adapterId = some adapter ∧
      checkpoint.snapshot = adapter.snapshot ∧
      runtime'.checkpoints = runtime.checkpoints.set checkpoint.checkpointId checkpoint ∧
      histories'.saved = Function.update histories.saved checkpoint.checkpointId
        (histories.current request.operation.adapterId)

/-- The adapters and the committed operations after `execute`, with the histories: there may be a new
effect, whose receipt is committed where the operation is idempotent. -/
def Effected (sha256 : Json → String) (runtime : MacroRuntime) (histories : Histories) (request : Request)
    (runtime' : MacroRuntime) (histories' : Histories) : Prop :=
  (∀ id, runtime'.adapters.get? id = runtime.adapters.get? id) ∧
      runtime'.committedIdempotency = runtime.committedIdempotency ∧
      histories'.current = histories.current ∨
    ∃ adapter after effect, runtime.adapters.get? request.operation.adapterId = some adapter ∧
      InMemoryStateAdapter.setting request.operation = .ok (effect.key, effect.value) ∧
      effect.receipt.inputHash = request.operation.inputHash sha256 ∧
      effect.receipt.adapterId = request.operation.adapterId ∧
      after.state = adapter.state.set effect.key effect.value ∧
      (∀ id, runtime'.adapters.get? id =
        if id = request.operation.adapterId then some after else runtime.adapters.get? id) ∧
      histories'.current = Function.update histories.current request.operation.adapterId
        ((histories.current request.operation.adapterId).append effect) ∧
      (runtime'.committedIdempotency = runtime.committedIdempotency ∨ ∃ identity,
        idempotencyIdentity sha256 request.operation = .ok (some identity) ∧
        runtime'.committedIdempotency = runtime.committedIdempotency.set identity effect.receipt)

theorem identity_of_admission {runtime : MacroRuntime} {request : Request} {identity : Option String}
    (h : runtime.admission sha256 request = .ok (.enters identity)) :
    idempotencyIdentity sha256 request.operation = .ok identity := by
  unfold admission at h
  obtain ⟨_, -, h⟩ := bind_eq_ok.mp h
  split at h
  · cases h
  · obtain ⟨identity', hidentity, h⟩ := bind_eq_ok.mp h
    split at h
    · cases h
    · cases h
      exact hidentity

/-- What `execute` does from the checkpoint on.
SOURCE: macro_runtime.py:359-405 -/
theorem enter_cases {runtime : MacroRuntime} {histories : Histories} {stamps : Stamps}
    {request : Request} {adapter : InMemoryStateAdapter} {identity : Option String}
    (hadapter : runtime.adapter request.operation.adapterId = .ok adapter)
    (hadmission : runtime.admission sha256 request = .ok (.enters identity)) :
    Checkpointed runtime histories request (runtime.execute sha256 stamps request).2
        (executed sha256 histories runtime stamps request) ∧
      Effected sha256 runtime histories request (runtime.execute sha256 stamps request).2
        (executed sha256 histories runtime stamps request) := by
  have hget := adapter_eq_ok.mp hadapter
  have hid := runtime.registered hget
  have hexecute : runtime.execute sha256 stamps request =
      runtime.enter sha256 adapter stamps request identity := by
    unfold execute
    rw [hadapter, hadmission]
  unfold executed
  rw [hadapter, hadmission, hexecute]
  dsimp only
  constructor
  · unfold enter createCheckpoint
    by_cases hreversible : request.operation.rollbackClass = .reversible
    · rw [if_neg (not_not.mpr hreversible), if_pos hreversible]
      refine Or.inr ⟨adapter, ⟨stamps.checkpointId, stamps.executionId, adapter.stateHash sha256,
        adapter.snapshot⟩, hget, rfl, ?_, rfl⟩
      dsimp only
      cases perform sha256 adapter request with
      | error e => rfl
      | ok performed =>
          dsimp only
          split <;> rfl
    · rw [if_pos hreversible, if_neg hreversible]
      refine Or.inl ⟨?_, rfl⟩
      dsimp only
      cases perform sha256 adapter request with
      | error e => rfl
      | ok performed =>
          dsimp only
          split <;> rfl
  · unfold enter
    generalize hcheckpoint : runtime.createCheckpoint sha256 adapter stamps
      request.operation.rollbackClass = created
    have hcreated : created.2.adapters = runtime.adapters ∧
        created.2.committedIdempotency = runtime.committedIdempotency := by
      rw [← hcheckpoint]
      unfold createCheckpoint
      split <;> exact ⟨rfl, rfl⟩
    obtain ⟨checkpoint, runtime'⟩ := created
    obtain ⟨hadapters, hcommitted⟩ := hcreated
    dsimp only at hadapters hcommitted ⊢
    cases hperform : perform sha256 adapter request with
    | error e =>
        refine Or.inl ⟨?_, hcommitted, ?_⟩
        · intro id
          exact congrArg (·.get? id) hadapters
        · dsimp only
          split <;> simp_all
    | ok performed =>
        obtain ⟨result, after, status⟩ := performed
        dsimp only
        rcases perform_cases hperform with ⟨hmode, rfl⟩ | ⟨hmode, key, value, hsetting, hsameId, hstate⟩
        · rw [if_neg hmode]
          refine Or.inl ⟨?_, hcommitted, ?_⟩
          · intro id
            refine (Dict.get?_set _ _ _ _).trans ?_
            rw [hadapters]
            by_cases hsame : id = after.adapterId
            · rw [if_pos hsame, hsame, hid, hget]
            · rw [if_neg hsame]
          · split <;> simp_all
        · rw [if_pos hmode, hmode, hsetting]
          refine Or.inr ⟨adapter, after, ⟨_, key, value⟩, hget, hsetting, ?_, ?_, hstate, ?_, rfl, ?_⟩
          · rfl
          · exact hsameId.trans hid
          · intro id
            have hupdated : (runtime'.adapters.set after.adapterId after).get? id =
                if id = request.operation.adapterId then some after
                else runtime.adapters.get? id := by
              rw [Dict.get?_set, hadapters, hsameId, hid]
            cases identity <;> exact hupdated
          · cases identity with
            | none => exact Or.inl hcommitted
            | some identity =>
                refine Or.inr ⟨identity, identity_of_admission hadmission, ?_⟩
                rw [← hcommitted]
                rfl

/-- What `execute` does to the parts of the runtime.
SOURCE: macro_runtime.py:278-405 -/
theorem execute_cases (runtime : MacroRuntime) (histories : Histories) (stamps : Stamps)
    (request : Request) :
    Checkpointed runtime histories request (runtime.execute sha256 stamps request).2
        (executed sha256 histories runtime stamps request) ∧
      Effected sha256 runtime histories request (runtime.execute sha256 stamps request).2
        (executed sha256 histories runtime stamps request) := by
  have hsame : ∀ {runtime' : MacroRuntime}, runtime'.adapters = runtime.adapters →
      runtime'.checkpoints = runtime.checkpoints →
      runtime'.committedIdempotency = runtime.committedIdempotency →
      Checkpointed runtime histories request runtime' histories ∧
        Effected sha256 runtime histories request runtime' histories := by
    intro runtime' hadapters hcheckpoints hcommitted
    refine ⟨Or.inl ⟨hcheckpoints, rfl⟩, Or.inl ⟨?_, hcommitted, rfl⟩⟩
    intro id
    rw [hadapters]
  cases hadapter : runtime.adapter request.operation.adapterId with
  | error e =>
      unfold execute executed
      rw [hadapter]
      exact hsame rfl rfl rfl
  | ok adapter =>
      cases hadmission : runtime.admission sha256 request with
      | error e =>
          unfold execute executed
          rw [hadapter, hadmission]
          exact hsame rfl rfl rfl
      | ok admission =>
          cases admission with
          | denied =>
              unfold execute executed
              rw [hadapter, hadmission]
              exact hsame rfl rfl rfl
          | alreadyApplied prior =>
              unfold execute executed
              rw [hadapter, hadmission]
              exact hsame rfl rfl rfl
          | enters identity =>
              exact enter_cases hadapter hadmission

/-! ## Every run -/

/-- The effect is that of an operation with the inputs of its receipt. -/
def Made (sha256 : Json → String) (effect : AppliedEffect) : Prop :=
  ∃ operation, InMemoryStateAdapter.setting operation = .ok (effect.key, effect.value) ∧
    effect.receipt.inputHash = operation.inputHash sha256

/-- What holds after any number of calls: the states are those of the histories, the effects are those
of operations, and what is committed is the receipt of an operation with that identity. -/
structure Tracks (sha256 : Json → String) (runtime : MacroRuntime) (histories : Histories) : Prop where
  states : ∀ {id adapter}, runtime.adapters.get? id = some adapter →
    (histories.current id).ShownBy adapter.state
  snapshots : ∀ {id checkpoint}, runtime.checkpoints.get? id = some checkpoint →
    checkpoint.checkpointId = id ∧ (histories.saved id).ShownBy checkpoint.snapshot
  made : ∀ id, (∀ effect ∈ (histories.current id).effects, Made sha256 effect) ∧
    ∀ effect ∈ (histories.saved id).effects, Made sha256 effect
  commits : ∀ {identity prior}, runtime.committedIdempotency.get? identity = some prior →
    ∃ operation, idempotencyIdentity sha256 operation = .ok (some identity) ∧
      prior.inputHash = operation.inputHash sha256

/-- The effect of every committed receipt is in the history of its adapter. -/
def Kept (runtime : MacroRuntime) (histories : Histories) : Prop :=
  ∀ identity prior, runtime.committedIdempotency.get? identity = some prior →
    ∃ effect ∈ (histories.current prior.adapterId).effects, effect.receipt = prior

/-- `execute` preserves what is tracked. -/
theorem Tracks.execute {runtime runtime' : MacroRuntime} {histories histories' : Histories}
    {request : Request} (htracks : Tracks sha256 runtime histories)
    (hcheckpointed : Checkpointed runtime histories request runtime' histories')
    (heffected : Effected sha256 runtime histories request runtime' histories') :
    Tracks sha256 runtime' histories' := by
  have hsaved : (∀ {id checkpoint}, runtime'.checkpoints.get? id = some checkpoint →
      checkpoint.checkpointId = id ∧ (histories'.saved id).ShownBy checkpoint.snapshot) ∧
      ∀ id, ∀ effect ∈ (histories'.saved id).effects, Made sha256 effect := by
    rcases hcheckpointed with ⟨hcheckpoints, hsaved⟩ |
      ⟨adapter, checkpoint, hget, hsnapshot, hcheckpoints, hsaved⟩
    · rw [hcheckpoints, hsaved]
      exact ⟨htracks.snapshots, fun id => (htracks.made id).2⟩
    · rw [hcheckpoints, hsaved]
      constructor
      · intro id checkpoint' hget'
        rw [Dict.get?_set] at hget'
        by_cases hid : id = checkpoint.checkpointId
        · rw [if_pos hid] at hget'
          rw [← Option.some.inj hget', hid, Function.update_self, hsnapshot]
          exact ⟨rfl, (htracks.states hget).reread⟩
        · rw [if_neg hid] at hget'
          rw [Function.update_of_ne hid]
          exact htracks.snapshots hget'
      · intro id
        by_cases hid : id = checkpoint.checkpointId
        · rw [hid, Function.update_self]
          exact (htracks.made _).1
        · rw [Function.update_of_ne hid]
          exact (htracks.made id).2
  rcases heffected with ⟨hadapters, hcommitted, hcurrent⟩ |
    ⟨adapter, after, effect, hget, hsetting, hinput, -, hstate, hadapters, hcurrent, hcommitted⟩
  · refine ⟨?_, hsaved.1, ?_, ?_⟩
    · intro id adapter hget
      rw [hadapters] at hget
      rw [hcurrent]
      exact htracks.states hget
    · intro id
      rw [hcurrent]
      exact ⟨(htracks.made id).1, hsaved.2 id⟩
    · rw [hcommitted]
      exact htracks.commits
  · refine ⟨?_, hsaved.1, ?_, ?_⟩
    · intro id adapter' hget'
      rw [hadapters] at hget'
      rw [hcurrent]
      by_cases hid : id = request.operation.adapterId
      · rw [if_pos hid] at hget'
        rw [← Option.some.inj hget', hid, Function.update_self, hstate]
        exact (htracks.states hget).append effect
      · rw [if_neg hid] at hget'
        rw [Function.update_of_ne hid]
        exact htracks.states hget'
    · intro id
      refine ⟨?_, hsaved.2 id⟩
      intro effect' heffect'
      rw [hcurrent] at heffect'
      by_cases hid : id = request.operation.adapterId
      · rw [hid, Function.update_self, History.effects_append] at heffect'
        rcases List.mem_append.mp heffect' with hold | hnew
        · exact (htracks.made _).1 effect' hold
        · rw [List.mem_singleton.mp hnew]
          exact ⟨request.operation, hsetting, hinput⟩
      · rw [Function.update_of_ne hid] at heffect'
        exact (htracks.made id).1 effect' heffect'
    · intro identity prior hprior
      rcases hcommitted with hcommitted | ⟨identity', hidentity, hcommitted⟩
      · rw [hcommitted] at hprior
        exact htracks.commits hprior
      · rw [hcommitted, Dict.get?_set] at hprior
        by_cases hsame : identity = identity'
        · rw [if_pos hsame] at hprior
          rw [← Option.some.inj hprior, hsame]
          exact ⟨request.operation, hidentity, hinput⟩
        · rw [if_neg hsame] at hprior
          exact htracks.commits hprior

/-- `execute` keeps what is committed. -/
theorem Kept.execute {runtime runtime' : MacroRuntime} {histories histories' : Histories}
    {request : Request} (hkept : Kept runtime histories)
    (heffected : Effected sha256 runtime histories request runtime' histories') :
    Kept runtime' histories' := by
  intro identity prior hprior
  rcases heffected with ⟨-, hcommitted, hcurrent⟩ |
    ⟨-, -, effect, -, -, -, hadapter, -, -, hcurrent, hcommitted⟩
  · rw [hcommitted] at hprior
    rw [hcurrent]
    exact hkept identity prior hprior
  · have hold : runtime.committedIdempotency.get? identity = some prior →
        ∃ e ∈ (histories'.current prior.adapterId).effects, e.receipt = prior := by
      intro hprior
      obtain ⟨e, he, hreceipt⟩ := hkept identity prior hprior
      refine ⟨e, ?_, hreceipt⟩
      rw [hcurrent]
      by_cases hid : prior.adapterId = request.operation.adapterId
      · rw [hid] at he ⊢
        rw [Function.update_self, History.effects_append]
        exact List.mem_append_left _ he
      · rw [Function.update_of_ne hid]
        exact he
    rcases hcommitted with hcommitted | ⟨identity', -, hcommitted⟩
    · rw [hcommitted] at hprior
      exact hold hprior
    · rw [hcommitted, Dict.get?_set] at hprior
      by_cases hsame : identity = identity'
      · rw [if_pos hsame] at hprior
        refine ⟨effect, ?_, Option.some.inj hprior⟩
        rw [← Option.some.inj hprior, hadapter, hcurrent, Function.update_self,
          History.effects_append]
        exact List.mem_append_right _ (List.mem_singleton_self effect)
      · rw [if_neg hsame] at hprior
        exact hold hprior

/-- What `rollback` works on is in the runtime. -/
theorem rollbackTarget_eq_ok {runtime : MacroRuntime} {receiptId : String}
    {original : RuntimeReceipt} {checkpoint : Checkpoint} {adapter : InMemoryStateAdapter}
    (h : runtime.rollbackTarget receiptId = .ok (original, checkpoint, adapter)) :
    (∃ id, runtime.checkpoints.get? id = some checkpoint) ∧
      runtime.adapters.get? original.adapterId = some adapter := by
  unfold rollbackTarget at h
  obtain ⟨original', -, h⟩ := bind_eq_ok.mp h
  cases hid : original'.checkpointId with
  | none =>
      rw [hid] at h
      cases h
  | some id =>
      rw [hid] at h
      dsimp only at h
      cases hcheckpoint : runtime.checkpoints.get? id with
      | none =>
          rw [hcheckpoint] at h
          cases h
      | some checkpoint' =>
          rw [hcheckpoint] at h
          obtain ⟨adapter', hadapter, h⟩ := bind_eq_ok.mp h
          cases h
          exact ⟨⟨id, hcheckpoint⟩, adapter_eq_ok.mp hadapter⟩

/-- What `rollback` does to the parts of the runtime. -/
theorem rollback_cases (runtime : MacroRuntime) (stamps : Stamps) (receiptId : String) :
    let runtime' := (runtime.rollback sha256 stamps receiptId).2
    runtime'.checkpoints = runtime.checkpoints ∧
      runtime'.committedIdempotency = runtime.committedIdempotency ∧
      match runtime.rollbackTarget receiptId with
      | .error _ => runtime'.adapters = runtime.adapters
      | .ok (original, checkpoint, adapter) => runtime'.adapters =
          runtime.adapters.set original.adapterId (adapter.restore checkpoint.snapshot) := by
  unfold rollback
  cases htarget : runtime.rollbackTarget receiptId with
  | error e => exact ⟨rfl, rfl, rfl⟩
  | ok target =>
      obtain ⟨original, checkpoint, adapter⟩ := target
      have hid : adapter.adapterId = original.adapterId :=
        runtime.registered (rollbackTarget_eq_ok htarget).2
      dsimp only
      rw [← hid]
      split <;> exact ⟨rfl, rfl, rfl⟩

/-- A replay executes, or it does nothing. -/
theorem replay_cases (runtime : MacroRuntime) (histories : Histories) (stamps : Stamps)
    (principalId : String) (operation : Operation) (originalReceiptId : String)
    (grants : List CapabilityGrant) :
    let call : RuntimeCall := .replay stamps principalId operation originalReceiptId grants
    runtime.after sha256 call = runtime ∧ historiesAfter sha256 histories runtime call = histories ∨
      ∃ request, runtime.after sha256 call = (runtime.execute sha256 stamps request).2 ∧
        historiesAfter sha256 histories runtime call =
          executed sha256 histories runtime stamps request := by
  intro call
  unfold call after historiesAfter replay
  dsimp only
  cases runtime.findReceipt originalReceiptId with
  | error e => exact Or.inl ⟨rfl, rfl⟩
  | ok original =>
      dsimp only
      by_cases hhash : operation.operationHash sha256 ≠ original.operationHash
      · rw [if_pos hhash, if_pos hhash]
        exact Or.inl ⟨rfl, rfl⟩
      · rw [if_neg hhash, if_neg hhash]
        exact Or.inr ⟨_, rfl, rfl⟩

/-- A call preserves what is tracked. -/
theorem Tracks.call {runtime : MacroRuntime} {histories : Histories}
    (htracks : Tracks sha256 runtime histories) (call : RuntimeCall) :
    Tracks sha256 (runtime.after sha256 call) (historiesAfter sha256 histories runtime call) := by
  have hexecute : ∀ stamps request, Tracks sha256 (runtime.execute sha256 stamps request).2
      (executed sha256 histories runtime stamps request) := by
    intro stamps request
    obtain ⟨hcheckpointed, heffected⟩ := execute_cases runtime histories stamps request
    exact htracks.execute hcheckpointed heffected
  cases call with
  | execute stamps request => exact hexecute stamps request
  | replay stamps principalId operation originalReceiptId grants =>
      rcases replay_cases runtime histories stamps principalId operation originalReceiptId grants with
        ⟨hafter, hhistories⟩ | ⟨request, hafter, hhistories⟩
      · rw [hafter, hhistories]
        exact htracks
      · rw [hafter, hhistories]
        exact hexecute stamps request
  | rollback stamps receiptId =>
      unfold after historiesAfter
      dsimp only
      obtain ⟨hcheckpoints, hcommitted, hadapters⟩ :=
        rollback_cases runtime stamps receiptId
      cases htarget : runtime.rollbackTarget receiptId with
      | error e =>
          rw [htarget] at hadapters
          refine ⟨?_, ?_, htracks.made, ?_⟩
          · rw [hadapters]
            exact htracks.states
          · rw [hcheckpoints]
            exact htracks.snapshots
          · rw [hcommitted]
            exact htracks.commits
      | ok target =>
          obtain ⟨original, checkpoint, adapter⟩ := target
          rw [htarget] at hadapters
          dsimp only at hadapters ⊢
          obtain ⟨⟨checkpointId, hcheckpoint⟩, -⟩ := rollbackTarget_eq_ok htarget
          obtain ⟨hid, hshown⟩ := htracks.snapshots hcheckpoint
          refine ⟨?_, ?_, ?_, ?_⟩
          · intro id adapter' hget
            rw [hadapters, Dict.get?_set] at hget
            dsimp only
            by_cases hsame : id = original.adapterId
            · rw [if_pos hsame] at hget
              rw [hsame, Function.update_self, hid, ← Option.some.inj hget]
              exact hshown.reread
            · rw [if_neg hsame] at hget
              rw [Function.update_of_ne hsame]
              exact htracks.states hget
          · rw [hcheckpoints]
            exact htracks.snapshots
          · intro id
            refine ⟨?_, (htracks.made id).2⟩
            by_cases hsame : id = original.adapterId
            · rw [hsame]
              dsimp only
              rw [Function.update_self]
              exact (htracks.made _).2
            · dsimp only
              rw [Function.update_of_ne hsame]
              exact (htracks.made id).1
          · rw [hcommitted]
            exact htracks.commits

/-- A call that keeps what is committed preserves that it is kept. -/
theorem Kept.call {runtime : MacroRuntime} {histories : Histories} (hkept : Kept runtime histories)
    {call : RuntimeCall} (hkeeps : Keeps sha256 runtime histories call) :
    Kept (runtime.after sha256 call) (historiesAfter sha256 histories runtime call) := by
  have hexecute : ∀ stamps request, Kept (runtime.execute sha256 stamps request).2
      (executed sha256 histories runtime stamps request) := by
    intro stamps request
    exact hkept.execute (execute_cases runtime histories stamps request).2
  cases call with
  | execute stamps request => exact hexecute stamps request
  | replay stamps principalId operation originalReceiptId grants =>
      rcases replay_cases runtime histories stamps principalId operation originalReceiptId grants with
        ⟨hafter, hhistories⟩ | ⟨request, hafter, hhistories⟩
      · rw [hafter, hhistories]
        exact hkept
      · rw [hafter, hhistories]
        exact hexecute stamps request
  | rollback stamps receiptId =>
      unfold after historiesAfter
      dsimp only
      intro identity prior hprior
      rw [(rollback_cases runtime stamps receiptId).2.1] at hprior
      cases htarget : runtime.rollbackTarget receiptId with
      | error e => exact hkept identity prior hprior
      | ok target =>
          obtain ⟨original, checkpoint, adapter⟩ := target
          dsimp only
          by_cases hsame : prior.adapterId = original.adapterId
          · rw [hsame, Function.update_self]
            exact hkeeps original checkpoint adapter htarget identity prior hprior hsame
          · rw [Function.update_of_ne hsame]
            exact hkept identity prior hprior

/-- What is tracked holds in every run. The induction is on the calls. -/
theorem Run.tracks {admits : MacroRuntime → Histories → RuntimeCall → Prop}
    {start runtime : MacroRuntime} {histories : Histories} (hfresh : start.Fresh)
    (h : Run sha256 admits start runtime histories) : Tracks sha256 runtime histories := by
  induction h with
  | start =>
      obtain ⟨-, hcommitted, hcheckpoints⟩ := hfresh
      refine ⟨?_, ?_, ?_, ?_⟩
      · intro id adapter hget
        have hbase : start.startHistories.current id = ⟨adapter.state, []⟩ := by
          unfold startHistories
          dsimp only
          rw [hget]
          rfl
        rw [hbase]
        exact History.shownBy_self adapter.state
      · intro id checkpoint hget
        rw [hcheckpoints] at hget
        cases hget
      · intro id
        constructor <;>
        · intro effect heffect
          cases heffect
      · intro identity prior hprior
        rw [hcommitted] at hprior
        cases hprior
  | call before h ih => exact ih.call _

theorem Run.kept {start runtime : MacroRuntime} {histories : Histories} (hfresh : start.Fresh)
    (h : Run sha256 (Keeps sha256) start runtime histories) : Kept runtime histories := by
  induction h with
  | start =>
      intro identity prior hprior
      rw [hfresh.2.1] at hprior
      cases hprior
  | call before hkeeps ih => exact ih.call hkeeps

/-! ## Operations that are already applied -/

/-- Only a committed operation is answered so.
SOURCE: macro_runtime.py:330-357 -/
theorem prior_of_alreadyApplied {runtime : MacroRuntime} {stamps : Stamps} {request : Request}
    {result : ExecutionResult} (hresult : (runtime.execute sha256 stamps request).1 = .ok result)
    (hstatus : result.status = .alreadyApplied) :
    ∃ adapter prior, runtime.adapters.get? request.operation.adapterId = some adapter ∧
      runtime.admission sha256 request = .ok (.alreadyApplied prior) ∧
      result.output = [("prior_receipt_id", .str prior.receiptId)] := by
  unfold execute at hresult
  cases hadapter : runtime.adapter request.operation.adapterId with
  | error e =>
      rw [hadapter] at hresult
      cases hresult
  | ok adapter =>
      rw [hadapter] at hresult
      cases hadmission : runtime.admission sha256 request with
      | error e =>
          rw [hadmission] at hresult
          cases hresult
      | ok admission =>
          rw [hadmission] at hresult
          cases admission with
          | denied =>
              rw [← Except.ok.inj hresult] at hstatus
              cases hstatus
          | alreadyApplied prior =>
              rw [← Except.ok.inj hresult]
              exact ⟨adapter, prior, adapter_eq_ok.mp hadapter, rfl, rfl⟩
          | enters identity =>
              unfold enter at hresult
              dsimp only at hresult
              cases hperform : perform sha256 adapter request with
              | error e =>
                  rw [hperform] at hresult
                  cases hresult
              | ok performed =>
                  obtain ⟨performed, after, status⟩ := performed
                  rw [hperform] at hresult
                  rw [← Except.ok.inj hresult] at hstatus
                  exact absurd hstatus (status_of_perform hperform)

/-- The prior receipt is committed under the identity of the operation. -/
theorem committed_of_admission {runtime : MacroRuntime} {request : Request} {prior : RuntimeReceipt}
    (h : runtime.admission sha256 request = .ok (.alreadyApplied prior)) :
    ∃ identity, idempotencyIdentity sha256 request.operation = .ok (some identity) ∧
      runtime.committedIdempotency.get? identity = some prior := by
  unfold admission at h
  obtain ⟨_, -, h⟩ := bind_eq_ok.mp h
  split at h
  · cases h
  · obtain ⟨identity, hidentity, h⟩ := bind_eq_ok.mp h
    split at h
    · rename_i prior' hprior
      cases h
      split at hprior
      · obtain ⟨identity, rfl, hcommitted⟩ := Option.bind_eq_some_iff.mp hprior
        exact ⟨identity, hidentity, hcommitted⟩
      · cases hprior
    · cases h

/-- Operations with one identity have the same inputs, as JSON. -/
theorem inputs_of_identity (hsha : DigestsApart sha256) {operation operation' : Operation}
    {identity : String} (h : idempotencyIdentity sha256 operation = .ok (some identity))
    (h' : idempotencyIdentity sha256 operation' = .ok (some identity)) :
    operation.inputHash sha256 = operation'.inputHash sha256 := by
  have hpayload : ∀ {o : Operation}, idempotencyIdentity sha256 o = .ok (some identity) →
      identity = sha256 (.obj [("operation_id", .str o.operationId),
        ("operation_version", .str o.operationVersion),
        ("input_hash", .str (o.inputHash sha256)), ("idempotency_key", .optStr o.idempotencyKey)]) := by
    intro o ho
    unfold idempotencyIdentity at ho
    split at ho
    · split at ho
      · cases ho
      · exact (Option.some.inj (Except.ok.inj ho)).symm
    · cases ho
  have hfields := Json.lookup_of_canonical_eq (hsha ((hpayload h).symm.trans (hpayload h')))
    "input_hash"
  simpa [List.lookup_cons, Json.canonical] using hfields

/-- The key that an operation sets is the key in all inputs that are the same JSON. -/
theorem key_of_setting {operation : Operation} {key : String} {value : Json}
    {fields : List (String × Json)}
    (hsetting : InMemoryStateAdapter.setting operation = .ok (key, value))
    (hinputs : operation.inputs.canonical = (Json.obj fields).canonical) :
    fields.lookup "key" = some (.str key) := by
  have hkey : operation.input "key" = some (.str key) := by
    unfold InMemoryStateAdapter.setting at hsetting
    split at hsetting
    · cases hsetting
    · split at hsetting
      · rename_i key' hkey'
        split at hsetting
        · cases hsetting
        · rw [hkey', (Prod.mk.inj (Except.ok.inj hsetting)).1]
      · cases hsetting
  unfold Operation.input at hkey
  cases hfields : operation.inputs with
  | obj fields' =>
      rw [hfields] at hkey hinputs
      dsimp only at hkey
      have hlookup := Json.lookup_of_canonical_eq hinputs "key"
      rw [hkey] at hlookup
      obtain ⟨written, hwritten, hcanonical⟩ := Option.map_eq_some_iff.mp hlookup.symm
      rw [hwritten]
      cases written <;> simp_all [Json.canonical]
  | _ =>
      rw [hfields] at hkey
      cases hkey

/-- Set `alpha` to 1, once. -/
def setAlpha : Operation where
  operationId := "state.set"
  operationVersion := "0.1.0"
  adapterId := "memory.state"
  action := "set"
  inputs := .obj [("key", .str "alpha"), ("value", .int 1)]
  idempotencyClass := .idempotent
  replayClass := .deterministic
  rollbackClass := .reversible
  sideEffectClass := .localReversible
  idempotencyKey := some "state.set:alpha:1"

/-- The request to set `alpha`. -/
def toSetAlpha : Request := { principalId := "operator", operation := setAlpha }

/-- A runtime with one adapter. -/
def oneAdapter : MacroRuntime := ({} : MacroRuntime).update {}

/-- What the call with this number draws. -/
def numbered (number : String) : Stamps :=
  ⟨"execution-" ++ number, "receipt-" ++ number, "checkpoint-" ++ number, "now", "now"⟩

/-- The receipt with which `alpha` is set. -/
def alphaReceipt (sha256 : Json → String) : RuntimeReceipt :=
  receipt sha256 (numbered "1") toSetAlpha (authorize "operator" setAlpha []) .completed
    (sha256 (.obj [])) (sha256 (.obj [("alpha", .int 1)]))
    [("key", .str "alpha"), ("value", .int 1),
      ("predicted_state_hash", .str (sha256 (.obj [("alpha", .int 1)])))]
    1 (some "checkpoint-1") {} .succeeded

/-- What a runtime answers that has committed `setAlpha`. -/
theorem execute_setAlpha {runtime : MacroRuntime} {adapter : InMemoryStateAdapter}
    {identity : String} (hadapter : runtime.adapters.get? "memory.state" = some adapter)
    (hidentity : idempotencyIdentity sha256 setAlpha = .ok (some identity))
    (hcommitted : runtime.committedIdempotency = Dict.empty.set identity (alphaReceipt sha256)) :
    runtime.admission sha256 toSetAlpha = .ok (.alreadyApplied (alphaReceipt sha256)) ∧
      ∃ result, (runtime.execute sha256 (numbered "3") toSetAlpha).1 = .ok result ∧
        result.status = .alreadyApplied := by
  have hadmission : runtime.admission sha256 toSetAlpha =
      .ok (.alreadyApplied (alphaReceipt sha256)) := by
    unfold admission
    refine bind_eq_ok.mpr ⟨(), rfl, ?_⟩
    rw [if_neg (by decide)]
    refine bind_eq_ok.mpr ⟨some identity, hidentity, ?_⟩
    have hprior : (if toSetAlpha.mode = .live then
        (some identity).bind runtime.committedIdempotency.get? else none) =
        some (alphaReceipt sha256) := by
      have hlive : toSetAlpha.mode = .live := rfl
      rw [if_pos hlive, Option.bind_some, hcommitted, Dict.get?_set, if_pos rfl]
    rw [hprior]
    rfl
  refine ⟨hadmission, ?_⟩
  unfold execute
  rw [show runtime.adapter toSetAlpha.operation.adapterId = .ok adapter from
    adapter_eq_ok.mpr hadapter, hadmission]
  exact ⟨_, rfl, rfl⟩

end MacroRuntime

end PhiOS
