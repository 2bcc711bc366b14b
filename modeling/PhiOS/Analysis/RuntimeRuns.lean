import PhiOS.Analysis.RaisingCalls
import PhiOS.Model.RuntimeProgram

/-!
# Runs over in-memory adapters

The program of `execute`, run over in-memory adapters, does what `MacroRuntime` does:
`run_executeCall`.
-/

set_option autoImplicit false

namespace PhiOS

open Interaction KeyOrder

/-- What is there already is put there without effect. The induction is on the entries. -/
theorem insertEntry_self {κ α : Type} [LinearOrder κ] {k : κ} {v : α} {entries : List (κ × α)}
    (hordered : Ordered entries) (h : entries.lookup k = some v) :
    insertEntry k v entries = entries := by
  induction entries with
  | nil => cases h
  | cons entry rest ih =>
      obtain ⟨k', v'⟩ := entry
      unfold insertEntry
      by_cases hk : k = k'
      · subst hk
        rw [lookup_cons_self] at h
        rw [if_pos rfl, Option.some.inj h]
      · rw [lookup_cons_of_ne hk] at h
        obtain ⟨hfirst, hrest⟩ := List.pairwise_cons.mp hordered
        have hlt : k' < k := hfirst _ (mem_of_lookup h)
        rw [if_neg hk, if_neg (not_lt.mpr hlt.le), ih hrest h]

theorem set_of_get? {κ α : Type} [LinearOrder κ] {d : Dict κ α} {k : κ} {v : α}
    (h : d.get? k = some v) : d.set k v = d :=
  Dict.ext_entries (insertEntry_self d.ordered h)

namespace PyMacro

namespace MacroRuntime

variable {json : PyJson} {stamps : Stamps} {request : Request} {runtime : MacroRuntime}
  {adapter : InMemoryStateAdapter} {id : PyText} {α : Type}

theorem update_self (h : runtime.adapter id = .ok adapter) : runtime.update id adapter = runtime := by
  unfold update
  rw [set_of_get? (adapter_found h)]

theorem adapter_update (after : InMemoryStateAdapter) :
    (runtime.update id after).adapter id = .ok after := by
  unfold MacroRuntime.adapter update
  dsimp only
  rw [Dict.get?_set, if_pos rfl]

theorem adapter_hold (checkpoint : Option Checkpoint) :
    (runtime.hold checkpoint).adapter id = runtime.adapter id := by
  cases checkpoint <;> rfl

/-! ## Single operations -/

theorem run_check (bad : Prop) [Decidable bad] (e : PyError) :
    (check bad e).run (act json) runtime = (raiseIf bad e, runtime) :=
  Prog.run_ofExcept _ _ _

theorem run_findAdapter : (findAdapter id).run (act json) runtime =
    ((runtime.adapter id).map fun _ => (), runtime) :=
  Prog.run_ofExcept (act json) ((runtime.adapter id).map fun _ => ()) runtime

theorem run_askStateHash (h : runtime.adapter id = .ok adapter) :
    (askStateHash id).run (act json) runtime = (adapter.stateHash json, runtime) := by
  refine (Prog.run_ofExcept (act json) (runtime.adapter id >>= fun adapter =>
    adapter.stateHash json) runtime).trans ?_
  rw [h]
  rfl

theorem run_askSnapshot (h : runtime.adapter id = .ok adapter) :
    (askSnapshot id).run (act json) runtime = (adapter.snapshot json, runtime) := by
  refine (Prog.run_ofExcept (act json) (runtime.adapter id >>= fun adapter =>
    adapter.snapshot json) runtime).trans ?_
  rw [h]
  rfl

theorem ask_eq {answer : InMemoryStateAdapter → Except PyError α × InMemoryStateAdapter}
    (h : runtime.adapter id = .ok adapter) :
    runtime.ask id answer = ((answer adapter).1, runtime.update id (answer adapter).2) := by
  unfold ask
  rw [h]

theorem run_askExecute {operation : Operation} (h : runtime.adapter operation.adapterId = .ok adapter) :
    (askExecute operation).run (act json) runtime = ((adapter.execute json operation).1,
      runtime.update operation.adapterId (adapter.execute json operation).2) := by
  rw [← @ask_eq runtime adapter operation.adapterId _ (fun adapter => adapter.execute json operation) h]
  exact Prog.run_ofExcept _ _ _

theorem run_askSimulate {operation : Operation} (h : runtime.adapter operation.adapterId = .ok adapter) :
    (askSimulate operation).run (act json) runtime = ((adapter.simulate json operation).1,
      runtime.update operation.adapterId (adapter.simulate json operation).2) := by
  rw [← @ask_eq runtime adapter operation.adapterId _ (fun adapter => adapter.simulate json operation) h]
  exact Prog.run_ofExcept _ _ _

/-! ## Parts of calls -/

/-- What is made of the receipt and the runtime that records it.
SOURCE: macro_runtime.py:303-329, 395-420 -/
theorem run_receiptCall {state : ExecutionState} {preStateHash postStateHash : String}
    {output : PyFields} {count : ℕ} {checkpointId : Option String} {status : RuntimeResultStatus}
    (h : runtime.adapter request.operation.adapterId = .ok adapter) :
    (receiptCall json stamps request state preStateHash postStateHash output count checkpointId
        status).run (act json) runtime =
      match receipt json stamps request
        (authorize request.principalId request.operation request.grants) state preStateHash
        postStateHash output count checkpointId adapter status with
      | .error e => (.error e, runtime)
      | .ok made => (.ok ⟨state, status,
          authorize request.principalId request.operation request.grants, made, output⟩,
          runtime.record made) := by
  have hattributes : (act json runtime (.attributes request.operation.adapterId)).1 =
      ⟨adapter.adapterId, adapter.version⟩ := by
    show MacroAdapter.mk ((runtime.adapters.get? request.operation.adapterId).getD {}).adapterId
      ((runtime.adapters.get? request.operation.adapterId).getD {}).version = _
    rw [adapter_found h]
    rfl
  show (Prog.bind (Prog.ofExcept (receipt json stamps request
    (authorize request.principalId request.operation request.grants) state preStateHash
    postStateHash output count checkpointId
    { adapterId := (act json runtime (.attributes request.operation.adapterId)).1.adapterId
      version := (act json runtime (.attributes request.operation.adapterId)).1.version }
    status)) _).run (act json) runtime = _
  rw [hattributes, Prog.run_bind, Prog.run_ofExcept]
  have hsame : receipt json stamps request
      (authorize request.principalId request.operation request.grants) state preStateHash
      postStateHash output count checkpointId
      { adapterId := adapter.adapterId, version := adapter.version } status =
      receipt json stamps request (authorize request.principalId request.operation request.grants)
        state preStateHash postStateHash output count checkpointId adapter status := rfl
  rw [hsame]
  split <;> rename_i heq
  · obtain ⟨hmade, rfl⟩ := Prod.mk.inj heq
    rw [hmade]
    rfl
  · obtain ⟨hmade, rfl⟩ := Prod.mk.inj heq
    rw [hmade]

/-- The checkpoint that is stored. -/
theorem run_checkpointCall {rollbackClass : RollbackClass} (h : runtime.adapter id = .ok adapter) :
    (checkpointCall stamps id rollbackClass).run (act json) runtime =
      match createCheckpoint json adapter stamps rollbackClass with
      | .error e => (.error e, runtime)
      | .ok checkpoint => (.ok (checkpoint.map (·.checkpointId)), runtime.hold checkpoint) := by
  unfold checkpointCall createCheckpoint
  by_cases hclass : rollbackClass ≠ .reversible
  · rw [if_pos hclass, if_pos hclass]
    rfl
  · rw [if_neg hclass, if_neg hclass]
    cases hhash : adapter.stateHash json with
    | error e =>
        exact Prog.run_bind_of_error (by rw [run_askStateHash h, hhash])
    | ok stateHash =>
        refine (Prog.run_bind_of_ok (by rw [run_askStateHash h, hhash])).trans ?_
        cases hsnapshot : adapter.snapshot json with
        | error e => exact Prog.run_bind_of_error (by rw [run_askSnapshot h, hsnapshot])
        | ok snapshot =>
            exact (Prog.run_bind_of_ok (by rw [run_askSnapshot h, hsnapshot])).trans rfl

/-- A simulation that has committed nothing. -/
theorem run_simulation {status : RuntimeResultStatus} {e : PyError}
    (h : runtime.adapter request.operation.adapterId = .ok adapter) :
    ((askSimulate request.operation).bind fun result =>
        (check (result.committedSideEffectCount ≠ 0) e).bind fun _ =>
          .ret (result, status)).run (act json) runtime =
      ((adapter.simulate json request.operation).1 >>= fun result =>
          raiseIf (result.committedSideEffectCount ≠ 0) e >>= fun _ => Except.ok (result, status),
        runtime.update request.operation.adapterId (adapter.simulate json request.operation).2) := by
  rw [Prog.run_bind, run_askSimulate h]
  generalize adapter.simulate json request.operation = simulated
  obtain ⟨result, after⟩ := simulated
  cases result with
  | error e => rfl
  | ok result =>
      dsimp only
      rw [Prog.run_bind, run_check]
      cases hraise : raiseIf (result.committedSideEffectCount ≠ 0) e <;> simp [bind, Except.bind, hraise, Prog.run]

/-- What the adapter does. Where it is not entered, it is put in its own place. -/
theorem run_performCall (h : runtime.adapter request.operation.adapterId = .ok adapter) :
    (performCall request).run (act json) runtime =
      ((perform json adapter request).1,
        runtime.update request.operation.adapterId (perform json adapter request).2) := by
  unfold performCall perform
  cases request.mode with
  | live =>
      show Prog.run _ ((askExecute request.operation).bind _) runtime = _
      rw [Prog.run_bind, run_askExecute h]
      generalize adapter.execute json request.operation = executed
      obtain ⟨result, after⟩ := executed
      cases result <;> rfl
  | dryRun => exact run_simulation h
  | replay =>
      by_cases hclass : request.operation.replayClass ≠ .deterministic
      · dsimp only
        rw [if_pos hclass]
        dsimp only
        rw [update_self h]
        refine Prog.run_bind_of_error ?_
        rw [run_check, raiseIf, if_pos hclass]
      · dsimp only
        rw [if_neg hclass]
        refine (Prog.run_bind_of_ok (by rw [run_check, raiseIf, if_neg hclass])).trans ?_
        exact run_simulation h

/-- The part of a call from the checkpoint on.
SOURCE: macro_runtime.py:366-424 -/
theorem run_enterCall {preStateHash : String} {identity : Option String}
    (h : runtime.adapter request.operation.adapterId = .ok adapter) :
    (enterCall json stamps request preStateHash identity).run (act json) runtime =
      runtime.enter json adapter preStateHash stamps request identity := by
  unfold enterCall enter
  show Prog.run _ ((checkpointCall _ _ _).bind _) runtime = _
  rw [Prog.run_bind, run_checkpointCall h]
  cases createCheckpoint json adapter stamps request.operation.rollbackClass with
  | error e => rfl
  | ok checkpoint =>
      have hheld := (@adapter_hold runtime request.operation.adapterId checkpoint).trans h
      dsimp only
      show Prog.run _ ((performCall _).bind _) _ = _
      rw [Prog.run_bind, run_performCall hheld]
      generalize perform json adapter request = performed
      obtain ⟨result, after⟩ := performed
      cases result with
      | error e => rfl
      | ok result =>
          have hafter :=
            @adapter_update (runtime.hold checkpoint) request.operation.adapterId after
          dsimp only
          show Prog.run _ ((askStateHash _).bind _) _ = _
          rw [Prog.run_bind, run_askStateHash hafter]
          unfold settle
          cases after.stateHash json with
          | error e => rfl
          | ok postStateHash =>
              dsimp only
              show Prog.run _ ((receiptCall _ _ _ _ _ _ _ _ _ _).bind _) _ = _
              rw [Prog.run_bind, run_receiptCall hafter]
              show _ = (match receipt json stamps request
                (authorize request.principalId request.operation request.grants) .completed
                preStateHash postStateHash result.1.output result.1.committedSideEffectCount
                (checkpoint.map (·.checkpointId)) after result.2 with
                | .error e => _
                | .ok receipt => _)
              cases receipt json stamps request
                (authorize request.principalId request.operation request.grants) .completed
                preStateHash postStateHash result.1.output result.1.committedSideEffectCount
                (checkpoint.map (·.checkpointId)) after result.2 with
              | error e => rfl
              | ok made =>
                  dsimp only
                  generalize (if request.mode = .live then identity else none) = committed
                  cases committed <;> rfl

/-! ## Calls -/

theorem run_refusal {preStateHash : String} {state : ExecutionState} {status : RuntimeResultStatus}
    {output : PyFields} (h : runtime.adapter request.operation.adapterId = .ok adapter) :
    (receiptCall json stamps request state preStateHash preStateHash output 0 none status).run
        (act json) runtime =
      runtime.refuse json adapter preStateHash stamps request state status output := by
  rw [run_receiptCall h]
  unfold refuse
  cases hmade : receipt json stamps request
    (authorize request.principalId request.operation request.grants) state preStateHash preStateHash
    output 0 none adapter status <;> simp only [hmade]

theorem run_priorCall (identity : Option String) :
    (priorCall (if request.mode = .live then identity else none)).run (act json) runtime =
      (.ok (if request.mode = .live then identity.bind runtime.committedIdempotency.get? else none),
        runtime) := by
  by_cases hlive : request.mode = .live
  · rw [if_pos hlive, if_pos hlive]
    cases identity <;> rfl
  · rw [if_neg hlive, if_neg hlive]
    rfl

/-- What the programs of `execute` do is what `execute` of the runtime does.
SOURCE: macro_runtime.py:278-424 -/
theorem run_executeCall : (executeCall json stamps request).run (act json) runtime =
    runtime.execute json stamps request := by
  unfold executeCall execute begin
  show Prog.run _ ((findAdapter _).bind _) runtime = _
  rw [Prog.run_bind, run_findAdapter]
  cases hadapter : runtime.adapter request.operation.adapterId with
  | error e => rfl
  | ok adapter =>
      dsimp only [Except.map]
      show Prog.run _ ((askStateHash _).bind _) runtime = _
      rw [Prog.run_bind, run_askStateHash hadapter]
      cases hpre : adapter.stateHash json with
      | error e => simp [bind, Except.bind, hpre]
      | ok preStateHash =>
          dsimp only
          show Prog.run _ ((check _ _).bind _) runtime = _
          rw [Prog.run_bind, run_check]
          simp only [bind, Except.bind, hpre]
          unfold MacroRuntime.admission
          by_cases hmode : request.mode ∉ request.operation.executionModesSupported
          · rw [raiseIf, if_pos hmode]
            rfl
          · rw [raiseIf, if_neg hmode]
            simp only [bind, Except.bind]
            unfold authorizedCall
            by_cases hdecision : (authorize request.principalId request.operation
                request.grants).decision ≠ .granted
            · rw [if_pos hdecision, if_pos hdecision]
              exact run_refusal hadapter
            · rw [if_neg hdecision, if_neg hdecision]
              show Prog.run _ ((Prog.ofExcept _).bind _) runtime = _
              rw [Prog.run_bind, Prog.run_ofExcept]
              cases idempotencyIdentity json request.operation with
              | error e => rfl
              | ok identity =>
                  dsimp only
                  show Prog.run _ ((priorCall _).bind _) runtime = _
                  rw [Prog.run_bind, run_priorCall]
                  dsimp only
                  cases (if request.mode = .live then
                    identity.bind runtime.committedIdempotency.get? else none) with
                  | none => exact run_enterCall hadapter
                  | some prior => exact run_refusal hadapter

end MacroRuntime

end PyMacro

end PhiOS
