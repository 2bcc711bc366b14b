import PhiOS.Model.Spine

/-!
# The stages of a spine run

A run of the spine passes through stages: it records an accepted effect receipt, then an
accepted gate receipt of the same packet, and only then may it enter the executor, once.
`Stage.next` is this protocol, and `obeys_run` says that `PhiOSSpine.run` keeps to it whatever
its ledgers and its handler answer. The postconditions say what a run that returns or raises
has done, which is what the handoffs above the spine decide on.
-/

set_option autoImplicit false

namespace PhiOS.Analysis

open Interaction PhiOSSpine

/-- Where a run stands: nothing recorded, the effect receipt of a packet recorded, its gate
receipt recorded too, the executor entered, or no way left to the executor. -/
inductive Stage
  | opened
  | effectRecorded (packetId : String)
  | gateRecorded (packetId : String)
  | entered
  | closed

/-- Both boundaries let the capability through: the effect policy classifies it, and the gate
grants every permission it requests. -/
def Granted (spine : PhiOSSpine) (capabilityId : String) (payload : Json) (c : String)
    (p : Json) : Prop :=
  ∃ capability decision, spine.registry.get capabilityId = .ok capability ∧
    c = capability.id ∧ p = payload ∧
    spine.effectPolicy.evaluate capability (spine.executorEffects capability) = .ok decision ∧
    decision.allowed ∧ ∀ permission ∈ capability.permissions,
      permission ∈ spine.gate.allowedPermissions

open Classical in
/-- The protocol of a run on `capabilityId` and `payload`. -/
noncomputable def Stage.next (spine : PhiOSSpine) (capabilityId : String) (payload : Json) :
    Stage → (o : SpineOp) → o.Reply → Option Stage
  | s, .uuid4, _ => some s
  | s, .now, _ => some s
  | .gateRecorded _, .execute c p, _ =>
      if Granted spine capabilityId payload c p then some .entered else none
  | _, .execute _ _, _ => none
  | .entered, _, _ => some .entered
  | .opened, .mandalaAppend (.effectBoundary r), .stored =>
      some (if r.status = .accepted then .effectRecorded r.packetId else .closed)
  | .effectRecorded id, .mandalaAppend (.gate g), .stored =>
      some (if g.status = .accepted ∧ g.packetId = id then .gateRecorded id else .closed)
  | _, _, _ => some .closed

section Moves

variable {spine : PhiOSSpine} {capabilityId : String} {payload : Json} {s s' : Stage}

theorem Stage.next_execute {c : String} {p : Json} {r : (SpineOp.execute c p).Reply}
    (h : Stage.next spine capabilityId payload s (.execute c p) r = some s') :
    (∃ id, s = .gateRecorded id) ∧ Granted spine capabilityId payload c p ∧ s' = .entered := by
  cases s with
  | gateRecorded id =>
      by_cases hgranted : Granted spine capabilityId payload c p
      · simp only [Stage.next, hgranted, if_true, Option.some.injEq] at h
        exact ⟨⟨id, rfl⟩, hgranted, h.symm⟩
      · simp [Stage.next, hgranted] at h
  | opened | effectRecorded _ | entered | closed => simp [Stage.next] at h

theorem Stage.next_entered_iff {o : SpineOp} {r : o.Reply} (ho : ∀ c p, o ≠ .execute c p)
    (h : Stage.next spine capabilityId payload s o r = some s') :
    s' = .entered ↔ s = .entered := by
  unfold Stage.next at h
  split at h
  case h_1 | h_2 => simp_all
  case h_3 | h_4 => exact absurd rfl (ho _ _)
  case h_5 => simp_all
  case h_6 | h_7 =>
    split at h <;> exact ⟨(by rintro rfl; cases h), nofun⟩
  case h_8 hentered _ _ _ _ _ _ =>
    exact ⟨(by rintro rfl; cases h), fun heq => absurd heq hentered⟩

end Moves

/-- The appends a run makes after it entered the executor, except that of the receipt of a
success, whose exception the run itself catches. -/
def AfterEntry : SpineOp → Prop
  | .mandalaAppend (.action a) => a.outcome = .failed ∨ a.outcome = .outcomeUnknown
  | .mandalaAppend (.abort _) => True
  | .ledgerAppend r => r.executorEntered = true
  | _ => False

/-- The exception of an append. -/
def appendFault : (o : SpineOp) → o.Reply → Option PyError
  | .mandalaAppend _, .storedRaised f | .mandalaAppend _, .lost f => some f.1
  | .ledgerAppend _, .storedRaised f | .ledgerAppend _, .lost f => some f.1
  | _, _ => none

/-- The environments in which the appends after the entry raise nothing but what `F` allows. -/
def Faults (F : PyError → Prop) (o : SpineOp) (r : o.Reply) : Prop :=
  AfterEntry o → ∀ e ∈ appendFault o r, F e

/-! ## Specifications of the parts, for any protocol that ignores identifiers and the clock -/

section Parts

variable {Local : Type} {admits : (o : SpineOp) → o.Reply → Prop}
  {next : Local → (o : SpineOp) → o.Reply → Option Local} {exn : Local → PyError → Prop}
  {l : Local}

/-- In the local state `l` the protocol ignores fresh identifiers and the clock. -/
def Ignores (next : Local → (o : SpineOp) → o.Reply → Option Local) (l : Local) : Prop :=
  (∀ r, next l .uuid4 r = some l) ∧ ∀ r, next l .now r = some l

/-- SOURCE: mandala/receipts.py:22-38 -/
theorem obeys_receiptMeta (hnext : Ignores next l) {packet : MandalaPacket} {status : MandalaStatus}
    {producedBy : String} {parent : Option String} :
    (receiptMeta packet status producedBy parent).Obeys admits next
      (fun l' m => l' = l ∧ m.status = status ∧ m.packetId = packet.packetId) exn l := by
  refine Prog.obeys_call_bind_of_skip hnext.1 fun receiptId _ => ?_
  refine Prog.obeys_call_bind_of_skip hnext.2 fun timestamp _ => ?_
  exact ⟨rfl, rfl, rfl⟩

/-- SOURCE: runtime.py:407-426 -/
theorem obeys_actionPacket (hnext : Ignores next l) (spine : PhiOSSpine) {plan : PhiPlan}
    {capability : Capability} (hexn : ∀ e, exn l e) :
    (spine.actionPacket plan capability).Obeys admits next (fun l' _ => l' = l) exn l := by
  refine Prog.obeys_call_bind_of_skip hnext.1 fun packetId _ => ?_
  refine Prog.Obeys.bind (Q := fun l' _ => l' = l)
    (Prog.obeys_ofExcept (fun _ _ => rfl) fun e _ => hexn e) ?_
  rintro l' digest rfl
  rfl

/-- The status of an effect receipt is the policy's decision. -/
theorem obeys_effectReceipt (hnext : Ignores next l) (spine : PhiOSSpine) {packet : MandalaPacket}
    {capability : Capability} (hexn : ∀ e, exn l e) :
    (spine.effectReceipt packet capability).Obeys admits next
      (fun l' r => l' = l ∧ r.packetId = packet.packetId ∧ ∃ decision,
        spine.effectPolicy.evaluate capability (spine.executorEffects capability) = .ok decision ∧
          r.status = if decision.allowed then .accepted else .blocked) exn l := by
  refine Prog.Obeys.bind (Q := fun l' d => l' = l ∧
      spine.effectPolicy.evaluate capability (spine.executorEffects capability) = .ok d)
    (Prog.obeys_ofExcept (fun _ h => ⟨rfl, h⟩) fun e _ => hexn e) ?_
  rintro l' decision ⟨rfl, hdecision⟩
  refine Prog.Obeys.bind (obeys_receiptMeta hnext) ?_
  rintro l' envelope ⟨rfl, hstatus, hpacket⟩
  refine Prog.Obeys.bind (Q := fun l _ => l = l')
    (Prog.obeys_ofExcept (fun _ _ => rfl) fun e _ => hexn e) ?_
  rintro l digest rfl
  exact ⟨rfl, hpacket, decision, hdecision, hstatus⟩

/-- SOURCE: runtime.py:474-493 -/
theorem obeys_gateReceipt (hnext : Ignores next l) {packet : MandalaPacket} {allowed : Bool}
    {reason : String} {parent : Option String} :
    (gateReceipt packet allowed reason parent).Obeys admits next
      (fun l' g => l' = l ∧ g.packetId = packet.packetId ∧
        g.status = if allowed then .accepted else .blocked) exn l := by
  refine Prog.Obeys.bind (obeys_receiptMeta hnext) ?_
  rintro l' envelope ⟨rfl, hstatus, hpacket⟩
  exact ⟨rfl, hpacket, hstatus⟩

/-- SOURCE: runtime.py:533-549, 586-601, 621-640 -/
theorem obeys_actionReceipt (hnext : Ignores next l) {packet : MandalaPacket} {gateId : String}
    {status : MandalaStatus} {grant : List String} {sideEffect : List (String × String)}
    {outcome : ExecutionStatus} {identifiers : List (String × String)} :
    (actionReceipt packet gateId status grant sideEffect outcome identifiers).Obeys admits next
      (fun l' a => l' = l ∧ a.outcome = outcome) exn l := by
  refine Prog.Obeys.bind (obeys_receiptMeta hnext) ?_
  rintro l' envelope ⟨rfl, -⟩
  exact ⟨rfl, rfl⟩

/-- SOURCE: runtime.py:518-532, 566-580 -/
theorem obeys_executionReceipt (hnext : Ignores next l) (spine : PhiOSSpine) {plan : PhiPlan}
    {capability : Capability} {packet : MandalaPacket} {gateId : String}
    {permissions : List String} {status : PermissionStatus}
    {provenance : Option GovernedProvenance} {error : Option String} (hexn : ∀ e, exn l e) :
    (spine.executionReceipt plan capability packet gateId permissions status provenance error).Obeys
      admits next (fun l' r => l' = l ∧ r.permissionStatus = status ∧
        r.executionStatus = .notExecuted ∧ r.executorEntered = false) exn l := by
  refine Prog.obeys_call_bind_of_skip hnext.1 fun receiptId _ => ?_
  refine Prog.obeys_call_bind_of_skip hnext.2 fun timestamp _ => ?_
  refine Prog.Obeys.bind (Q := fun l' _ => l' = l)
    (Prog.obeys_ofExcept (fun _ _ => rfl) fun e _ => hexn e) ?_
  rintro l' digest rfl
  exact ⟨rfl, rfl, rfl, rfl⟩

variable {post : Local → Unit → Prop}

theorem obeys_mandalaAppend {receipt : MandalaReceipt}
    (h : ∀ reply : AppendReply, admits (.mandalaAppend receipt) reply →
      ∃ l', next l (.mandalaAppend receipt) reply = some l' ∧
        (reply.result = .ok () → post l' ()) ∧ ∀ f, reply.result = .error f → exn l' f.1) :
    (mandalaAppend receipt).Obeys admits next post exn l := by
  intro reply hreply
  obtain ⟨l', hnext, hok, herr⟩ := h reply hreply
  refine ⟨l', hnext, ?_⟩
  cases reply with
  | stored => exact hok rfl
  | storedRaised f => exact herr f rfl
  | lost f => exact herr f rfl

/-- SOURCE: spine/ledger.py:73-75 -/
theorem obeys_ledgerAppend {receipt : ExecutionReceipt}
    (h : ∀ reply : AppendReply, admits (.ledgerAppend receipt) reply →
      ∃ l', next l (.ledgerAppend receipt) reply = some l' ∧
        (reply.result = .ok () → post l' ()) ∧ ∀ f, reply.result = .error f → exn l' f.1) :
    (ledgerAppend receipt).Obeys admits next post exn l := by
  intro reply hreply
  obtain ⟨l', hnext, hok, herr⟩ := h reply hreply
  refine ⟨l', hnext, ?_⟩
  cases reply with
  | stored => exact hok rfl
  | storedRaised f => exact herr f rfl
  | lost f => exact herr f rfl

end Parts

/-! ## Specifications of the paths of a run -/

section Paths

variable {spine : PhiOSSpine} {capabilityId : String} {payload : Json} {F : PyError → Prop}
  {plan : PhiPlan} {capability : Capability} {packet : MandalaPacket} {gate : GateReceipt}
  {decision : PermissionDecision} {receipt : ExecutionReceipt}
  {provenance : Option GovernedProvenance}

/-- What a returned receipt says about the stage the run ended in. -/
def RunPost (l : Stage) (r : ExecutionReceipt) : Prop :=
  (r.permissionStatus = .denied ∧ r.executionStatus = .notExecuted ∧ l ≠ .entered) ∨
    (r.permissionStatus = .allowed ∧ r.executionStatus ≠ .notExecuted ∧
      r.executorEntered = true ∧ l = .entered)

/-- What an exception that leaves the run says: after the entry it is no `Exception`, or it is
one of the faults of the later appends. -/
def RunExn (F : PyError → Prop) (l : Stage) (e : PyError) : Prop :=
  l = .entered → e.cls.isException = false ∨ F e

theorem ignores_stage {l : Stage} : Ignores (Stage.next spine capabilityId payload) l := by
  constructor <;> intro r <;> cases l <;> rfl

theorem obeys_finish_entered {action : ActionReceipt} (hentered : receipt.executorEntered = true)
    (hallowed : receipt.permissionStatus = .allowed)
    (hstatus : receipt.executionStatus ≠ .notExecuted) :
    (finish receipt action).Obeys (Faults F) (Stage.next spine capabilityId payload)
      RunPost (RunExn F) .entered := by
  refine Prog.Obeys.bind (Q := fun l _ => l = .entered) (obeys_ledgerAppend ?_) ?_
  · intro reply hreply
    refine ⟨.entered, rfl, fun _ => rfl, fun f hf _ => .inr ?_⟩
    exact hreply hentered f.1 (by cases reply <;> simp_all [AppendReply.result, appendFault])
  · rintro l _ rfl
    exact .inr ⟨hallowed, hstatus, hentered, rfl⟩

theorem obeys_finish_closed {action : ActionReceipt} (hdenied : receipt.permissionStatus = .denied)
    (hstatus : receipt.executionStatus = .notExecuted) :
    (finish receipt action).Obeys (Faults F) (Stage.next spine capabilityId payload)
      RunPost (RunExn F) .closed := by
  refine Prog.Obeys.bind (Q := fun l _ => l = .closed) (obeys_ledgerAppend ?_) ?_
  · intro reply _
    exact ⟨.closed, rfl, fun _ => rfl, fun f _ h => by cases h⟩
  · rintro l _ rfl
    exact .inl ⟨hdenied, hstatus, by simp⟩

theorem obeys_mandalaAppend_closed {m : MandalaReceipt} :
    (mandalaAppend m).Obeys (Faults F) (Stage.next spine capabilityId payload)
      (fun l _ => l = .closed) (RunExn F) .closed :=
  obeys_mandalaAppend fun _ _ => ⟨.closed, rfl, fun _ => rfl, fun _ _ h => by cases h⟩

/-- SOURCE: runtime.py:508-555 -/
theorem obeys_runBlocked {effect : EffectBoundaryReceipt} :
    (spine.runBlocked plan capability packet effect provenance).Obeys (Faults F)
      (Stage.next spine capabilityId payload) RunPost (RunExn F) .closed := by
  refine Prog.Obeys.bind (obeys_gateReceipt ignores_stage) ?_
  rintro l gate ⟨rfl, -⟩
  refine Prog.Obeys.bind obeys_mandalaAppend_closed ?_
  rintro l _ rfl
  refine Prog.Obeys.bind (obeys_executionReceipt ignores_stage spine fun e h => by cases h) ?_
  rintro l receipt ⟨rfl, hdenied, hstatus, -⟩
  refine Prog.Obeys.bind (obeys_actionReceipt ignores_stage) ?_
  rintro l action ⟨rfl, -⟩
  refine Prog.Obeys.bind obeys_mandalaAppend_closed ?_
  rintro l _ rfl
  exact obeys_finish_closed hdenied hstatus

/-- SOURCE: runtime.py:582-605 -/
theorem obeys_runDenied (hdenied : receipt.permissionStatus = .denied)
    (hstatus : receipt.executionStatus = .notExecuted) :
    (runDenied capability packet gate decision receipt).Obeys (Faults F)
      (Stage.next spine capabilityId payload) RunPost (RunExn F) .closed := by
  refine Prog.Obeys.bind (obeys_actionReceipt ignores_stage) ?_
  rintro l action ⟨rfl, -⟩
  refine Prog.Obeys.bind obeys_mandalaAppend_closed ?_
  rintro l _ rfl
  exact obeys_finish_closed hdenied hstatus

/-- The `try` block enters the executor once, in a stage that permits it, and leaves
with the execution receipt still marked as allowed and entered. -/
theorem obeys_tryExecute {id : String}
    (hgranted : Granted spine capabilityId payload capability.id plan.payload)
    (hallowed : receipt.permissionStatus = .allowed) (hentered : receipt.executorEntered = true) :
    (tryExecute plan capability packet gate decision receipt).Obeys (Faults F)
      (Stage.next spine capabilityId payload)
      (fun l res => l = .entered ∧ match res with
        | .ok (r, _) => r.permissionStatus = .allowed ∧ r.executorEntered = true ∧
            r.executionStatus = .succeeded
        | .error (r, _) => r.permissionStatus = .allowed ∧ r.executorEntered = true)
      (RunExn F) (.gateRecorded id) := by
  refine Prog.obeys_call_bind fun reply _ => ⟨.entered, by simp [Stage.next, hgranted], ?_⟩
  cases reply with
  | error e => exact ⟨rfl, hallowed, hentered⟩
  | ok artifact =>
      refine Prog.Obeys.bind (obeys_actionReceipt ignores_stage) ?_
      rintro l action ⟨rfl, -⟩
      refine Prog.obeys_call_bind fun appended _ => ⟨.entered, rfl, ?_⟩
      cases appended with
      | stored => exact ⟨rfl, hallowed, hentered, rfl⟩
      | storedRaised f => exact ⟨rfl, hallowed, hentered⟩
      | lost f => exact ⟨rfl, hallowed, hentered⟩

theorem obeys_mandalaAppend_entered {m : MandalaReceipt} (hafter : AfterEntry (.mandalaAppend m)) :
    (mandalaAppend m).Obeys (Faults F) (Stage.next spine capabilityId payload)
      (fun l _ => l = .entered) (RunExn F) .entered := by
  refine obeys_mandalaAppend fun reply hreply => ⟨.entered, rfl, fun _ => rfl, fun f hf _ => .inr ?_⟩
  exact hreply hafter f.1 (by cases reply <;> simp_all [AppendReply.result, appendFault])

/-- SOURCE: runtime.py:636-683 -/
theorem obeys_exceptClauses {e : PyError} (hallowed : receipt.permissionStatus = .allowed)
    (hentered : receipt.executorEntered = true) :
    (exceptClauses capability packet gate decision receipt e).Obeys (Faults F)
      (Stage.next spine capabilityId payload)
      (fun l res => l = .entered ∧ res.1.permissionStatus = .allowed ∧
        res.1.executorEntered = true ∧ res.1.executionStatus ≠ .notExecuted)
      (RunExn F) .entered := by
  unfold exceptClauses
  split
  · refine Prog.Obeys.bind (obeys_actionReceipt ignores_stage) ?_
    rintro l action ⟨rfl, houtcome⟩
    refine Prog.Obeys.bind (obeys_mandalaAppend_entered (.inr houtcome)) ?_
    rintro l _ rfl
    exact ⟨rfl, hallowed, hentered, by simp⟩
  · split
    · refine Prog.Obeys.bind (obeys_actionReceipt ignores_stage) ?_
      rintro l action ⟨rfl, houtcome⟩
      refine Prog.Obeys.bind (obeys_mandalaAppend_entered (.inl houtcome)) ?_
      rintro l _ rfl
      refine Prog.Obeys.bind (obeys_receiptMeta ignores_stage) ?_
      rintro l envelope ⟨rfl, -⟩
      refine Prog.Obeys.bind (obeys_mandalaAppend_entered trivial) ?_
      rintro l _ rfl
      exact ⟨rfl, hallowed, hentered, by simp⟩
    · intro _
      exact .inl (by simp_all)

/-- SOURCE: runtime.py:607-687 -/
theorem obeys_runAllowed {id : String}
    (hgranted : Granted spine capabilityId payload capability.id plan.payload)
    (hallowed : receipt.permissionStatus = .allowed) :
    (runAllowed plan capability packet gate decision receipt).Obeys (Faults F)
      (Stage.next spine capabilityId payload) RunPost (RunExn F) (.gateRecorded id) := by
  refine Prog.Obeys.bind (obeys_tryExecute hgranted hallowed rfl) ?_
  rintro l (⟨r, e⟩ | ⟨r, action⟩) ⟨rfl, hr⟩
  · refine Prog.Obeys.bind (obeys_exceptClauses hr.1 hr.2) ?_
    rintro l ⟨r', action⟩ ⟨rfl, hr'⟩
    exact obeys_finish_entered hr'.2.1 hr'.1 hr'.2.2
  · exact obeys_finish_entered hr.2.1 hr.1 (by simp [hr.2.2])

/-- **`PhiOSSpine.run` keeps to its stages**: it enters the executor at most once, only when both
boundaries let the capability through and both of their receipts are in the Mandala ledger, and
its receipt or exception tells how far it came.
SOURCE: runtime.py:495-687 -/
theorem obeys_run :
    (spine.run capabilityId payload provenance).Obeys (Faults F)
      (Stage.next spine capabilityId payload) RunPost (RunExn F) .opened := by
  refine Prog.Obeys.bind (Q := fun l c => l = .opened ∧
      spine.registry.get capabilityId = .ok c)
    (Prog.obeys_ofExcept (fun _ h => ⟨rfl, h⟩) fun e _ h => by cases h) ?_
  rintro l capability ⟨rfl, hget⟩
  refine Prog.Obeys.bind (obeys_actionPacket ignores_stage spine fun e h => by cases h) ?_
  rintro l packet rfl
  refine Prog.Obeys.bind (obeys_effectReceipt ignores_stage spine fun e h => by cases h) ?_
  rintro l effect ⟨rfl, hpacket, boundary, hboundary, hstatus⟩
  refine Prog.Obeys.bind (Q := fun l _ => l =
    if effect.status = .accepted then .effectRecorded effect.packetId else .closed)
    (obeys_mandalaAppend ?_) ?_
  · intro reply _
    cases reply with
    | stored => exact ⟨_, rfl, fun _ => rfl, by simp [AppendReply.result]⟩
    | storedRaised f => exact ⟨.closed, rfl, by simp [AppendReply.result], fun f _ h => by cases h⟩
    | lost f => exact ⟨.closed, rfl, by simp [AppendReply.result], fun f _ h => by cases h⟩
  rintro l _ rfl
  split
  · rename_i hblocked
    rw [if_neg (by simp [hblocked])]
    exact obeys_runBlocked
  · rename_i hpassed
    have haccepted : effect.status = .accepted ∧ boundary.allowed := by
      rw [hstatus] at hpassed ⊢
      split at hpassed <;> simp_all
    rw [if_pos haccepted.1]
    refine Prog.Obeys.bind (obeys_gateReceipt ignores_stage) ?_
    rintro l gate ⟨rfl, hgatePacket, hgateStatus⟩
    refine Prog.Obeys.bind (Q := fun l _ => l =
      if (spine.gate.evaluate capability).allowed then .gateRecorded effect.packetId else .closed)
      (obeys_mandalaAppend ?_) ?_
    · intro reply _
      cases reply with
      | stored =>
          refine ⟨_, rfl, fun _ => ?_, by simp [AppendReply.result]⟩
          rw [hgateStatus, hgatePacket, hpacket]
          cases (spine.gate.evaluate capability).allowed <;> simp
      | storedRaised f => exact ⟨.closed, rfl, by simp [AppendReply.result], fun f _ h => by cases h⟩
      | lost f => exact ⟨.closed, rfl, by simp [AppendReply.result], fun f _ h => by cases h⟩
    rintro l _ rfl
    refine Prog.Obeys.bind (obeys_executionReceipt ignores_stage spine fun e h => ?_) ?_
    · split at h <;> cases h
    rintro l receipt ⟨rfl, hpermission, hnot, -⟩
    cases hgate : (spine.gate.evaluate capability).allowed with
    | false =>
        simp only [hgate] at hpermission ⊢
        exact obeys_runDenied (by simpa using hpermission) hnot
    | true =>
        simp only [hgate] at hpermission ⊢
        refine obeys_runAllowed ⟨capability, boundary, hget, rfl, rfl, hboundary, haccepted.2, ?_⟩
          (by simpa using hpermission)
        exact (PermissionGate.evaluate_allowed_iff _ _).mp (by simp [hgate])

end Paths

end PhiOS.Analysis
