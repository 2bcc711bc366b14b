import PhiOS.Model.ActionLeaseService
import PhiOS.Analysis.LeaseSpentOnce

/-!
# One lease record for each executable binding, unless two service objects overlap

`GhostWalkActionLeaseService.issue` looks for a record of the binding and appends its own later,
under the lock of one service object. Calls of one object exclude each other. Two objects over one
ledger can both look before either appends; where no call is overtaken in this way, the record file
keeps at most one record for each binding.
-/

set_option autoImplicit false

namespace PhiOS.Analysis

open Interaction GhostWalk GhostWalkActionLeaseService

/-! ## The calls -/

/-- A call of one of the service's methods. -/
inductive LeaseServiceCall
  | issue (service : GhostWalkActionLeaseService) (request : IssueRequest)
  | readiness (service : GhostWalkActionLeaseService) (target : String)
  | latest (service : GhostWalkActionLeaseService) (target : String)

/-- The service object that is called. -/
def LeaseServiceCall.object : LeaseServiceCall → ℕ
  | .issue service _ | .readiness service _ | .latest service _ => service.service

/-- What the methods return. -/
inductive LeaseServiceResult
  | issued (record : GhostWalkActionLeaseRecord)
  | readiness (readiness : GhostWalkLeaseReadiness)
  | latest (record : Option GhostWalkActionLeaseRecord)

/-- The program of a call. -/
def LeaseServiceCall.body (iso : Iso8601) (sha256 : Json → String) :
    LeaseServiceCall → GhostWalkProg LeaseServiceResult
  | .issue service request => do
      return .issued (← GhostWalkActionLeaseService.issue iso sha256 service request)
  | .readiness service target => do
      return .readiness (← GhostWalkActionLeaseService.readiness iso sha256 service target)
  | .latest _ target => do return .latest (← GhostWalkActionLeaseService.latest target)

/-- Calls of any number of service objects over one ledger. -/
def leaseServiceSystem (iso : Iso8601) (sha256 : Json → String) :
    System GhostWalkOp.Reply PyError LeaseServiceResult GhostWalkState LeaseServiceCall :=
  ghostWalkSystem sha256 (LeaseServiceCall.body iso sha256)

/-! ## The stages of a call -/

/-- Where a call stands: before the lock, under it, after a lookup that found no record for a
binding, after its append, and after the lock. -/
inductive IssueStage
  | outside
  | inside
  | checked (binding : String)
  | appended
  | left
  deriving DecidableEq

/-- The stages under the lock. -/
def IssueStage.locked : IssueStage → Bool
  | .inside | .checked _ | .appended => true
  | .outside | .left => false

/-- The stages of a call of the service object `object`. -/
def IssueStage.next (object : ℕ) (stage : IssueStage) :
    (o : GhostWalkOp) → o.Reply → Option IssueStage
  | .acquire s, _ => if s = object ∧ stage = .outside then some .inside else none
  | .release s, _ => if s = object ∧ stage.locked = true then some .left else none
  | .leaseRecords (.binding b), .ok [] =>
      some (if stage = .inside then .checked b else stage)
  | .appendLeaseRecord record, _ =>
      if stage = .checked record.executableBindingSha256 then some .appended else none
  | .leaseRecords _, _ | .clock, _ | .latestBinding _, _ | .bindingReadiness _, _
  | .currentEpoch, _ | .appendExecutionReceipt _, _ | .ledger _, _ => some stage

/-- What becomes of a stage up to the append: a lookup under the lock may be put on record. -/
def IssueStage.Looks (stage stage' : IssueStage) : Prop :=
  stage' = stage ∨ stage = .inside ∧ ∃ b, stage' = .checked b

/-- Any reply. -/
def anyServiceReply (o : GhostWalkOp) (_ : o.Reply) : Prop := True

section Obeys

variable {object : ℕ} {stage : IssueStage} {iso : Iso8601} {sha256 : Json → String} {α : Type}

theorem obeys_quietly {o : GhostWalkOp} {f : o.Reply → GhostWalkProg α}
    {Q : IssueStage → α → Prop} {E : IssueStage → PyError → Prop}
    (hskip : ∀ r, stage.next object o r = some stage)
    (hf : ∀ r, (f r).Obeys anyServiceReply (IssueStage.next object) Q E stage) :
    ((Prog.call o).bind f).Obeys anyServiceReply (IssueStage.next object) Q E stage :=
  Prog.obeys_call_bind_of_skip hskip fun r _ => hf r

/-- SOURCE: macro_action_lease_service.py:788-800 -/
theorem eq_nil_of_mapM {β : Type} {f : LeaseRow → Except PyError β} {rows : List LeaseRow}
    (h : rows.mapM f = .ok []) : rows = [] := by
  cases rows with
  | nil => rfl
  | cons row rows =>
      rw [List.mapM_cons] at h
      obtain ⟨record, -, h⟩ := bind_eq_ok.mp h
      obtain ⟨records, -, h⟩ := bind_eq_ok.mp h
      cases Except.ok.inj h

/-- A lookup without a result is put on record, if it is made under the lock. -/
theorem obeys_recordForBinding {b : String} :
    (recordForBinding b).Obeys anyServiceReply (IssueStage.next object)
      (fun l found => stage.Looks l ∧ (found = none → stage = .inside → l = .checked b))
      (fun l _ => stage.Looks l) stage := by
  unfold recordForBinding
  refine Prog.Obeys.bind
    (Q := fun l rows => stage.Looks l ∧ (rows = [] → stage = .inside → l = .checked b)) ?_ ?_
  · refine Prog.obeys_call_bind fun (reply : Except StorageFault (List LeaseRow)) _ => ?_
    rcases reply with fault | rows
    · exact ⟨stage, rfl, .inl rfl⟩
    cases rows with
    | nil =>
        refine ⟨_, rfl, ?_, fun _ hinside => if_pos hinside⟩
        by_cases hinside : stage = .inside
        · exact .inr ⟨hinside, b, if_pos hinside⟩
        · exact .inl (if_neg hinside)
    | cons row rows => exact ⟨stage, rfl, .inl rfl, fun h => by cases h⟩
  · rintro l rows ⟨hlooks, hnone⟩
    refine Prog.obeys_ofExcept_bind (fun _ _ => hlooks) fun records hrecords => ?_
    split
    · exact ⟨hlooks, fun _ => hnone (eq_nil_of_mapM hrecords)⟩
    · exact ⟨hlooks, fun h => by cases h⟩
    · exact hlooks

/-- SOURCE: macro_action_lease_service.py:716-757 -/
theorem ne_ready_of_epochReason {policy : GhostWalkLeasePolicy} {epoch : AuthorityEpoch} {now : ℤ}
    {reason : LeaseReadinessReason} (h : epochReason iso policy epoch now = .ok (some reason)) :
    reason ≠ .ready := by
  unfold epochReason at h
  split at h
  · obtain rfl : LeaseReadinessReason.authorityPrincipalMismatch = reason :=
      Option.some.inj (Except.ok.inj h)
    decide
  obtain ⟨observed, -, h⟩ := bind_eq_ok.mp h
  split at h
  · obtain rfl : LeaseReadinessReason.authorityEpochStale = reason :=
      Option.some.inj (Except.ok.inj h)
    decide
  split at h
  · cases h
  · obtain ⟨transition, -, h⟩ := bind_eq_ok.mp h
    split at h
    · obtain rfl : LeaseReadinessReason.authorityEpochStale = reason :=
        Option.some.inj (Except.ok.inj h)
      decide
    · cases h

/-- A trusted state is only ready after a lookup for its binding that found nothing.
SOURCE: macro_action_lease_service.py:646-786 -/
theorem obeys_trustedState {service : GhostWalkActionLeaseService} {target : String} {now : ℤ} :
    (trustedState iso sha256 service target now).Obeys anyServiceReply (IssueStage.next object)
      (fun l state => stage.Looks l ∧ (state.reason = .ready → stage = .inside →
        ∃ binding, state.binding = some binding ∧
          l = .checked (binding.executableBindingSha256 sha256)))
      (fun l _ => stage.Looks l) stage := by
  have hlooks : stage.Looks stage := .inl rfl
  have hearly : ∀ state : TrustedState, state.reason ≠ .ready →
      stage.Looks stage ∧ (state.reason = .ready → stage = .inside →
        ∃ binding, state.binding = some binding ∧
          stage = .checked (binding.executableBindingSha256 sha256)) :=
    fun _ hreason => ⟨hlooks, fun h => absurd h hreason⟩
  unfold trustedState
  refine obeys_quietly (fun _ => rfl) fun _ => ?_
  refine Prog.obeys_ofExcept_bind (fun _ _ => hlooks) fun binding _ => ?_
  cases binding with
  | none => exact hearly _ (by simp)
  | some binding =>
  refine obeys_quietly (fun _ => rfl) fun _ => ?_
  refine Prog.obeys_ofExcept_bind (fun _ _ => hlooks) fun readiness _ => ?_
  dsimp only
  split
  · exact hearly _ (by simp)
  refine Prog.obeys_ofExcept_bind (fun _ _ => hlooks) fun policy _ => ?_
  cases policy with
  | none => exact hearly _ (by simp)
  | some policy =>
  refine Prog.obeys_ofExcept_bind (fun _ _ => hlooks) fun profile _ => ?_
  split
  · exact hearly _ (by simp)
  split
  · exact hearly _ (by simp)
  refine obeys_quietly (fun _ => rfl) fun _ => ?_
  refine Prog.obeys_ofExcept_bind (fun _ _ => hlooks) fun epoch _ => ?_
  cases epoch with
  | none => exact hearly _ (by simp)
  | some epoch =>
  refine Prog.obeys_ofExcept_bind (fun _ _ => hlooks) fun reason hreason => ?_
  cases reason with
  | some reason => exact hearly _ (ne_ready_of_epochReason hreason)
  | none =>
  dsimp only
  split
  · exact hearly _ (by simp)
  refine Prog.Obeys.bind obeys_recordForBinding ?_
  rintro l (_ | existing) ⟨hl, hfound⟩
  · exact ⟨hl, fun _ hinside => ⟨binding, rfl, hfound rfl hinside⟩⟩
  · exact ⟨hl, fun h => by cases h⟩

theorem binding_of_issueRecord {service : GhostWalkActionLeaseService} {request : IssueRequest}
    {now : ℤ} {binding : GhostWalkExecutableBinding} {policy : GhostWalkLeasePolicy}
    {profile : EnforcementProfile} {epoch : AuthorityEpoch} {record : GhostWalkActionLeaseRecord}
    (h : issueRecord iso sha256 service request now binding policy profile epoch = .ok record) :
    record.executableBindingSha256 = binding.executableBindingSha256 sha256 := by
  unfold issueRecord at h
  obtain ⟨_, _, _, _, h⟩ := ok_past_four h
  obtain ⟨_, _, _, h⟩ := ok_past_three h
  obtain ⟨_, _, h⟩ := ok_past_two h
  obtain rfl := Except.ok.inj h
  rfl

/-- SOURCE: macro_action_lease_service.py:820-827 -/
theorem obeys_serviceNow {naive : PyError} :
    (now naive).Obeys anyServiceReply (IssueStage.next object) (fun l _ => l = stage)
      (fun l _ => l = stage) stage := by
  refine obeys_quietly (fun _ => rfl) fun value => ?_
  cases value <;> rfl

/-- The part under the lock: an append follows a lookup for its binding. -/
theorem obeys_issueLocked {service : GhostWalkActionLeaseService} {request : IssueRequest} :
    (issueLocked iso sha256 service request).Obeys anyServiceReply (IssueStage.next object)
      (fun l _ => l.locked = true) (fun l _ => l.locked = true) .inside := by
  have hlocked : ∀ {l : IssueStage}, IssueStage.inside.Looks l → l.locked = true := by
    rintro l (rfl | ⟨-, b, rfl⟩) <;> rfl
  unfold issueLocked
  refine Prog.Obeys.bind (obeys_serviceNow.mono (fun _ _ h => h) fun _ _ h => hlocked (.inl h)) ?_
  rintro l now rfl
  refine Prog.Obeys.bind (obeys_trustedState.mono (fun _ _ h => h) fun _ _ h => hlocked h) ?_
  rintro l state ⟨hlooks, hready⟩
  split
  · exact hlocked hlooks
  rename_i hreason
  obtain ⟨binding, hbinding, rfl⟩ := hready (not_not.mp hreason) rfl
  split
  · rename_i found policy profile epoch hfound _ _ _
    obtain rfl : binding = found := Option.some.inj (hbinding.symm.trans hfound)
    refine Prog.obeys_ofExcept_bind (fun _ _ => rfl) fun record hrecord => ?_
    have hsame := binding_of_issueRecord hrecord
    refine Prog.Obeys.bind (Q := fun l _ => l = .appended) ?_ fun l _ hl => by rw [hl]; rfl
    refine Prog.obeys_call_bind fun (reply : AppendReply) _ => ?_
    refine ⟨.appended, if_pos (by rw [hsame]), ?_⟩
    exact Prog.obeys_ofExcept (fun _ _ => rfl) fun _ _ => rfl
  · rfl

/-- `with self._lock:` around it. -/
theorem obeys_issue {service : GhostWalkActionLeaseService} {request : IssueRequest} :
    (GhostWalkActionLeaseService.issue iso sha256 service request).Obeys anyServiceReply
      (IssueStage.next service.service) (fun _ _ => True) (fun _ _ => True) .outside := by
  unfold GhostWalkActionLeaseService.issue
  refine Prog.obeys_ofExcept_bind (fun _ _ => trivial) fun _ _ => ?_
  refine Prog.obeys_ofExcept_bind (fun _ _ => trivial) fun _ _ => ?_
  refine Prog.obeys_ofExcept_bind (fun _ _ => trivial) fun _ _ => ?_
  refine Prog.obeys_ofExcept_bind (fun _ _ => trivial) fun _ _ => ?_
  refine Prog.obeys_ofExcept_bind (fun _ _ => trivial) fun _ _ => ?_
  refine Prog.obeys_ofExcept_bind (fun _ _ => trivial) fun _ _ => ?_
  unfold withLock
  refine Prog.obeys_call_bind fun _ _ => ⟨.inside, if_pos ⟨rfl, rfl⟩, ?_⟩
  refine Prog.Obeys.bind (Q := fun l _ => l.locked = true) obeys_issueLocked.attempt ?_
  intro l result hl
  refine Prog.obeys_call_bind fun _ _ => ⟨.left, if_pos ⟨rfl, hl⟩, ?_⟩
  exact Prog.obeys_ofExcept (fun _ _ => trivial) fun _ _ => trivial

theorem obeys_readiness {service : GhostWalkActionLeaseService} {target : String} :
    (GhostWalkActionLeaseService.readiness iso sha256 service target).Obeys anyServiceReply
      (IssueStage.next object) (fun _ _ => True) (fun _ _ => True) .outside := by
  unfold GhostWalkActionLeaseService.readiness
  refine Prog.obeys_ofExcept_bind (fun _ _ => trivial) fun _ _ => ?_
  refine Prog.Obeys.bind (obeys_serviceNow.mono (fun _ _ h => h) fun _ _ _ => trivial) ?_
  rintro l now rfl
  refine Prog.Obeys.bind (obeys_trustedState.mono (fun _ _ h => h) fun _ _ _ => trivial) ?_
  intro l state _
  exact Prog.obeys_ofExcept_bind (fun _ _ => trivial) fun _ _ => trivial

/-- SOURCE: macro_action_lease_service.py:620-644 -/
theorem obeys_latest {target : String} :
    (GhostWalkActionLeaseService.latest target).Obeys anyServiceReply (IssueStage.next object)
      (fun _ _ => True) (fun _ _ => True) .outside := by
  unfold GhostWalkActionLeaseService.latest
  refine Prog.obeys_ofExcept_bind (fun _ _ => trivial) fun _ _ => ?_
  refine Prog.Obeys.bind (Q := fun _ _ => True) ?_ ?_
  · refine obeys_quietly (fun _ => rfl) fun reply => ?_
    exact Prog.obeys_ofExcept (fun _ _ => trivial) fun _ _ => trivial
  · intro l rows _
    exact Prog.obeys_ofExcept_bind (fun _ _ => trivial) fun _ _ => trivial

/-- **Every method goes through the stages.**
SOURCE: macro_action_lease_service.py:487-644 -/
theorem obeys_leaseServiceCall (c : LeaseServiceCall) :
    (c.body iso sha256).Obeys anyServiceReply (IssueStage.next c.object) (fun _ _ => True)
      (fun _ _ => True) .outside := by
  cases c with
  | issue service request => exact Prog.Obeys.bind obeys_issue fun _ _ _ => trivial
  | readiness service target => exact Prog.Obeys.bind obeys_readiness fun _ _ _ => trivial
  | latest service target => exact Prog.Obeys.bind obeys_latest fun _ _ _ => trivial

end Obeys

/-! ## What a step does -/

/-- The binding that an operation stores a record for. -/
def storedFor : (o : GhostWalkOp) → o.Reply → Option String
  | .appendLeaseRecord record, reply =>
      if AppendReply.isStored reply then some record.executableBindingSha256 else none
  | .acquire _, _ | .release _, _ | .clock, _ | .latestBinding _, _ | .bindingReadiness _, _
  | .currentEpoch, _ | .leaseRecords _, _ | .appendExecutionReceipt _, _ | .ledger _, _ => none

/-- The rows that a lookup for a binding is answered with. -/
def foundFor : (o : GhostWalkOp) → o.Reply → Option (List LeaseRow)
  | .leaseRecords (.binding _), .ok rows => some rows
  | .leaseRecords _, _ | .acquire _, _ | .release _, _ | .clock, _ | .latestBinding _, _
  | .bindingReadiness _, _ | .currentEpoch, _ | .appendLeaseRecord _, _
  | .appendExecutionReceipt _, _ | .ledger _, _ => none

/-- The number of rows for a binding. -/
def rowsFor (rows : List LeaseRow) (b : String) : ℕ :=
  rows.countP fun row => row.executableBindingSha256 = some b

/-- Events of the service's calls. -/
abbrev ServiceEvent := PoolEvent GhostWalkOp.Reply LeaseServiceCall

/-- Since thread `i`, a call of the object `object`, looked for a record for the binding `b`, a
call of another object has stored one. -/
def Overtaken (h : List ServiceEvent) (i object : ℕ) (b : String) : Prop :=
  ∃ h₁ lookup h₂, h = h₁ ++ lookup :: h₂ ∧ lookup.thread = i ∧
    lookup.op = .leaseRecords (.binding b) ∧
      ∃ e ∈ h₂, storedFor e.op e.reply = some b ∧ e.call.object ≠ object

/-- No call stores a record after it was overtaken. -/
def NotOvertaken
    (s : Pool GhostWalkOp.Reply PyError LeaseServiceResult GhostWalkState LeaseServiceCall)
    (e : ServiceEvent) : Prop :=
  ∀ b, storedFor e.op e.reply = some b → ¬ Overtaken s.history e.thread e.call.object b

section Step

variable {object : ℕ} {stage stage' : IssueStage} {sha256 : Json → String} {o : GhostWalkOp}
  {r : o.Reply} {w w' : GhostWalkState} {b : String}

/-- What a permitted operation does to the stage. -/
theorem IssueStage.next_cases (h : stage.next object o r = some stage') :
    (o = .acquire object ∧ stage = .outside ∧ stage' = .inside) ∨
    (o = .release object ∧ stage.locked = true ∧ stage' = .left) ∨
    (∃ b, (⟨o, r⟩ : Prog.Event GhostWalkOp.Reply) = ⟨.leaseRecords (.binding b), .ok []⟩ ∧
      stage = .inside ∧ stage' = .checked b) ∨
    (∃ record, o = .appendLeaseRecord record ∧
      stage = .checked record.executableBindingSha256 ∧ stage' = .appended) ∨
    ((∀ s, o ≠ .acquire s ∧ o ≠ .release s) ∧ storedFor o r = none ∧ stage' = stage) := by
  have hsame : (∀ s, o ≠ .acquire s ∧ o ≠ .release s) → storedFor o r = none →
      stage.next object o r = some stage →
      ((∀ s, o ≠ .acquire s ∧ o ≠ .release s) ∧ storedFor o r = none ∧ stage' = stage) :=
    fun ho hstored hnext => ⟨ho, hstored, Option.some.inj (h.symm.trans hnext)⟩
  cases o with
  | acquire s =>
      simp only [IssueStage.next] at h
      split at h
      · rename_i hs
        exact .inl ⟨by rw [hs.1], hs.2, (Option.some.inj h).symm⟩
      · cases h
  | release s =>
      simp only [IssueStage.next] at h
      split at h
      · rename_i hs
        exact .inr (.inl ⟨by rw [hs.1], hs.2, (Option.some.inj h).symm⟩)
      · cases h
  | appendLeaseRecord record =>
      simp only [IssueStage.next] at h
      split at h
      · rename_i hs
        exact .inr (.inr (.inr (.inl ⟨record, rfl, hs, (Option.some.inj h).symm⟩)))
      · cases h
  | leaseRecords query =>
      refine .inr (.inr ?_)
      cases query with
      | binding b =>
          rcases r with fault | rows
          · exact .inr (.inr (hsame (by simp) rfl rfl))
          cases rows with
          | nil =>
              by_cases hinside : stage = .inside
              · simp only [IssueStage.next, if_pos hinside] at h
                exact .inl ⟨b, rfl, hinside, (Option.some.inj h).symm⟩
              · exact .inr (.inr (hsame (by simp) rfl (by simp [IssueStage.next, hinside])))
          | cons row rows => exact .inr (.inr (hsame (by simp) rfl rfl))
      | target _ | lease _ => exact .inr (.inr (hsame (by simp) rfl rfl))
  | clock | latestBinding _ | bindingReadiness _ | currentEpoch | appendExecutionReceipt _
  | ledger _ => exact .inr (.inr (.inr (.inr (hsame (by simp) rfl rfl))))

theorem rowsFor_of_effect (heffect : w.Effect sha256 o r w') :
    rowsFor w'.leaseRows b =
      rowsFor w.leaseRows b + if storedFor o r = some b then 1 else 0 := by
  obtain ⟨-, rfl⟩ := heffect
  cases o with
  | appendLeaseRecord record =>
      by_cases hstored : AppendReply.isStored r = true
      · by_cases hb : record.executableBindingSha256 = b
        · simp [rowsFor, GhostWalkState.after, storedFor, hstored, hb, LeaseRow.ofRecord]
        · simp [rowsFor, GhostWalkState.after, storedFor, hstored, hb, LeaseRow.ofRecord]
      · simp [rowsFor, GhostWalkState.after, storedFor, hstored]
  | acquire _ | release _ | clock | latestBinding _ | bindingReadiness _ | currentEpoch
  | leaseRecords _ | appendExecutionReceipt _ | ledger _ => rfl

/-- A lookup for a binding finds the rows for it. -/
theorem length_foundFor (heffect : w.Effect sha256 o r w') {rows : List LeaseRow}
    (h : foundFor o r = some rows) :
    ∃ b, o = .leaseRecords (.binding b) ∧ rows.length = rowsFor w.leaseRows b := by
  obtain ⟨hadmits, -⟩ := heffect
  cases o with
  | leaseRecords query =>
      cases query with
      | binding b =>
          rcases r with fault | found
          · cases h
          obtain rfl := Option.some.inj h
          refine ⟨b, rfl, ?_⟩
          have hfound : found = w.leaseRows.filter (LeaseQuery.binding b).selects := hadmits
          rw [hfound, ← List.countP_eq_length_filter]
          rfl
      | target _ | lease _ => rcases r with fault | found <;> cases h
  | acquire _ | release _ | clock | latestBinding _ | bindingReadiness _ | currentEpoch
  | appendLeaseRecord _ | appendExecutionReceipt _ | ledger _ => cases h

theorem locked_of_effect (heffect : w.Effect sha256 o r w')
    (ho : ∀ s, o ≠ .acquire s ∧ o ≠ .release s) : w'.locked = w.locked := by
  obtain ⟨-, rfl⟩ := heffect
  cases o with
  | acquire s => exact absurd rfl (ho s).1
  | release s => exact absurd rfl (ho s).2
  | clock | latestBinding _ | bindingReadiness _ | currentEpoch | leaseRecords _
  | appendLeaseRecord _ | appendExecutionReceipt _ | ledger _ => rfl

theorem Overtaken.append {h : List ServiceEvent} {i : ℕ} (hover : Overtaken h i object b)
    (e : ServiceEvent) : Overtaken (h ++ [e]) i object b := by
  obtain ⟨h₁, lookup, h₂, rfl, hthread, hop, e', he', hstored⟩ := hover
  exact ⟨h₁, lookup, h₂ ++ [e], by simp, hthread, hop, e', by simp [he'], hstored⟩

end Step

/-! ## The invariant -/

/-- The stages of the threads, each with its call. -/
abbrev Stages := ℕ → Option (LeaseServiceCall × IssueStage)

/-- What links the locks, the record file, the stages and the history. -/
structure CustodyInv (w : GhostWalkState) (g : Stages) (h : List ServiceEvent) : Prop where
  locked : ∀ i c p, g i = some (c, p) → p.locked = true → w.locked c.object = true
  exclusive : ∀ i j c d p q, g i = some (c, p) → g j = some (d, q) → p.locked = true →
    q.locked = true → c.object = d.object → i = j
  searched : ∀ i c b, g i = some (c, .checked b) →
    ∃ lookup ∈ h, lookup.thread = i ∧ lookup.op = .leaseRecords (.binding b)
  fresh : ∀ i c b, g i = some (c, .checked b) → rowsFor w.leaseRows b ≠ 0 →
    Overtaken h i c.object b
  once : ∀ b, rowsFor w.leaseRows b ≤ 1
  found : ∀ e ∈ h, ∀ rows, foundFor e.op e.reply = some rows → rows.length ≤ 1

namespace CustodyInv

variable {w w' : GhostWalkState} {g : Stages} {h : List ServiceEvent} {i : ℕ}
  {c : LeaseServiceCall} {o : GhostWalkOp} {r : o.Reply} {p q : IssueStage}
  {sha256 : Json → String}

/-- Starting a call keeps the invariant. -/
theorem start (hinv : CustodyInv w g h) :
    CustodyInv w (Function.update g i (some (c, .outside))) h := by
  have hold : ∀ {j d p}, Function.update g i (some (c, IssueStage.outside)) j = some (d, p) →
      p ≠ .outside → g j = some (d, p) := by
    intro j d p hj hp
    by_cases hji : j = i
    · subst hji
      rw [Function.update_self] at hj
      have heq := Option.some.inj hj
      exact absurd (congrArg Prod.snd heq).symm hp
    · rwa [Function.update_of_ne hji] at hj
  have hne : ∀ {p : IssueStage}, p.locked = true → p ≠ .outside := by
    intro p hp hout
    rw [hout] at hp
    cases hp
  constructor
  · intro j d p hj hp
    exact hinv.locked j d p (hold hj (hne hp)) hp
  · intro j k d d' p q hj hk hp hq
    exact hinv.exclusive j k d d' p q (hold hj (hne hp)) (hold hk (hne hq)) hp hq
  · intro j d b hj
    exact hinv.searched j d b (hold hj (by simp))
  · intro j d b hj
    exact hinv.fresh j d b (hold hj (by simp))
  · exact hinv.once
  · exact hinv.found

theorem locked_before (hnext : p.next c.object o r = some q) (hq : q.locked = true) :
    p.locked = true ∨ o = .acquire c.object := by
  rcases IssueStage.next_cases hnext with
    ⟨ho, -, -⟩ | ⟨-, -, rfl⟩ | ⟨b, -, rfl, -⟩ | ⟨record, -, rfl, -⟩ | ⟨-, -, rfl⟩
  · exact .inr ho
  · cases hq
  · exact .inl rfl
  · exact .inl rfl
  · exact .inl hq

/-- The lock of a call that stays under it is not released by the move of another one. -/
theorem move_locked (hinv : CustodyInv w g h) (hi : g i = some (c, p))
    (hnext : p.next c.object o r = some q) (heffect : w.Effect sha256 o r w') {j : ℕ}
    {d : LeaseServiceCall} {p' : IssueStage} (hj : g j = some (d, p')) (hji : j ≠ i)
    (hp' : p'.locked = true) : w'.locked d.object = true := by
  have hbefore := hinv.locked j d p' hj hp'
  rcases IssueStage.next_cases hnext with
    ⟨rfl, -, -⟩ | ⟨rfl, hp, -⟩ | ⟨b, heq, -, -⟩ | ⟨record, rfl, -, -⟩ | ⟨ho, -, -⟩
  · obtain ⟨-, rfl⟩ := heffect
    show Function.update w.locked c.object true d.object = true
    by_cases hobject : d.object = c.object
    · rw [hobject, Function.update_self]
    · rw [Function.update_of_ne hobject, hbefore]
  · have hobject : d.object ≠ c.object := fun heq =>
      hji (hinv.exclusive j i d c p' p hj hi hp' hp heq)
    obtain ⟨-, rfl⟩ := heffect
    show Function.update w.locked c.object false d.object = true
    rw [Function.update_of_ne hobject, hbefore]
  · obtain rfl : o = .leaseRecords (.binding b) := congrArg Sigma.fst heq
    rw [locked_of_effect heffect (by simp), hbefore]
  · rw [locked_of_effect heffect (by simp), hbefore]
  · rw [locked_of_effect heffect ho, hbefore]

theorem move_locked_self (hinv : CustodyInv w g h) (hi : g i = some (c, p))
    (hnext : p.next c.object o r = some q) (heffect : w.Effect sha256 o r w')
    (hq : q.locked = true) : w'.locked c.object = true := by
  rcases IssueStage.next_cases hnext with
    ⟨rfl, -, -⟩ | ⟨-, -, rfl⟩ | ⟨b, heq, rfl, -⟩ | ⟨record, rfl, rfl, -⟩ | ⟨ho, -, rfl⟩
  · obtain ⟨-, rfl⟩ := heffect
    exact Function.update_self _ _ _
  · cases hq
  · obtain rfl : o = .leaseRecords (.binding b) := congrArg Sigma.fst heq
    rw [locked_of_effect heffect (by simp)]
    exact hinv.locked i c _ hi rfl
  · rw [locked_of_effect heffect (by simp)]
    exact hinv.locked i c _ hi rfl
  · rw [locked_of_effect heffect ho]
    exact hinv.locked i c _ hi hq

theorem move_exclusive (hinv : CustodyInv w g h) (hi : g i = some (c, p))
    (hnext : p.next c.object o r = some q) (heffect : w.Effect sha256 o r w') {j : ℕ}
    {d : LeaseServiceCall} {p' : IssueStage} (hj : g j = some (d, p')) (hji : j ≠ i)
    (hp' : p'.locked = true) (hq : q.locked = true) : d.object ≠ c.object := by
  intro hobject
  rcases locked_before hnext hq with hp | rfl
  · exact hji (hinv.exclusive j i d c p' p hj hi hp' hp hobject)
  · have hbefore := hinv.locked j d p' hj hp'
    obtain ⟨hfree, -⟩ := heffect
    rw [hobject] at hbefore
    exact absurd (hbefore.symm.trans hfree) (by simp)

/-- A stored record makes every other call that found none an overtaken one. -/
theorem move_fresh (hinv : CustodyInv w g h) (hi : g i = some (c, p))
    (hnext : p.next c.object o r = some q) (heffect : w.Effect sha256 o r w') {j : ℕ}
    {d : LeaseServiceCall} {b : String} (hj : g j = some (d, .checked b)) (hji : j ≠ i)
    (hrows : rowsFor w'.leaseRows b ≠ 0) : Overtaken (h ++ [⟨i, c, o, r⟩]) j d.object b := by
  by_cases hstored : storedFor o r = some b
  · obtain ⟨lookup, hmem, hthread, hop⟩ := hinv.searched j d b hj
    obtain ⟨h₁, h₂, rfl⟩ := List.append_of_mem hmem
    have hp : p.locked = true := by
      rcases IssueStage.next_cases hnext with
        ⟨rfl, -, -⟩ | ⟨rfl, -, -⟩ | ⟨b, heq, -, -⟩ | ⟨record, rfl, rfl, -⟩ | ⟨-, hnone, -⟩
      · cases hstored
      · cases hstored
      · obtain rfl : o = .leaseRecords (.binding b) := congrArg Sigma.fst heq
        cases hstored
      · rfl
      · rw [hnone] at hstored
        cases hstored
    have hobject : c.object ≠ d.object := fun heq =>
      hji (hinv.exclusive j i d c _ p hj hi rfl hp heq.symm)
    exact ⟨h₁, lookup, h₂ ++ [⟨i, c, o, r⟩], by simp, hthread, hop, ⟨i, c, o, r⟩, by simp, hstored,
      hobject⟩
  · have hsame := rowsFor_of_effect heffect (b := b)
    rw [if_neg hstored, Nat.add_zero] at hsame
    exact (hinv.fresh j d b hj (hsame ▸ hrows)).append _

/-- **The step lemma.** A permitted move of a call that was not overtaken keeps the invariant. -/
theorem move (hinv : CustodyInv w g h) (hi : g i = some (c, p))
    (hok : ∀ b, storedFor o r = some b → ¬ Overtaken h i c.object b)
    (hnext : p.next c.object o r = some q) (heffect : w.Effect sha256 o r w') :
    CustodyInv w' (Function.update g i (some (c, q))) (h ++ [⟨i, c, o, r⟩]) := by
  have hself : ∀ {d p'}, Function.update g i (some (c, q)) i = some (d, p') → c = d ∧ q = p' := by
    intro d p' hj
    rw [Function.update_self] at hj
    exact Prod.mk.inj (Option.some.inj hj)
  constructor
  · intro j d p' hj hp'
    by_cases hji : j = i
    · subst hji
      obtain ⟨rfl, rfl⟩ := hself hj
      exact hinv.move_locked_self hi hnext heffect hp'
    · rw [Function.update_of_ne hji] at hj
      exact hinv.move_locked hi hnext heffect hj hji hp'
  · intro j k d d' p₁ p₂ hj hk hp₁ hp₂ hobject
    by_cases hji : j = i
    · subst hji
      obtain ⟨rfl, rfl⟩ := hself hj
      by_contra hne
      rw [Function.update_of_ne (Ne.symm hne)] at hk
      exact hinv.move_exclusive hi hnext heffect hk (Ne.symm hne) hp₂ hp₁ hobject.symm
    · rw [Function.update_of_ne hji] at hj
      by_cases hki : k = i
      · subst hki
        obtain ⟨rfl, rfl⟩ := hself hk
        exact absurd hobject (hinv.move_exclusive hi hnext heffect hj hji hp₁ hp₂)
      · rw [Function.update_of_ne hki] at hk
        exact hinv.exclusive j k d d' p₁ p₂ hj hk hp₁ hp₂ hobject
  · intro j d b hj
    by_cases hji : j = i
    · subst hji
      obtain ⟨rfl, rfl⟩ := hself hj
      rcases IssueStage.next_cases hnext with
        ⟨-, -, hq⟩ | ⟨-, -, hq⟩ | ⟨b', heq, -, hq⟩ | ⟨record, -, -, hq⟩ | ⟨-, -, rfl⟩
      · cases hq
      · cases hq
      · obtain rfl := IssueStage.checked.inj hq
        exact ⟨⟨j, c, o, r⟩, by simp, rfl, congrArg Sigma.fst heq⟩
      · cases hq
      · obtain ⟨lookup, hmem, hlookup⟩ := hinv.searched j c b hi
        exact ⟨lookup, List.mem_append_left _ hmem, hlookup⟩
    · rw [Function.update_of_ne hji] at hj
      obtain ⟨lookup, hmem, hlookup⟩ := hinv.searched j d b hj
      exact ⟨lookup, List.mem_append_left _ hmem, hlookup⟩
  · intro j d b hj hrows
    by_cases hji : j = i
    · subst hji
      obtain ⟨rfl, rfl⟩ := hself hj
      rcases IssueStage.next_cases hnext with
        ⟨-, -, hq⟩ | ⟨-, -, hq⟩ | ⟨b', heq, -, hq⟩ | ⟨record, -, -, hq⟩ | ⟨-, hnone, rfl⟩
      · cases hq
      · cases hq
      · -- the lookup itself: it was answered with no row
        obtain rfl := IssueStage.checked.inj hq
        obtain ⟨rfl, hr⟩ := Sigma.mk.inj heq
        obtain rfl := eq_of_heq hr
        have hfound : foundFor (.leaseRecords (.binding b)) (.ok []) = some [] := rfl
        obtain ⟨b', hop, hlength⟩ := length_foundFor heffect hfound
        obtain rfl : b = b' := by simpa using hop
        rw [rowsFor_of_effect heffect, ← hlength] at hrows
        exact absurd rfl hrows
      · cases hq
      · have hsame := rowsFor_of_effect heffect (b := b)
        rw [hnone, if_neg (by simp), Nat.add_zero] at hsame
        exact (hinv.fresh j c b hi (hsame ▸ hrows)).append _
    · rw [Function.update_of_ne hji] at hj
      exact hinv.move_fresh hi hnext heffect hj hji hrows
  · intro b
    rw [rowsFor_of_effect heffect]
    by_cases hstored : storedFor o r = some b
    · have hchecked : p = .checked b := by
        rcases IssueStage.next_cases hnext with
          ⟨rfl, -, -⟩ | ⟨rfl, -, -⟩ | ⟨b', heq, -, -⟩ | ⟨record, rfl, rfl, -⟩ | ⟨-, hnone, -⟩
        · cases hstored
        · cases hstored
        · obtain rfl : o = .leaseRecords (.binding b') := congrArg Sigma.fst heq
          cases hstored
        · simp only [storedFor] at hstored
          split at hstored
          · rw [Option.some.inj hstored]
          · cases hstored
        · rw [hnone] at hstored
          cases hstored
      have hnone : rowsFor w.leaseRows b = 0 := by
        by_contra hrows
        exact hok b hstored (hinv.fresh i c b (hchecked ▸ hi) hrows)
      rw [hnone, if_pos hstored]
    · rw [if_neg hstored]
      exact hinv.once b
  · intro e he rows hrows
    rcases List.mem_append.mp he with he | he
    · exact hinv.found e he rows hrows
    · obtain rfl : e = ⟨i, c, o, r⟩ := by simpa using he
      obtain ⟨b, -, hlength⟩ := length_foundFor heffect hrows
      rw [hlength]
      exact hinv.once b

end CustodyInv

/-- A record file with at most one record for each binding. -/
def OnePerBinding (w : GhostWalkState) : Prop := ∀ b, rowsFor w.leaseRows b ≤ 1

theorem localInvariant_custody {iso : Iso8601} {sha256 : Json → String} :
    (leaseServiceSystem iso sha256).LocalInvariant OnePerBinding NotOvertaken anyServiceReply
      (fun c stage => stage.next c.object) (fun _ => .outside) CustodyInv where
  initial := fun w hw => by
    constructor
    case once => exact hw
    all_goals simp
  start := fun w g h i c hinv _ => hinv.start
  admitted := fun _ _ _ _ _ _ _ _ _ _ _ _ => trivial
  move := fun s g i c p o r q w' hinv hi hok hnext heffect => hinv.move hi hok hnext heffect

/-- MAIN: **at most one lease record for each executable binding, while no call is overtaken.** For
any number of service objects over one ledger, in any interleaving of their calls and wherever a
call dies: if no call stores a record for a binding after a call of another object stored one since
its own lookup, the record file holds at most one record for each binding, and no lookup for a
binding ever finds a second record.
SOURCE: macro_action_lease_service.py:529-618, 788-797 -/
theorem one_lease_per_binding {iso : Iso8601} {sha256 : Json → String}
    {s : Pool GhostWalkOp.Reply PyError LeaseServiceResult GhostWalkState LeaseServiceCall}
    (hs : (leaseServiceSystem iso sha256).Reachable OnePerBinding NotOvertaken s) :
    (∀ b, rowsFor s.world.leaseRows b ≤ 1) ∧
      ∀ e ∈ s.history, ∀ rows, foundFor e.op e.reply = some rows → rows.length ≤ 1 := by
  obtain ⟨g, hinv, -⟩ := hs.locally localInvariant_custody obeys_leaseServiceCall
  exact ⟨hinv.once, hinv.found⟩

/-! ### Two service objects that overlap -/

/-- The ledger directory of the lease of the first hour, before it is issued. -/
def hourlyDesk : GhostWalkState := { hourlyCustody with leaseRows := [] }

/-- A request for the lease of the first hour to a service object. -/
def hourlyIssue (object : ℕ) : LeaseServiceCall :=
  .issue ⟨object, [hourlyPolicy], emptySha256⟩
    ⟨emptySha256, emptySha256, emptySha256, emptySha256, emptySha256, emptySha256⟩

/-- The environment of the service: the ports confirm the binding and the epoch, and every operation
succeeds. -/
def deskEnvironment : (leaseServiceSystem hourlyIso oneSha256).Environment :=
  ghostWalkEnvironment oneSha256 (LeaseServiceCall.body hourlyIso oneSha256)
    (.ok ⟨"draft.txt", emptySha256⟩) .stored

/-- No record and no lock. -/
def deskInitial :
    Pool GhostWalkOp.Reply PyError LeaseServiceResult GhostWalkState LeaseServiceCall :=
  System.initial hourlyDesk

/-- Two requests to one service object, one after another. -/
def patientRun :
    Pool GhostWalkOp.Reply PyError LeaseServiceResult GhostWalkState LeaseServiceCall :=
  let s := (leaseServiceSystem hourlyIso oneSha256).begin 1 (hourlyIssue 0) <|
    (leaseServiceSystem hourlyIso oneSha256).begin 0 (hourlyIssue 0) deskInitial
  deskEnvironment.turn 1 20 (deskEnvironment.turn 0 20 s)

/-- Only calls of the first object have done anything. -/
def OneObject
    (s : Pool GhostWalkOp.Reply PyError LeaseServiceResult GhostWalkState LeaseServiceCall) :
    Prop :=
  (∀ e ∈ s.history, e.call.object = 0) ∧ ∀ i c p, s.threads i = .live c p → c.object = 0

/-- Calls of one object overtake nobody. -/
theorem oneObject_keeps
    (s : Pool GhostWalkOp.Reply PyError LeaseServiceResult GhostWalkState LeaseServiceCall)
    (i : ℕ) (c : LeaseServiceCall) (o : GhostWalkOp)
    (k : o.Reply → GhostWalkProg LeaseServiceResult) (r : o.Reply) (hP : OneObject s)
    (hlive : s.threads i = .live c (.op o k)) (_ : deskEnvironment.answer s.world o = some r) :
    NotOvertaken s ⟨i, c, o, r⟩ ∧ OneObject {
      world := deskEnvironment.after s.world o r
      threads := Function.update s.threads i (.live c (k r))
      history := s.history ++ [⟨i, c, o, r⟩] } := by
  have hc : c.object = 0 := hP.2 i c _ hlive
  refine ⟨?_, ?_, ?_⟩
  · rintro b - ⟨h₁, lookup, h₂, hsplit, -, -, e, he, -, hobject⟩
    refine hobject ((hP.1 e ?_).trans hc.symm)
    rw [hsplit]
    simp [he]
  · intro e he
    rcases List.mem_append.mp he with he | he
    · exact hP.1 e he
    · obtain rfl : e = ⟨i, c, o, r⟩ := by simpa using he
      exact hc
  · intro j d p hj
    by_cases hji : j = i
    · subst hji
      simp only [Function.update_self, Thread.live.injEq] at hj
      rw [← hj.1]
      exact hc
    · simp only [Function.update_of_ne hji] at hj
      exact hP.2 j d p hj

theorem reachable_patientRun :
    (leaseServiceSystem hourlyIso oneSha256).Reachable OnePerBinding NotOvertaken patientRun := by
  have hstart : (leaseServiceSystem hourlyIso oneSha256).Reachable OnePerBinding NotOvertaken
      deskInitial := .initial hourlyDesk fun b => Nat.zero_le 1
  have hbegun := (hstart.begin (i := 0) (c := hourlyIssue 0) rfl).begin (i := 1)
    (c := hourlyIssue 0) rfl
  have hone : OneObject ((leaseServiceSystem hourlyIso oneSha256).begin 1 (hourlyIssue 0)
      ((leaseServiceSystem hourlyIso oneSha256).begin 0 (hourlyIssue 0) deskInitial)) := by
    refine ⟨fun e he => (by cases he), fun j c p hj => ?_⟩
    by_cases hj1 : j = 1
    · subst hj1
      obtain ⟨rfl, -⟩ := Thread.live.inj hj
      rfl
    by_cases hj0 : j = 0
    · subst hj0
      obtain ⟨rfl, -⟩ := Thread.live.inj hj
      rfl
    · simp only [System.begin, Function.update_of_ne hj1, Function.update_of_ne hj0] at hj
      cases hj
  obtain ⟨hfirst, hone⟩ := hbegun.turn_of_keeps hone deskEnvironment oneObject_keeps 0 20
  exact (hfirst.turn_of_keeps hone deskEnvironment oneObject_keeps 1 20).1

theorem one_lease_per_binding_patient : rowsFor patientRun.world.leaseRows emptySha256 ≤ 1 :=
  (one_lease_per_binding reachable_patientRun).1 emptySha256

/-- Two requests to two service objects: the second call is made while the first one stands between
its lookup and its append. A third call asks for the readiness of the target afterwards. -/
def raceRun :
    Pool GhostWalkOp.Reply PyError LeaseServiceResult GhostWalkState LeaseServiceCall :=
  let s := (leaseServiceSystem hourlyIso oneSha256).begin 2
    (.readiness ⟨2, [hourlyPolicy], emptySha256⟩ emptySha256) <|
    (leaseServiceSystem hourlyIso oneSha256).begin 1 (hourlyIssue 1) <|
    (leaseServiceSystem hourlyIso oneSha256).begin 0 (hourlyIssue 0) deskInitial
  let s := deskEnvironment.turn 1 20 (deskEnvironment.turn 0 6 s)
  deskEnvironment.turn 2 20 (deskEnvironment.turn 0 20 s)

/-- The exception a thread is about to end with. -/
def raising : Thread GhostWalkOp.Reply PyError LeaseServiceResult LeaseServiceCall → Option PyError
  | .live _ (.raise e) => some e
  | _ => none

/-- MAIN: **one binding gets two lease records**, and the next lookup for it raises.
SOURCE: macro_action_lease_service.py:552-618, 788-797 -/
theorem two_leases_for_binding_race :
    (leaseServiceSystem hourlyIso oneSha256).Reachable OnePerBinding (fun _ _ => True) raceRun ∧
      rowsFor raceRun.world.leaseRows emptySha256 = 2 ∧
      raising (raceRun.threads 2) = some multipleLeasesErr := by
  refine ⟨?_, by decide +kernel⟩
  have hstart : (leaseServiceSystem hourlyIso oneSha256).Reachable OnePerBinding (fun _ _ => True)
      deskInitial := .initial hourlyDesk fun b => Nat.zero_le 1
  have hbegun := ((hstart.begin (i := 0) (c := hourlyIssue 0) rfl).begin (i := 1)
    (c := hourlyIssue 1) rfl).begin (i := 2)
      (c := .readiness ⟨2, [hourlyPolicy], emptySha256⟩ emptySha256) rfl
  have hturn := ((hbegun.turn deskEnvironment (fun _ _ _ _ _ _ => trivial) 0 6).turn
    deskEnvironment (fun _ _ _ _ _ _ => trivial) 1 20)
  exact ((hturn.turn deskEnvironment (fun _ _ _ _ _ _ => trivial) 0 20).turn
    deskEnvironment (fun _ _ _ _ _ _ => trivial) 2 20)

end PhiOS.Analysis
