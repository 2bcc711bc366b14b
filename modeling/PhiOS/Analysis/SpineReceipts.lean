import PhiOS.Analysis.SpineEntry

/-!
# What an execution receipt tells about the handler

The account of a run is what the handler answered, how the later appends ended, and which action
and execution receipts are in the ledgers. An execution receipt that claims an entry is truthful
when its status is what the handler did and its action receipt is stored with the same outcome.

The success receipt is appended inside the `try` block of the handler call, so an exception of
that append is taken for one of the handler. `account_truthful_iff` says exactly when this shows:
the handler returned, the append raised, and every later append of the run went through.
-/

set_option autoImplicit false

namespace PhiOS.Analysis

open Interaction PhiOSSpine

/-- What a run has done: the answer of the handler, the ends of the appends made after it, and
the receipts that are in the ledgers. -/
structure Account where
  handler : Option (Except PyError ArtifactResult) := none
  replies : List AppendReply := []
  actions : List ActionReceipt := []
  executions : List ExecutionReceipt := []

namespace Account

/-- The end of one more append, which only counts after the handler's answer. -/
def reply (acc : Account) (r : AppendReply) : Account :=
  { acc with replies := if acc.handler.isSome then acc.replies ++ [r] else acc.replies }

/-- One event of the run. -/
def step (acc : Account) : (o : SpineOp) → o.Reply → Account
  | .uuid4, _ | .now, _ => acc
  | .execute _ _, r => { acc with handler := some r }
  | .mandalaAppend (.action a), r =>
      { acc.reply r with actions := acc.actions ++ if AppendReply.isStored r then [a] else [] }
  | .mandalaAppend _, r => acc.reply r
  | .ledgerAppend e, r =>
      { acc.reply r with executions := acc.executions ++ if AppendReply.isStored r then [e] else [] }

/-- The receipt `r` tells what the handler did: its status is `succeeded` exactly when the handler
returned, `outcome_unknown` exactly when it raised `OutcomeUnknownError`, and `failed` only when it
raised something else; and its action receipt is stored with the same outcome. -/
def Tells (acc : Account) (r : ExecutionReceipt) : Prop :=
  (r.executionStatus = .succeeded ↔ ∃ a, acc.handler = some (.ok a)) ∧
    (r.executionStatus = .outcomeUnknown ↔
      ∃ e, acc.handler = some (.error e) ∧ e.cls = .outcomeUnknownError) ∧
    (r.executionStatus = .failed →
      ∃ e, acc.handler = some (.error e) ∧ e.cls ≠ .outcomeUnknownError) ∧
    ∃ a ∈ acc.actions, r.actionReceiptId = some a.receiptId ∧ a.outcome = r.executionStatus

/-- Every stored execution receipt that claims an entry tells what the handler did. -/
def Truthful (acc : Account) : Prop :=
  ∀ r ∈ acc.executions, r.executorEntered = true → acc.Tells r

/-- The handler returned, the append of the receipt of its success raised an `Exception`, the
next two appends went through, and the record of the one after them is in the file. -/
def Confounded (acc : Account) : Prop :=
  (∃ a, acc.handler = some (.ok a)) ∧ ∃ first f last rest,
    acc.replies = first :: .stored :: .stored :: last :: rest ∧
      first.result = .error f ∧ f.1.cls.isException = true ∧ last.isStored = true

/-- The two agree. -/
def Good (acc : Account) : Prop := acc.Truthful ↔ ¬ acc.Confounded

open Classical in
/-- The protocol of a run whose account stays good. -/
noncomputable def next (acc : Account) (o : SpineOp) (r : o.Reply) : Option Account :=
  if (acc.step o r).Good then some (acc.step o r) else none

end Account

/-- The account of the events of a run. -/
def account (t : SpineTrace) : Account := t.foldl (fun acc e => acc.step e.1 e.2) {}

/-- Nothing has been asked of the handler, and no stored execution receipt claims an entry. -/
structure Account.Quiet (acc : Account) : Prop where
  handler : acc.handler = none
  replies : acc.replies = []
  executions : ∀ r ∈ acc.executions, r.executorEntered = false

/-- Without an execution receipt that claims an entry, an account is good unless the
handler returned and four appends followed. -/
theorem Account.good_of_silent {acc : Account}
    (hexec : ∀ r ∈ acc.executions, r.executorEntered = false) (hno : ¬ acc.Confounded) :
    acc.Good :=
  ⟨fun _ => hno, fun _ r hr hentered => by simp [hexec r hr] at hentered⟩

theorem Account.Quiet.good {acc : Account} (h : acc.Quiet) : acc.Good :=
  good_of_silent h.executions fun ⟨⟨a, ha⟩, _⟩ => by simp [h.handler] at ha

theorem Account.Quiet.mandala {acc : Account} (h : acc.Quiet) (m : MandalaReceipt)
    (r : AppendReply) : (acc.step (.mandalaAppend m) r).Quiet := by
  cases m <;> exact ⟨h.handler, by simp [step, reply, h.handler, h.replies], h.executions⟩

theorem Account.Quiet.ledger {acc : Account} (h : acc.Quiet) {e : ExecutionReceipt}
    (he : e.executorEntered = false) (r : AppendReply) : (acc.step (.ledgerAppend e) r).Quiet := by
  refine ⟨h.handler, by simp [step, reply, h.handler, h.replies], fun x hx => ?_⟩
  rcases List.mem_append.mp hx with hx | hx
  · exact h.executions x hx
  · split at hx <;> simp_all

/-- The append of the execution receipt of an entered run keeps the account good, if
the receipt tells what the handler did and the appends are not confounded. -/
theorem Account.good_ledger_of_tells {acc : Account} {e : ExecutionReceipt} {r : AppendReply}
    (hexec : ∀ x ∈ acc.executions, x.executorEntered = false)
    (htells : acc.Tells e) (hno : ¬ (acc.step (.ledgerAppend e) r).Confounded) :
    (acc.step (.ledgerAppend e) r).Good := by
  refine ⟨fun _ => hno, fun _ x hx hentered => ?_⟩
  rcases List.mem_append.mp hx with hx | hx
  · simp [hexec x hx] at hentered
  · obtain rfl : x = e := by split at hx <;> simp_all
    exact htells

/-- The handler answered `h`, the appends since then ended as `rs`, and no stored execution receipt
claims an entry yet. -/
structure Account.Entered (acc : Account) (h : Except PyError ArtifactResult)
    (rs : List AppendReply) : Prop where
  handler : acc.handler = some h
  replies : acc.replies = rs
  executions : ∀ r ∈ acc.executions, r.executorEntered = false

theorem Account.Entered.good {acc : Account} {h : Except PyError ArtifactResult}
    {rs : List AppendReply} (hacc : acc.Entered h rs) (hlen : rs.length < 4) : acc.Good := by
  refine good_of_silent hacc.executions ?_
  rintro ⟨-, first, f, last, rest, heq, -⟩
  simp [← hacc.replies, heq] at hlen
  omega

theorem Account.Entered.mandala {acc : Account} {h : Except PyError ArtifactResult}
    {rs : List AppendReply} (hacc : acc.Entered h rs) (m : MandalaReceipt) (r : AppendReply) :
    (acc.step (.mandalaAppend m) r).Entered h (rs ++ [r]) := by
  cases m <;>
    exact ⟨hacc.handler, by simp [step, reply, hacc.handler, hacc.replies], hacc.executions⟩

theorem Account.Entered.good_of_tells {acc : Account} {h : Except PyError ArtifactResult}
    {rs : List AppendReply} (hacc : acc.Entered h rs) {e : ExecutionReceipt} (r : AppendReply)
    (htells : acc.Tells e)
    (hno : (∀ a, h ≠ .ok a) ∨ ∃ rest, rs = .stored :: rest) :
    (acc.step (.ledgerAppend e) r).Good := by
  refine good_ledger_of_tells hacc.executions htells ?_
  rintro ⟨⟨a, ha⟩, first, f, last, rest, heq, hfirst, -⟩
  have ha : h = .ok a := by simpa [step, reply, hacc.handler] using ha
  rcases hno with hno | ⟨rest', rfl⟩
  · exact hno a ha
  · simp [step, reply, hacc.handler, hacc.replies] at heq
    simp [← heq.1, AppendReply.result] at hfirst

/-- The last append of a run that took the fault of the success receipt for one of the
handler: the account turns bad exactly when the record is in the file. -/
theorem Account.Entered.good_of_confused {acc : Account} {a : ArtifactResult}
    {first : AppendReply} {f : StorageFault} (hacc : acc.Entered (.ok a) [first, .stored, .stored])
    (hfirst : first.result = .error f) (hexception : f.1.cls.isException = true)
    {e : ExecutionReceipt} (hentered : e.executorEntered = true)
    (hfailed : e.executionStatus = .failed) (r : AppendReply) :
    (acc.step (.ledgerAppend e) r).Good := by
  have hreplies : (acc.step (.ledgerAppend e) r).replies = [first, .stored, .stored, r] := by
    simp [step, reply, hacc.handler, hacc.replies]
  by_cases hr : r.isStored = true
  · refine iff_of_false (fun htruthful => ?_) (not_not_intro ?_)
    · have htells := htruthful e (by simp [step, hr]) hentered
      have : e.executionStatus = .succeeded := htells.1.mpr ⟨a, hacc.handler⟩
      simp [hfailed] at this
    · exact ⟨⟨a, hacc.handler⟩, first, f, r, [], hreplies, hfirst, hexception, hr⟩
  · refine good_of_silent (fun x hx => ?_) ?_
    · rcases List.mem_append.mp hx with hx | hx
      · exact hacc.executions x hx
      · simp [hr] at hx
    · rintro ⟨-, first', f', last, rest, heq, -, -, hlast⟩
      simp [hreplies] at heq
      simp [← heq.2.1, hr] at hlast

section Obeys

variable {capabilityId : String} {payload : Json} {spine : PhiOSSpine}
  {provenance : Option GovernedProvenance} {plan : PhiPlan} {capability : Capability}
  {packet : MandalaPacket} {gate : GateReceipt} {decision : PermissionDecision}
  {receipt : ExecutionReceipt} {acc : Account}

/-- Any reply is possible. -/
abbrev anyReply : (o : SpineOp) → o.Reply → Prop := fun _ _ => True

/-- Nothing is asked of how the run ends. -/
abbrev anyEnd {α : Type} : Account → α → Prop := fun _ _ => True

theorem Account.ignores (h : acc.Good) : Ignores Account.next acc := by
  constructor <;> intro r <;> simp [Account.next, Account.step, h]

/-- SOURCE: mandala/ledger.py:16-17 -/
theorem obeys_mandalaAppend_account {m : MandalaReceipt}
    (h : ∀ reply : AppendReply, (acc.step (.mandalaAppend m) reply).Good) :
    (mandalaAppend m).Obeys anyReply Account.next
      (fun acc' _ => acc' = acc.step (.mandalaAppend m) AppendReply.stored) anyEnd acc := by
  refine obeys_mandalaAppend fun reply _ => ⟨acc.step (.mandalaAppend m) reply, ?_, ?_, ?_⟩
  · simp [Account.next, h reply]
  · cases reply <;> simp [AppendReply.result]
  · exact fun _ _ => trivial

theorem obeys_finish_account {action : ActionReceipt}
    (h : ∀ reply : AppendReply,
      (acc.step (.ledgerAppend (receipt.recordAction action)) reply).Good) :
    (finish receipt action).Obeys anyReply Account.next anyEnd anyEnd acc := by
  refine Prog.Obeys.bind (Q := anyEnd) (obeys_ledgerAppend fun reply _ =>
    ⟨acc.step (.ledgerAppend (receipt.recordAction action)) reply, ?_, ?_, ?_⟩) ?_
  · exact if_pos (h reply)
  · exact fun _ => trivial
  · exact fun _ _ => trivial
  · exact fun _ _ _ => trivial

theorem obeys_mandalaAppend_quiet (h : acc.Quiet) {m : MandalaReceipt} :
    (mandalaAppend m).Obeys anyReply Account.next (fun acc' _ => acc'.Quiet) anyEnd acc :=
  (obeys_mandalaAppend_account fun reply => (h.mandala m reply).good).mono
    (fun _ _ heq => heq ▸ h.mandala m _) fun _ _ _ => trivial

/-- SOURCE: runtime.py:533-555, 582-605 -/
theorem obeys_denied_account (h : acc.Quiet) {grant : List String}
    {sideEffect : List (String × String)} (hentered : receipt.executorEntered = false) :
    (actionReceipt packet gate.receiptId .blocked grant sideEffect .notExecuted [] >>=
      fun action => mandalaAppend (.action action) >>= fun _ => finish receipt action).Obeys
      anyReply Account.next anyEnd anyEnd acc := by
  refine Prog.Obeys.bind (obeys_actionReceipt (Account.ignores h.good)) ?_
  rintro acc action ⟨rfl, -⟩
  refine Prog.Obeys.bind (obeys_mandalaAppend_quiet h) ?_
  rintro acc _ h
  exact obeys_finish_account fun reply => (h.ledger (by exact hentered) reply).good

theorem obeys_mandalaAppend_entered_account {h : Except PyError ArtifactResult}
    {rs : List AppendReply} (hacc : acc.Entered h rs) (hlen : rs.length < 3) {m : MandalaReceipt} :
    (mandalaAppend m).Obeys anyReply Account.next
      (fun acc' _ => acc' = acc.step (.mandalaAppend m) AppendReply.stored) anyEnd acc :=
  obeys_mandalaAppend_account fun reply =>
    (hacc.mandala m reply).good (by simp; omega)

/-- What the `try` block leaves behind. -/
theorem obeys_tryExecute_account (hquiet : acc.Quiet) (hentered : receipt.executorEntered = true) :
    (tryExecute plan capability packet gate decision receipt).Obeys anyReply Account.next
      (fun acc' res => match res with
        | .ok (r, action) => r.executorEntered = true ∧ r.executionStatus = .succeeded ∧
            action ∈ acc'.actions ∧ action.outcome = .succeeded ∧
            ∃ a, acc'.Entered (.ok a) [.stored]
        | .error (r, e) => r.executorEntered = true ∧ (acc'.Entered (.error e) [] ∨
            ∃ a f first, e = f.1 ∧ first.result = .error f ∧ acc'.Entered (.ok a) [first]))
      anyEnd acc := by
  have hacc : ∀ h, (acc.step (.execute capability.id plan.payload) h).Entered h [] := fun h =>
    ⟨rfl, hquiet.replies, hquiet.executions⟩
  refine Prog.obeys_call_bind fun h _ =>
    ⟨acc.step (.execute capability.id plan.payload) h, if_pos ((hacc h).good (by simp)), ?_⟩
  cases h with
  | error e => exact ⟨hentered, .inl (hacc _)⟩
  | ok artifact =>
      refine Prog.Obeys.bind (obeys_actionReceipt (Account.ignores ((hacc _).good (by simp)))) ?_
      rintro l action ⟨rfl, houtcome⟩
      have hnext := fun reply => (hacc (.ok artifact)).mandala (.action action) reply
      refine Prog.obeys_call_bind fun (reply : AppendReply) _ =>
        ⟨_, if_pos ((hnext reply).good (by simp)), ?_⟩
      cases reply with
      | stored =>
          exact ⟨hentered, rfl, by simp [Account.step, AppendReply.isStored], houtcome, artifact,
            hnext .stored⟩
      | storedRaised f =>
          exact ⟨hentered, .inr ⟨artifact, f, .storedRaised f, rfl, rfl, hnext _⟩⟩
      | lost f => exact ⟨hentered, .inr ⟨artifact, f, .lost f, rfl, rfl, hnext _⟩⟩

/-- What the `except` clauses leave behind.
SOURCE: runtime.py:636-683 -/
theorem obeys_exceptClauses_account {h : Except PyError ArtifactResult} {rs : List AppendReply}
    {e : PyError} (hacc : acc.Entered h rs) (hlen : rs.length < 2)
    (hentered : receipt.executorEntered = true) :
    (exceptClauses capability packet gate decision receipt e).Obeys anyReply Account.next
      (fun acc' res => res.1.executorEntered = true ∧ res.2 ∈ acc'.actions ∧
        res.2.outcome = res.1.executionStatus ∧
        ((e.cls = .outcomeUnknownError ∧ res.1.executionStatus = .outcomeUnknown ∧
            acc'.Entered h (rs ++ [.stored])) ∨
          (e.cls ≠ .outcomeUnknownError ∧ e.cls.isException = true ∧
            res.1.executionStatus = .failed ∧ acc'.Entered h (rs ++ [.stored, .stored]))))
      anyEnd acc := by
  unfold exceptClauses
  split
  · rename_i hunknown
    refine Prog.Obeys.bind (obeys_actionReceipt (Account.ignores (hacc.good (by omega)))) ?_
    rintro acc action ⟨rfl, houtcome⟩
    refine Prog.Obeys.bind (obeys_mandalaAppend_entered_account hacc (by omega)) ?_
    rintro l _ rfl
    exact ⟨hentered, by simp [Account.step, AppendReply.isStored], houtcome,
      .inl ⟨hunknown, rfl, hacc.mandala _ _⟩⟩
  · rename_i hknown
    split
    · rename_i hexception
      refine Prog.Obeys.bind (obeys_actionReceipt (Account.ignores (hacc.good (by omega)))) ?_
      rintro acc action ⟨rfl, houtcome⟩
      refine Prog.Obeys.bind (obeys_mandalaAppend_entered_account hacc (by omega)) ?_
      rintro l _ rfl
      have hacc' := hacc.mandala (.action action) .stored
      refine Prog.Obeys.bind
        (obeys_receiptMeta (Account.ignores (hacc'.good (by simp; omega)))) ?_
      rintro l envelope ⟨rfl, -⟩
      refine Prog.Obeys.bind (obeys_mandalaAppend_entered_account hacc' (by simp; omega)) ?_
      rintro l _ rfl
      refine ⟨hentered, by simp [Account.step, Account.reply, AppendReply.isStored], houtcome,
        .inr ⟨hknown, hexception, rfl, ?_⟩⟩
      simpa using hacc'.mandala _ .stored
    · exact trivial

/-- SOURCE: runtime.py:607-687 -/
theorem obeys_runAllowed_account (hquiet : acc.Quiet) :
    (runAllowed plan capability packet gate decision receipt).Obeys anyReply Account.next
      anyEnd anyEnd acc := by
  refine Prog.Obeys.bind (obeys_tryExecute_account hquiet rfl) ?_
  rintro acc (⟨r, e⟩ | ⟨r, action⟩) h
  · obtain ⟨hentered, hacc | ⟨a, f, first, rfl, hfirst, hacc⟩⟩ := h
    · -- the handler raised `e`
      refine Prog.Obeys.bind (obeys_exceptClauses_account hacc (by simp) hentered) ?_
      rintro acc ⟨r, action⟩ ⟨hentered, haction, houtcome, hstatus⟩
      dsimp only at haction houtcome hstatus
      rcases hstatus with ⟨hunknown, hstatus, hacc⟩ | ⟨hknown, -, hstatus, hacc⟩
      · refine obeys_finish_account fun reply => hacc.good_of_tells reply ?_ (.inl (by simp))
        exact ⟨by simp [ExecutionReceipt.recordAction, hstatus, hacc.handler],
          by simp [ExecutionReceipt.recordAction, hstatus, hacc.handler, hunknown],
          by simp [ExecutionReceipt.recordAction, hstatus], action, haction, rfl, houtcome⟩
      · refine obeys_finish_account fun reply => hacc.good_of_tells reply ?_ (.inl (by simp))
        exact ⟨by simp [ExecutionReceipt.recordAction, hstatus, hacc.handler],
          by simp [ExecutionReceipt.recordAction, hstatus, hacc.handler, hknown],
          fun _ => ⟨e, hacc.handler, hknown⟩, action, haction, rfl, houtcome⟩
    · -- the handler returned, and the append of its success receipt raised `f`
      refine Prog.Obeys.bind (obeys_exceptClauses_account hacc (by simp) hentered) ?_
      rintro acc ⟨r, action⟩ ⟨hentered, -, -, hstatus⟩
      dsimp only at hentered hstatus
      rcases hstatus with ⟨hunknown, -⟩ | ⟨-, hexception, hstatus, hacc⟩
      · exact absurd hunknown f.2
      · exact obeys_finish_account fun reply =>
          hacc.good_of_confused (e := r.recordAction action) hfirst hexception hentered hstatus reply
  · obtain ⟨hentered, hstatus, haction, houtcome, a, hacc⟩ := h
    refine obeys_finish_account fun reply => hacc.good_of_tells reply ?_ (.inr ⟨[], rfl⟩)
    exact ⟨by simp [ExecutionReceipt.recordAction, hstatus, hacc.handler],
      by simp [ExecutionReceipt.recordAction, hstatus, hacc.handler],
      by simp [ExecutionReceipt.recordAction, hstatus], action, haction, rfl,
      by simp [ExecutionReceipt.recordAction, hstatus, houtcome]⟩

/-- The account of `PhiOSSpine.run` stays good.
SOURCE: runtime.py:495-687 -/
theorem obeys_run_account (hquiet : acc.Quiet) :
    (spine.run capabilityId payload provenance).Obeys anyReply Account.next anyEnd anyEnd acc := by
  refine Prog.Obeys.bind (Q := fun l _ => l = acc)
    (Prog.obeys_ofExcept (fun _ _ => rfl) fun _ _ => trivial) ?_
  rintro acc capability rfl
  refine Prog.Obeys.bind
    (obeys_actionPacket (Account.ignores hquiet.good) spine fun _ => trivial) ?_
  rintro l packet rfl
  refine Prog.Obeys.bind
    (obeys_effectReceipt (Account.ignores hquiet.good) spine fun _ => trivial) ?_
  rintro l effect ⟨rfl, -⟩
  refine Prog.Obeys.bind (obeys_mandalaAppend_quiet hquiet) ?_
  rintro acc _ hquiet
  split
  · refine Prog.Obeys.bind (obeys_gateReceipt (Account.ignores hquiet.good)) ?_
    rintro l gate ⟨rfl, -⟩
    refine Prog.Obeys.bind (obeys_mandalaAppend_quiet hquiet) ?_
    rintro acc _ hquiet
    refine Prog.Obeys.bind
      (obeys_executionReceipt (Account.ignores hquiet.good) spine fun _ => trivial) ?_
    rintro l receipt ⟨rfl, -, -, hentered⟩
    exact obeys_denied_account hquiet hentered
  · refine Prog.Obeys.bind (obeys_gateReceipt (Account.ignores hquiet.good)) ?_
    rintro l gate ⟨rfl, -⟩
    refine Prog.Obeys.bind (obeys_mandalaAppend_quiet hquiet) ?_
    rintro acc _ hquiet
    refine Prog.Obeys.bind
      (obeys_executionReceipt (Account.ignores hquiet.good) spine fun _ => trivial) ?_
    rintro l receipt ⟨rfl, -, -, hentered⟩
    split
    · exact obeys_denied_account hquiet (by exact hentered)
    · exact obeys_runAllowed_account hquiet

end Obeys

/-- An account that followed the protocol is the account of the events. -/
theorem account_of_advance {acc acc' : Account} {t : SpineTrace}
    (h : Prog.advance Account.next acc t = some acc') (hgood : acc.Good) :
    acc' = t.foldl (fun acc e => acc.step e.1 e.2) acc ∧ acc'.Good := by
  induction t generalizing acc with
  | nil =>
      obtain rfl : acc = acc' := by simpa [Prog.advance] using h
      exact ⟨rfl, hgood⟩
  | cons e t ih =>
      rw [Prog.advance, Option.bind_eq_some_iff] at h
      obtain ⟨acc₁, hnext, hrest⟩ := h
      unfold Account.next at hnext
      split at hnext
      · rename_i hgood₁
        obtain rfl := Option.some.inj hnext
        exact ih hrest hgood₁
      · cases hnext

/-- MAIN: **exactly when the execution receipt tells what the handler did.** In every run of
`PhiOSSpine.run`, whatever its handler and its ledgers answer and wherever it is cut, the stored
execution receipts that claim an entry tell what the handler did if and only if it is not so that
the handler returned, the append of the receipt of its success raised an `Exception`, the appends
of the failure receipt and of the abort receipt went through, and the execution receipt reached
the file.
SOURCE: runtime.py:616-687 -/
theorem account_truthful_iff {spine : PhiOSSpine} {capabilityId : String} {payload : Json}
    {provenance : Option GovernedProvenance} {t : SpineTrace} {q : SpineProg ExecutionReceipt}
    (hrun : Prog.Steps (spine.run capabilityId payload provenance) t q) :
    (account t).Truthful ↔ ¬ (account t).Confounded := by
  have hquiet : ({} : Account).Quiet := ⟨rfl, rfl, by simp⟩
  obtain ⟨acc, hadvance, -⟩ := (obeys_run_account hquiet).steps hrun (fun _ _ => trivial)
  obtain ⟨rfl, hgood⟩ := account_of_advance hadvance hquiet.good
  exact hgood

theorem account_truthful_iff_text : (account textTrace).Truthful := by
  refine (account_truthful_iff (Prog.steps_eval answerWell 0 _)).mpr ?_
  rintro ⟨-, first, f, last, rest, heq, -⟩
  change (account textTrace).replies = _ at heq
  have hlen : (account textTrace).replies.length = 2 := rfl
  simp [heq] at hlen

/-- The handler returns, and the append of the receipt of its success raises `OSError`. -/
def answerLost (n : ℕ) : (o : SpineOp) → o.Reply
  | .mandalaAppend (.action a) =>
      if a.outcome = .succeeded then
        AppendReply.lost ⟨⟨.osError, "[Errno 28] No space left on device", []⟩, by decide⟩
      else AppendReply.stored
  | o => answerWell n o

/-- The events of the run whose success receipt is lost. -/
def lostTrace : SpineTrace :=
  ((textSpine.run "commons.text_artifact" textPayload none).eval answerLost 0).1

/-- MAIN: **a returned handler is reported as failed.** One transient fault of the Mandala ledger,
at the receipt of a success, and the stored execution receipt says `failed`.
SOURCE: runtime.py:616-687 -/
theorem success_receipt_lost_text :
    (∃ q, Prog.Steps (textSpine.run "commons.text_artifact" textPayload none) lostTrace q) ∧
      (∃ a, (account lostTrace).handler = some (.ok a)) ∧ ¬ (account lostTrace).Truthful := by
  refine ⟨⟨_, Prog.steps_eval answerLost 0 _⟩, ⟨_, rfl⟩, fun htruthful => ?_⟩
  have hstored : (account lostTrace).executions.map
      (fun r => (r.executorEntered, r.executionStatus)) = [(true, .failed)] := rfl
  obtain ⟨r, hr, hfields⟩ := List.map_eq_singleton_iff.mp hstored
  obtain ⟨hentered, hfailed⟩ := Prod.mk.inj hfields
  have htells := htruthful r (by simp [hr]) hentered
  have hsucceeded : r.executionStatus = .succeeded := htells.1.mpr ⟨_, rfl⟩
  simp [hfailed] at hsucceeded

end PhiOS.Analysis
