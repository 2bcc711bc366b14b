import Mathlib.Order.WithBot
import PhiOS.Analysis.LeaseDeadlines

/-!
# Deadlines that only renewals extend

Each call recovers first, and what it does to the activation and its lease from there on is one of a
few moves, `LeaseMove`. A lease that is stored is bound to the stored activation after every call
that returns; and as long as the activation stays active, no call but a renewal puts the deadline
off, `deadlines_only_renewed`.
-/

set_option autoImplicit false

namespace PhiOS

open Interaction KeyOrder ReflexRuntimeControlPlane

variable {rt : ReflexRuntime} {w w' : ReflexWorld} {epoch : ℕ}

/-- Until when the stored activation is active: unbounded where there is no lease. -/
def ReflexWorld.deadline (w : ReflexWorld) : WithTop ℤ :=
  match w.control .lease with
  | some (.ok lease) => lease.validThroughEpoch
  | _ => ⊤

/-- What a call does to the activation and the lease that its recovery has left: nothing; it leaves no
activation active; there is no lease, as there was none; or a lease of the activation, which ends no
later than the one before unless the call `renews`. -/
inductive LeaseMove (renews : Prop) (w w' : ReflexWorld) : Prop
  | kept (hactivation : w'.control .activation = w.control .activation)
      (hlease : w'.control .lease = w.control .lease)
  | collapsed (hcollapsed : w'.Collapsed) (hbound : w'.LeaseBound)
  | unleased (hlease : w'.control .lease = none) (hbefore : w.control .lease = none)
  | leased {state : ReflexActivationState} {lease : ReflexRuntimeLease}
      (hactivation : w'.control .activation = some (.ok state))
      (hlease : w'.control .lease = some (.ok lease))
      (hbound : lease.activationStateSha256 = state.stateSha256)
      (hends : ¬ renews → ∀ l, w.control .lease = some (.ok l) →
        lease.validThroughEpoch ≤ l.validThroughEpoch)

theorem ReflexWorld.LeaseBound.same (h : w.LeaseBound)
    (hactivation : w'.control .activation = w.control .activation)
    (hlease : w'.control .lease = w.control .lease) : w'.LeaseBound := by
  intro content hcontent
  rw [hlease] at hcontent
  rw [hactivation]
  exact h content hcontent

theorem LeaseMove.leaseBound {renews : Prop} (h : LeaseMove renews w w') (hbound : w.LeaseBound) :
    w'.LeaseBound := by
  cases h with
  | kept hactivation hlease => exact hbound.same hactivation hlease
  | collapsed hcollapsed hbound' => exact hbound'
  | unleased hlease hbefore => exact leaseBound_of_unleased hlease
  | @leased state lease hactivation hlease hsame hends =>
      intro content hcontent
      rw [hlease] at hcontent
      exact ⟨state, lease, hactivation, (Option.some.inj hcontent).symm, hsame⟩

/-- A move that is no renewal and leaves the activation active puts the deadline not off. -/
theorem LeaseMove.deadline_le {renews : Prop} (h : LeaseMove renews w w') (hrenews : ¬ renews)
    (hactive : ¬ w'.Collapsed) : w'.deadline ≤ w.deadline := by
  cases h with
  | kept hactivation hlease =>
      unfold ReflexWorld.deadline
      rw [hlease]
  | collapsed hcollapsed hbound' => exact absurd hcollapsed hactive
  | unleased hlease hbefore =>
      unfold ReflexWorld.deadline
      rw [hlease, hbefore]
  | @leased state lease hactivation hlease hsame hends =>
      have hshort := hends hrenews
      unfold ReflexWorld.deadline
      rw [hlease]
      cases hbefore : w.control .lease with
      | none => exact le_top
      | some content =>
          cases content with
          | error e => exact le_top
          | ok l => exact WithTop.coe_le_coe.mpr (hshort l hbefore)

/-! ## What the ends of the calls change -/

theorem control_of_appendLedger {kind : String} {receipt : Row} {u : Unit}
    (hends : (appendLedger rt kind epoch receipt).Ends ReflexOp.effect w (.ok u) w') {f : ControlFile}
    (hf : f ≠ .ledger) : w'.control f = w.control f := by
  unfold appendLedger at hends
  obtain ⟨entries, w₁, hload, hwrite⟩ := Prog.ends_bind hends
  obtain ⟨rfl, -⟩ := loaded_ledger hload
  rw [ReflexProg.ends_write hwrite]
  exact Function.update_of_ne hf _ _

theorem control_of_write {f : ControlFile} {item : f.Item} {u : Unit}
    (hends : (ReflexProg.write f item).Ends ReflexOp.effect w (.ok u) w') :
    w'.control f = some (.ok item) ∧ ∀ f', f' ≠ f → w'.control f' = w.control f' := by
  rw [ReflexProg.ends_write hends]
  exact ⟨Function.update_self _ _ _, fun f' hf' => Function.update_of_ne hf' _ _⟩

theorem control_of_remove {f : ControlFile} {u : Unit}
    (hends : (ReflexProg.remove f).Ends ReflexOp.effect w (.ok u) w') :
    w'.control f = none ∧ ∀ f', f' ≠ f → w'.control f' = w.control f' := by
  rw [ReflexProg.ends_remove hends]
  exact ⟨Function.update_self _ _ _, fun f' hf' => Function.update_of_ne hf' _ _⟩

theorem control_of_quarantine {f : ControlFile} {digest : Option String}
    (hends : (ReflexProg.quarantine f).Ends ReflexOp.effect w (.ok digest) w') :
    w'.control f = none ∧ ∀ f', f' ≠ f → w'.control f' = w.control f' := by
  rw [ReflexProg.ends_quarantine hends]
  exact ⟨Function.update_self _ _ _, fun f' hf' => Function.update_of_ne hf' _ _⟩

theorem LeaseMove.receipt {renews : Prop} {w₁ : ReflexWorld} (h : LeaseMove renews w w₁)
    {kind : String} {receipt : Row} {u : Unit}
    (hends : (appendLedger rt kind epoch receipt).Ends ReflexOp.effect w₁ (.ok u) w') :
    LeaseMove renews w w' := by
  have hactivation : w'.control .activation = w₁.control .activation :=
    control_of_appendLedger hends (by decide)
  have hlease : w'.control .lease = w₁.control .lease := control_of_appendLedger hends (by decide)
  cases h with
  | kept hactivation₁ hlease₁ =>
      exact .kept (hactivation.trans hactivation₁) (hlease.trans hlease₁)
  | collapsed hcollapsed hbound =>
      exact .collapsed (collapsed_of_same hactivation hcollapsed) (hbound.same hactivation hlease)
  | unleased hlease₁ hbefore => exact .unleased (hlease.trans hlease₁) hbefore
  | leased hactivation₁ hlease₁ hbound hshort =>
      exact .leased (hactivation.trans hactivation₁) (hlease.trans hlease₁) hbound hshort

/-! ## The calls -/

section Calls

variable {renews : Prop} {I : ReflexWorld → Prop}

/-- What a call does: it recovers, and goes on with a move. -/
def RecoversAndMoves (rt : ReflexRuntime) (epoch : ℕ) (renews : Prop) (I : ReflexWorld → Prop)
    (w w' : ReflexWorld) : Prop :=
  ∃ r w₁, (recover rt epoch).Ends ReflexOp.effect w (.ok r) w₁ ∧ I w₁ ∧ LeaseMove renews w₁ w'

theorem moves_of_recover_bind {α : Type} {f : ReflexRecovery → ReflexProg α} {a : α}
    (hf : ∀ r w₁, (recover rt epoch).Ends ReflexOp.effect w (.ok r) w₁ →
      (f r).Ends ReflexOp.effect w₁ (.ok a) w' → LeaseMove renews w₁ w')
    (hends : ((recover rt epoch).bind f).Ends (Prog.within ReflexOp.effect I) w (.ok a) w')
    (hw : I w) : RecoversAndMoves rt epoch renews I w w' := by
  obtain ⟨r, w₁, hrecover, hw₁, hrest⟩ := Prog.ends_within_bind hends hw
  exact ⟨r, w₁, hrecover, hw₁, hf r w₁ hrecover hrest⟩

theorem moves_of_recover {r : ReflexRecovery}
    (hends : (recover rt epoch).Ends (Prog.within ReflexOp.effect I) w (.ok r) w') (hw : I w) :
    RecoversAndMoves rt epoch renews I w w' := by
  obtain ⟨hrecover, hw'⟩ := Prog.ends_within hends hw
  exact ⟨r, w', hrecover, hw', .kept rfl rfl⟩

theorem moves_of_status {status : ReflexControlStatus}
    (hends : (ReflexRuntimeControlPlane.status rt epoch).Ends (Prog.within ReflexOp.effect I) w
      (.ok status) w') (hw : I w) : RecoversAndMoves rt epoch renews I w w' := by
  unfold ReflexRuntimeControlPlane.status at hends
  refine moves_of_recover_bind (fun r w₁ _ hrest => ?_) hends hw
  obtain ⟨policy, -, hrest⟩ := ends_reads_bind (loadPolicy_issues rt trivial) hrest
  obtain ⟨activation, -, hrest⟩ := ends_reads_bind (loadActivation_issues rt trivial) hrest
  obtain ⟨lease, -, hrest⟩ := ends_reads_bind (loadLease_issues rt trivial) hrest
  have hnames : (ReflexProg.names .grants).Issues ReflexOp.Reads :=
    ReflexProg.issues_call_ofExcept trivial
  obtain ⟨files, -, hrest⟩ := ends_reads_bind hnames hrest
  obtain ⟨entries, -, hrest⟩ := ends_reads_bind (loadLedger_issues rt trivial) hrest
  obtain ⟨-, rfl⟩ := Prog.ends_ret.mp hrest
  exact .kept rfl rfl

/-- A deactivation leaves no activation active, and no lease that is not bound. -/
theorem moves_of_deactivate {reason : String} {result : ReflexDeactivation}
    (hends : (deactivate rt reason epoch).Ends (Prog.within ReflexOp.effect I) w (.ok result) w')
    (hw : I w) : RecoversAndMoves rt epoch renews I w w' := by
  have hcollapsed : w'.Collapsed := activeWithin_of_deactivate (Prog.ends_within hends hw).1
  unfold deactivate at hends
  refine moves_of_recover_bind (fun r w₁ hrecover hrest => ?_) hends hw
  have hbound := leaseBound_of_recover hrecover
  obtain ⟨policy, -, hrest⟩ := ends_reads_bind (loadPolicy_issues rt trivial) hrest
  obtain ⟨state, -, hrest⟩ := ends_reads_bind (loadActivation_issues rt trivial) hrest
  have hnone : ∀ {receipt : Row}, ((appendLedger rt "control" epoch receipt).bind fun _ =>
      (.ret ⟨none, receipt⟩ : ReflexProg ReflexDeactivation)).Ends ReflexOp.effect w₁ (.ok result)
        w' → LeaseMove renews w₁ w' := by
    intro receipt hlast
    obtain ⟨_, w₂, hreceipt, hret⟩ := Prog.ends_bind hlast
    obtain ⟨-, rfl⟩ := Prog.ends_ret.mp hret
    exact LeaseMove.receipt (.kept rfl rfl) hreceipt
  cases policy with
  | none => cases state <;> exact hnone hrest
  | some policy =>
      cases state with
      | none => exact hnone hrest
      | some state =>
          obtain ⟨result', -, hrest⟩ := Prog.ends_ofExcept_bind hrest
          obtain ⟨_, w₂, -, hrest⟩ := Prog.ends_bind hrest
          obtain ⟨_, w₃, hremove, hrest⟩ := Prog.ends_bind hrest
          obtain ⟨_, w₄, hreceipt, hret⟩ := Prog.ends_bind hrest
          obtain ⟨-, rfl⟩ := Prog.ends_ret.mp hret
          have hunleased : w'.control .lease = none :=
            (control_of_appendLedger hreceipt (by decide)).trans (control_of_remove hremove).1
          exact .collapsed hcollapsed (leaseBound_of_unleased hunleased)

/-- Storing a policy moves away what is not active. -/
theorem moves_of_ingestPolicy {payload : Except PyError ReflexInfluencePolicyState} {u : Unit}
    (hends : (ingestPolicy rt payload epoch).Ends (Prog.within ReflexOp.effect I) w (.ok u) w')
    (hw : I w) : RecoversAndMoves rt epoch renews I w w' := by
  unfold ingestPolicy at hends
  refine moves_of_recover_bind (fun r w₁ hrecover hrest => ?_) hends hw
  obtain ⟨policy, -, hrest⟩ := Prog.ends_ofExcept_bind hrest
  obtain ⟨_, -, hrest⟩ := Prog.ends_ofExcept_bind hrest
  obtain ⟨current, -, hrest⟩ := ends_reads_bind (loadActivation_issues rt trivial) hrest
  obtain ⟨_, -, hrest⟩ := Prog.ends_ofExcept_bind hrest
  obtain ⟨_, w₂, hwrite, hrest⟩ := Prog.ends_bind hrest
  obtain ⟨_, w₃, hdrop, hreceipt⟩ := Prog.ends_bind hrest
  have hothers := (control_of_write hwrite).2
  have hkept : w₃ = w₂ → LeaseMove renews w₁ w₃ := by
    rintro rfl
    exact .kept (hothers .activation (by decide)) (hothers .lease (by decide))
  refine LeaseMove.receipt ?_ hreceipt
  unfold dropForeignActivation at hdrop
  cases current with
  | none => exact hkept (Prog.ends_ret.mp hdrop).2
  | some state =>
      dsimp only at hdrop
      split at hdrop
      · obtain ⟨digest, w₄, hquarantine, hremove⟩ := Prog.ends_bind hdrop
        have hgone := (control_of_quarantine hquarantine).1
        obtain ⟨hunleased, hsame⟩ := control_of_remove hremove
        have hactivation : w₃.control .activation = none :=
          (hsame .activation (by decide)).trans hgone
        exact .collapsed (collapsed_of_none hactivation) (leaseBound_of_unleased hunleased)
      · exact hkept (Prog.ends_ret.mp hdrop).2

theorem LeaseMove.write {w₁ : ReflexWorld} {state : ReflexActivationState} {deadline set : ℤ}
    {kind : String} {receipt : Row} {u v : Unit}
    (hstored : w.control .activation = some (.ok state))
    (hends : ¬ renews → ∀ l, w.control .lease = some (.ok l) → deadline ≤ l.validThroughEpoch)
    (hwrite : (ReflexProg.write .lease (buildLease rt state.stateSha256 deadline set)).Ends
      ReflexOp.effect w (.ok u) w₁)
    (hreceipt : (appendLedger rt kind epoch receipt).Ends ReflexOp.effect w₁ (.ok v) w') :
    LeaseMove renews w w' := by
  obtain ⟨hlease, hothers⟩ := control_of_write hwrite
  refine LeaseMove.receipt (.leased ?_ hlease rfl hends) hreceipt
  exact (hothers .activation (by decide)).trans hstored

/-- Attaching a lease shortens the one that is there, or deactivates. -/
theorem moves_of_attachOrShortenLease {validThroughEpoch : ℕ} {result : ReflexLeaseResult}
    (hends : (attachOrShortenLease rt validThroughEpoch epoch).Ends (Prog.within ReflexOp.effect I) w
      (.ok result) w') (hw : I w) : RecoversAndMoves rt epoch renews I w w' := by
  unfold attachOrShortenLease at hends
  refine moves_of_recover_bind (fun r w₁ hrecover hrest => ?_) hends hw
  obtain ⟨policy, -, hrest⟩ := ends_reads_bind (requirePolicy_issues rt trivial) hrest
  obtain ⟨state, hstate, hrest⟩ := ends_reads_bind (requireActivation_issues rt trivial) hrest
  obtain ⟨_, -, hrest⟩ := Prog.ends_ofExcept_bind hrest
  obtain ⟨current, hload, hrest⟩ := ends_reads_bind (loadLease_issues rt trivial) hrest
  obtain ⟨_, hshort, hrest⟩ := Prog.ends_ofExcept_bind hrest
  have hcurrent := control_of_checkedFile (loaded_lease hload).2
  dsimp only at hrest
  split at hrest
  · obtain ⟨deactivation, w₂, hdeactivate, hret⟩ := Prog.ends_bind hrest
    obtain ⟨-, rfl⟩ := Prog.ends_ret.mp hret
    obtain ⟨r', w₂, hrecover', -, hmove⟩ :
        RecoversAndMoves rt epoch renews (fun _ => True) w₁ w' :=
      moves_of_deactivate hdeactivate.within_true trivial
    have hbound := hmove.leaseBound (leaseBound_of_recover hrecover')
    exact .collapsed (activeWithin_of_deactivate hdeactivate) hbound
  · obtain ⟨_, w₂, hwrite, hrest⟩ := Prog.ends_bind hrest
    obtain ⟨_, w₃, hreceipt, hret⟩ := Prog.ends_bind hrest
    obtain ⟨-, rfl⟩ := Prog.ends_ret.mp hret
    refine LeaseMove.write (ends_requireActivation hstate) (fun _ l hl => ?_) hwrite hreceipt
    rw [hl] at hcurrent
    cases current with
    | none => cases hcurrent
    | some found =>
        cases hcurrent
        simpa using hshort

/-- A renewal binds a lease to the stored activation. -/
theorem moves_of_renewLeaseAuthorized {validThroughEpoch : ℕ} {authorizationSha256 : String}
    {lease : ReflexRuntimeLease} (hrenews : renews)
    (hends : (renewLeaseAuthorized rt validThroughEpoch epoch authorizationSha256).Ends
      (Prog.within ReflexOp.effect I) w (.ok lease) w') (hw : I w) :
    RecoversAndMoves rt epoch renews I w w' := by
  unfold renewLeaseAuthorized at hends
  obtain ⟨_, -, hends⟩ := Prog.ends_ofExcept_bind hends
  refine moves_of_recover_bind (fun r w₁ hrecover hrest => ?_) hends hw
  obtain ⟨policy, -, hrest⟩ := ends_reads_bind (requirePolicy_issues rt trivial) hrest
  obtain ⟨state, hstate, hrest⟩ := ends_reads_bind (requireActivation_issues rt trivial) hrest
  obtain ⟨_, -, hrest⟩ := Prog.ends_ofExcept_bind hrest
  obtain ⟨current, -, hrest⟩ := ends_reads_bind (loadLease_issues rt trivial) hrest
  cases current with
  | none => exact nomatch (Prog.ends_raise.mp hrest).1
  | some current =>
      obtain ⟨_, -, hrest⟩ := Prog.ends_ofExcept_bind hrest
      obtain ⟨_, w₂, hwrite, hrest⟩ := Prog.ends_bind hrest
      obtain ⟨_, w₃, hreceipt, hret⟩ := Prog.ends_bind hrest
      obtain ⟨-, rfl⟩ := Prog.ends_ret.mp hret
      exact LeaseMove.write (ends_requireActivation hstate) (fun hnot => absurd hrenews hnot) hwrite
        hreceipt

/-- The lease of a new activation is the one that was asked for or the one before.
SOURCE: reflex/control_plane.py:275-297 -/
theorem move_of_leaseActivation {existing lease : Option ReflexRuntimeLease} {requested : Option ℕ}
    {state stored : ReflexActivationState} {w₁ : ReflexWorld}
    (hstored : w₁.control .activation = some (.ok stored))
    (hsame : stored.stateSha256 = state.stateSha256)
    (hexisting : w.control .lease = existing.map .ok)
    (hshort : ∀ l ∈ existing, ∀ n ∈ requested, (n : ℤ) ≤ l.validThroughEpoch)
    (hends : (leaseActivation rt epoch existing requested "ACTIVATED" (some state)).Ends
      ReflexOp.effect w₁ (.ok lease) w') : LeaseMove renews w w' := by
  have hwrite : ∀ {deadline : ℤ}, (∀ l ∈ existing, deadline ≤ l.validThroughEpoch) →
      ((ReflexProg.write .lease (buildLease rt state.stateSha256 deadline epoch)).bind fun _ =>
        .ret (some (buildLease rt state.stateSha256 deadline epoch))).Ends ReflexOp.effect w₁
          (.ok lease) w' → LeaseMove renews w w' := by
    intro deadline hdeadline hends
    obtain ⟨_, w₂, hwrite, hret⟩ := Prog.ends_bind hends
    obtain ⟨-, rfl⟩ := Prog.ends_ret.mp hret
    obtain ⟨hlease, hothers⟩ := control_of_write hwrite
    have hactivation := (hothers .activation (by decide)).trans hstored
    refine .leased hactivation hlease hsame.symm fun _ l hl => ?_
    rw [hexisting] at hl
    cases existing with
    | none => cases hl
    | some found =>
        cases hl
        exact hdeadline l rfl
  cases requested with
  | some n => exact hwrite (fun l hl => hshort l hl n rfl) hends
  | none =>
      cases existing with
      | some found =>
          refine hwrite (fun l hl => ?_) hends
          rw [Option.mem_some_iff.mp hl]
      | none =>
          obtain ⟨_, w₂, hremove, hret⟩ := Prog.ends_bind hends
          obtain ⟨-, rfl⟩ := Prog.ends_ret.mp hret
          exact .unleased (control_of_remove hremove).1 hexisting

/-- Activating.
SOURCE: reflex/control_plane.py:224-304 -/
theorem moves_of_activate {request : ReflexActivationRequest} {grantId : String}
    {requested : Option ℕ} {result : ReflexActivationResult}
    (hends : (activate rt request grantId epoch requested).Ends (Prog.within ReflexOp.effect I) w
      (.ok result) w') (hw : I w) : RecoversAndMoves rt epoch renews I w w' := by
  unfold activate at hends
  refine moves_of_recover_bind (fun r w₁ hrecover hrest => ?_) hends hw
  obtain ⟨policy, -, hrest⟩ := ends_reads_bind (requirePolicy_issues rt trivial) hrest
  obtain ⟨current, hload, hrest⟩ := ends_reads_bind (loadActivation_issues rt trivial) hrest
  have hactivation := (ends_loadActivation hload).2
  obtain ⟨grant, -, hrest⟩ := ends_reads_bind (requireGrant_issues rt trivial) hrest
  obtain ⟨existing, hload, hrest⟩ := ends_reads_bind (loadLease_issues rt trivial) hrest
  have hexisting := control_of_checkedFile (loaded_lease hload).2
  obtain ⟨_, hchecks, hrest⟩ := Prog.ends_ofExcept_bind hrest
  obtain ⟨_, -, hchecks⟩ := bind_eq_ok.mp hchecks
  have hshort : ∀ l ∈ existing, ∀ n ∈ requested, (n : ℤ) ≤ l.validThroughEpoch := by
    rintro l rfl n rfl
    simpa using hchecks
  obtain ⟨⟨next, receipt⟩, hactivate, hrest⟩ := Prog.ends_ofExcept_bind hrest
  obtain ⟨_, w₂, hstore, hrest⟩ := Prog.ends_bind hrest
  obtain ⟨_, w₃, hreceipt, hrest⟩ := Prog.ends_bind hrest
  obtain ⟨lease, w₄, hlease, hret⟩ := Prog.ends_bind hrest
  obtain ⟨-, rfl⟩ := Prog.ends_ret.mp hret
  obtain ⟨-, ⟨hstatus, rfl⟩ | ⟨hstatus, -, state, rfl, hbuilt⟩⟩ :=
    GovernedReflexRuntimeInfluence.activate_cases hactivate
  · rw [storeActivation_self] at hstore
    rw [hstatus, leaseActivation_held] at hlease
    obtain ⟨-, rfl⟩ := Prog.ends_ret.mp hstore
    obtain ⟨-, rfl⟩ := Prog.ends_ret.mp hlease
    exact LeaseMove.receipt (.kept rfl rfl) hreceipt
  · rw [hstatus] at hlease
    have hkept : w₃.control .activation = w₂.control .activation :=
      control_of_appendLedger hreceipt (by decide)
    -- the activation that is stored then has the hash of the one that was built
    have hstored : ∃ stored, w₂.control .activation = some (.ok stored) ∧
        stored.stateSha256 = state.stateSha256 := by
      unfold storeActivation at hstore
      dsimp only at hstore
      split at hstore
      · exact ⟨state, (control_of_write hstore).1, rfl⟩
      · rename_i hsame
        obtain ⟨-, rfl⟩ := Prog.ends_ret.mp hstore
        cases current with
        | none => exact absurd (by simp) hsame
        | some found =>
            refine ⟨found, hactivation, ?_⟩
            have hequal := not_not.mp hsame
            rw [Option.map_some] at hequal
            exact (Option.some.inj hequal).symm
    obtain ⟨stored, hstored, hsame⟩ := hstored
    exact move_of_leaseActivation (hkept.trans hstored) hsame hexisting hshort hlease

/-- What is written of an evaluation: the lease goes over to the next activation, or away
with it. -/
theorem move_of_keepEvaluation {state next : ReflexActivationState}
    {lease : Option ReflexRuntimeLease} {u : Unit} (hlease : w.control .lease = lease.map .ok)
    (hends : (keepEvaluation rt state next lease).Ends ReflexOp.effect w (.ok u) w') :
    LeaseMove renews w w' := by
  unfold keepEvaluation at hends
  split at hends
  · obtain ⟨_, w₁, hwrite, hrest⟩ := Prog.ends_bind hends
    obtain ⟨hstored, hothers⟩ := control_of_write hwrite
    split at hrest
    · cases lease with
      | none =>
          obtain ⟨-, rfl⟩ := Prog.ends_ret.mp hrest
          exact .unleased ((hothers .lease (by decide)).trans hlease) hlease
      | some lease =>
          obtain ⟨hcarried, hothers'⟩ := control_of_write hrest
          have hactivation := (hothers' .activation (by decide)).trans hstored
          refine .leased hactivation hcarried rfl fun _ l hl => ?_
          rw [hlease] at hl
          cases hl
          exact le_refl _
    · rename_i hoff
      obtain ⟨hunleased, hothers'⟩ := control_of_remove hrest
      have hactivation := (hothers' .activation (by decide)).trans hstored
      exact .collapsed (collapsed_of_inactive hactivation hoff) (leaseBound_of_unleased hunleased)
  · obtain ⟨-, rfl⟩ := Prog.ends_ret.mp hends
    exact .kept rfl rfl

/-- Evaluating carries the lease over. -/
theorem moves_of_evaluateActive {input : ReflexInput}
    {result : Option ReflexRoutingInfluenceSignal × ReflexEvaluationReport}
    (hends : (evaluateActive rt input epoch).Ends (Prog.within ReflexOp.effect I) w (.ok result) w')
    (hw : I w) : RecoversAndMoves rt epoch renews I w w' := by
  unfold evaluateActive at hends
  refine moves_of_recover_bind (fun r w₁ hrecover hrest => ?_) hends hw
  obtain ⟨policy, -, hrest⟩ := ends_reads_bind (loadPolicy_issues rt trivial) hrest
  obtain ⟨state, -, hrest⟩ := ends_reads_bind (loadActivation_issues rt trivial) hrest
  have hnothing : ∀ {x : Option ReflexRoutingInfluenceSignal × ReflexEvaluationReport},
      (.ret x : ReflexProg _).Ends ReflexOp.effect w₁ (.ok result) w' → LeaseMove renews w₁ w' := by
    intro x hret
    obtain ⟨-, rfl⟩ := Prog.ends_ret.mp hret
    exact .kept rfl rfl
  cases policy with
  | none => cases state <;> exact hnothing hrest
  | some policy =>
      cases state with
      | none => exact hnothing hrest
      | some state =>
          dsimp only at hrest
          split at hrest
          · obtain ⟨lease, hload, hrest⟩ := ends_reads_bind (loadLease_issues rt trivial) hrest
            have hlease := control_of_checkedFile (loaded_lease hload).2
            obtain ⟨evaluation, -, hrest⟩ :=
              ends_reads_bind (evaluate_issues rt (fun _ _ => trivial) policy state input) hrest
            obtain ⟨_, w₂, hkeep, hrest⟩ := Prog.ends_bind hrest
            obtain ⟨_, w₃, hreceipt, hret⟩ := Prog.ends_bind hrest
            obtain ⟨-, rfl⟩ := Prog.ends_ret.mp hret
            exact LeaseMove.receipt (move_of_keepEvaluation hlease hkeep) hreceipt
          · exact hnothing hrest

end Calls

/-! ## Runs -/

/-- The call extends a lease. -/
def ControlCall.Renews : ControlCall → Prop
  | renewLeaseAuthorized _ _ _ => True
  | _ => False

/-- The call begins with a recovery: it is any but `ingest_grant_payload`. -/
def ControlCall.RecoversFirst : ControlCall → Prop
  | ingestGrant _ _ => False
  | _ => True

/-- What a call does.
SOURCE: reflex/control_plane.py:124-797 -/
theorem moves_of_program {I : ReflexWorld → Prop} {c : ControlCall} (hfirst : c.RecoversFirst)
    (hends : (c.program rt).Ends (Prog.within ReflexOp.effect I) w (.ok ()) w') (hw : I w) :
    RecoversAndMoves rt c.epoch c.Renews I w w' := by
  have hdrop : ∀ {α : Type} {p : ReflexProg α},
      (p.bind fun _ => Prog.ret ()).Ends (Prog.within ReflexOp.effect I) w (.ok ()) w' →
        ∃ a, p.Ends (Prog.within ReflexOp.effect I) w (.ok a) w' := by
    intro α p h
    obtain ⟨a, w₁, hp, hret⟩ := Prog.ends_bind h
    obtain ⟨-, rfl⟩ := Prog.ends_ret.mp hret
    exact ⟨a, hp⟩
  cases c with
  | ingestPolicy payload epoch => exact moves_of_ingestPolicy hends hw
  | ingestGrant payload epoch => exact hfirst.elim
  | activate request grantId epoch requested =>
      obtain ⟨result, hcall⟩ := hdrop hends
      exact moves_of_activate hcall hw
  | attachOrShortenLease validThroughEpoch epoch =>
      obtain ⟨result, hcall⟩ := hdrop hends
      exact moves_of_attachOrShortenLease hcall hw
  | renewLeaseAuthorized validThroughEpoch epoch authorizationSha256 =>
      obtain ⟨lease, hcall⟩ := hdrop hends
      exact moves_of_renewLeaseAuthorized trivial hcall hw
  | deactivate reason epoch =>
      obtain ⟨result, hcall⟩ := hdrop hends
      exact moves_of_deactivate hcall hw
  | evaluateActive input epoch =>
      obtain ⟨result, hcall⟩ := hdrop hends
      exact moves_of_evaluateActive hcall hw
  | status epoch =>
      obtain ⟨status, hcall⟩ := hdrop hends
      exact moves_of_status hcall hw
  | recover epoch =>
      obtain ⟨r, hcall⟩ := hdrop hends
      exact moves_of_recover hcall hw

theorem leaseBound_of_program {c : ControlCall} (hfirst : c.RecoversFirst)
    (hends : (c.program rt).Ends ReflexOp.effect w (.ok ()) w') : w'.LeaseBound := by
  obtain ⟨r, w₁, hrecover, -, hmove⟩ := moves_of_program hfirst hends.within_true trivial
  exact hmove.leaseBound (leaseBound_of_recover hrecover)

/-- The activation is active. -/
def ReflexWorld.Active (w : ReflexWorld) : Prop := ¬ w.Collapsed

/-- A call during which the activation stays active, other than a renewal, puts the
deadline not off. A recovery that leaves the activation active has changed nothing. -/
theorem deadline_le_of_program {c : ControlCall} (hfirst : c.RecoversFirst)
    (hends : (c.program rt).Ends (Prog.within ReflexOp.effect ReflexWorld.Active) w (.ok ()) w')
    (hw : w.Active) (hrenews : ¬ c.Renews) : w'.deadline ≤ w.deadline := by
  obtain ⟨r, w₁, hrecover, hactive, hmove⟩ := moves_of_program hfirst hends hw
  obtain ⟨rfl, -⟩ := live_of_recover hrecover hactive
  exact hmove.deadline_le hrenews (Prog.ends_within hends hw).2

/-- Calls that return, one after another, in whose stores `I` holds throughout. Between them files
other than the activation and the lease may change in any way. -/
inductive ControlRun (rt : ReflexRuntime) (I : ReflexWorld → Prop) :
    ReflexWorld → List ControlCall → ReflexWorld → Prop
  | start {w : ReflexWorld} (hw : I w) : ControlRun rt I w [] w
  | call {w w₁ w₂ w₃ : ReflexWorld} {calls : List ControlCall} {c : ControlCall}
      (before : ControlRun rt I w calls w₁)
      (hactivation : w₂.control .activation = w₁.control .activation)
      (hlease : w₂.control .lease = w₁.control .lease) (hw₂ : I w₂) (hfirst : c.RecoversFirst)
      (hends : (c.program rt).Ends (Prog.within ReflexOp.effect I) w₂ (.ok ()) w₃) :
      ControlRun rt I w (calls ++ [c]) w₃

/-- The stored lease is bound after every run of at least one call, and after none if it was.
The last call alone decides it. -/
theorem ControlRun.leaseBound {calls : List ControlCall}
    (h : ControlRun rt (fun _ => True) w calls w') (hstart : calls = [] → w.LeaseBound) :
    w'.LeaseBound := by
  cases h with
  | start hw => exact hstart rfl
  | call before hactivation hlease hw₂ hfirst hends =>
      exact leaseBound_of_program hfirst (Prog.ends_within hends hw₂).1

theorem ControlRun.deadline_le {calls : List ControlCall}
    (h : ControlRun rt ReflexWorld.Active w calls w') (hrenews : ∀ c ∈ calls, ¬ c.Renews) :
    w'.deadline ≤ w.deadline := by
  induction h with
  | start hw => exact le_refl _
  | @call w₁ w₂ w₃ calls c before hactivation hlease hw₂ hfirst hends ih =>
      have hbefore := ih fun c hc => hrenews c (List.mem_append_left _ hc)
      have hlast := deadline_le_of_program hfirst hends hw₂
        (hrenews c (List.mem_append_right _ List.mem_cons_self))
      have hsame : w₂.deadline = w₁.deadline := by
        unfold ReflexWorld.deadline
        rw [hlease]
      rw [hsame] at hlast
      exact hlast.trans hbefore

/-- MAIN: **deadlines grow only by renewals.** After any run of calls that return, from any store (or
from one where that holds already), a stored lease is bound to the stored activation; and over any
stretch of calls during which the stored activation stays active, none of them a renewal, the deadline
does not grow. SOURCE: control_plane.py:124-504, 647-797 -/
theorem deadlines_only_renewed {w₀ : ReflexWorld} {calls stretch : List ControlCall}
    (hrun : ControlRun rt (fun _ => True) w₀ calls w) (hstart : calls = [] → w₀.LeaseBound)
    (hstretch : ControlRun rt ReflexWorld.Active w stretch w') :
    w.LeaseBound ∧ ((∀ c ∈ stretch, ¬ c.Renews) → w'.deadline ≤ w.deadline) :=
  ⟨hrun.leaseBound hstart, hstretch.deadline_le⟩

/-! ### A lease that is shortened -/

/-- Attaching a lease activates nothing. -/
theorem attachOrShortenLease_calm (rt : ReflexRuntime) (validThroughEpoch epoch : ℕ) :
    (attachOrShortenLease rt validThroughEpoch epoch).IsCalm := by
  apply (recover_calm rt epoch).bind
  intro _
  apply (requirePolicy_calm rt).bind
  intro policy
  apply (requireActivation_calm rt).bind
  intro state
  apply (Prog.issues_ofExcept _).bind
  intro _
  apply (loadLease_calm rt).bind
  intro current
  apply (Prog.issues_ofExcept _).bind
  intro _
  dsimp only
  split
  · exact (deactivate_calm rt _ _).bind fun _ => Prog.issues_ret _
  · apply (ReflexProg.write_lease_calm _).bind
    exact fun _ => (appendLedger_calm rt _ _ _).bind fun _ => Prog.issues_ret _

/-- The router's activation, with a lease through epoch 10. -/
def leasedRouter : ReflexWorld :=
  grantedWorld (some routerActivation) (some (buildLease zeroKeyRuntime commonSha256 10 0))

theorem live_leasedRouter : leasedRouter.Live zeroKeyRuntime 0 routerPolicy routerActivation
    (some (buildLease zeroKeyRuntime commonSha256 10 0)) where
  policyFile := checkedFile_ok routerPolicy_valid
  activationFile := checkedFile_ok routerActivation_valid
  leaseFile := checkedFile_ok (by decide +kernel)
  ledgerFile := ⟨_, rfl⟩
  active := rfl
  policyBound := rfl
  leaseBound := by
    rintro l ⟨⟩
    rfl
  leaseOpen := by
    rintro l ⟨⟩
    decide

/-- Its lease is shortened, and the activation stays active. -/
theorem leasedRouter_shortened : ∃ w',
    ((ControlCall.attachOrShortenLease 5 0).program zeroKeyRuntime).Ends ReflexOp.effect leasedRouter
      (.ok ()) w' ∧ w'.Active := by
  have hrecover : (recover zeroKeyRuntime 0).run (ReflexOp.perform fun _ _ => "") leasedRouter =
      (.ok ⟨"ACTIVE", "persisted_runtime_state_valid", false⟩, leasedRouter) :=
    run_recover_of_live live_leasedRouter
  have hpolicy : (requirePolicy zeroKeyRuntime).run (ReflexOp.perform fun _ _ => "") leasedRouter =
      (.ok routerPolicy, leasedRouter) := by
    have hload : (loadPolicy zeroKeyRuntime).run (ReflexOp.perform fun _ _ => "") leasedRouter =
        (.ok (some routerPolicy), leasedRouter) :=
      run_loadPolicy.trans (Prod.ext live_leasedRouter.policyFile rfl)
    exact Prog.run_bind_of_ok hload
  have hstate : (requireActivation zeroKeyRuntime).run (ReflexOp.perform fun _ _ => "")
      leasedRouter = (.ok routerActivation, leasedRouter) := by
    have hload : (loadActivation zeroKeyRuntime).run (ReflexOp.perform fun _ _ => "") leasedRouter =
        (.ok (some routerActivation), leasedRouter) :=
      run_loadActivation.trans (Prod.ext live_leasedRouter.activationFile rfl)
    exact Prog.run_bind_of_ok hload
  have hlease : (loadLease zeroKeyRuntime).run (ReflexOp.perform fun _ _ => "") leasedRouter =
      (.ok (some (buildLease zeroKeyRuntime commonSha256 10 0)), leasedRouter) :=
    run_loadLease.trans (Prod.ext live_leasedRouter.leaseFile rfl)
  obtain ⟨w₁, hw₁⟩ : ∃ w₁, w₁ = leasedRouter.setControl .lease
    (some (.ok (buildLease zeroKeyRuntime commonSha256 5 0))) := ⟨_, rfl⟩
  have hfiles : w₁.Files zeroKeyRuntime (some (.ok routerPolicy)) (some (.ok routerActivation))
      (some (.ok (buildLease zeroKeyRuntime commonSha256 5 0))) := by
    rw [hw₁]
    exact ⟨rfl, rfl, rfl, _, rfl⟩
  have hreceipt := run_appendLedger (fun _ _ => "") 0 zeroKeyRuntime_lawfulDigest hfiles "control"
    (controlReceipt zeroKeyRuntime "LEASE_ATTACHED" "privilege_duration_restricted" 0
      routerPolicy.stateSha256 routerActivation.stateSha256
      (some (buildLease zeroKeyRuntime commonSha256 5 0).leaseSha256))
  obtain ⟨w', hreceipt, hfiles'⟩ := hreceipt
  have hwrite : (ReflexProg.write .lease (buildLease zeroKeyRuntime commonSha256 5 0)).run
      (ReflexOp.perform fun _ _ => "") leasedRouter = (.ok (), w₁) := by
    rw [hw₁]
    rfl
  have hrun : ∃ result, (attachOrShortenLease zeroKeyRuntime 5 0).run (ReflexOp.perform fun _ _ => "")
      leasedRouter = (.ok result, w') := by
    refine ⟨⟨some (buildLease zeroKeyRuntime commonSha256 5 0), controlReceipt zeroKeyRuntime
      "LEASE_ATTACHED" "privilege_duration_restricted" 0 routerPolicy.stateSha256
      routerActivation.stateSha256 (some (buildLease zeroKeyRuntime commonSha256 5 0).leaseSha256)⟩,
      ?_⟩
    unfold attachOrShortenLease
    apply (Prog.run_bind_of_ok hrecover).trans
    apply (Prog.run_bind_of_ok hpolicy).trans
    apply (Prog.run_bind_of_ok hstate).trans
    apply (Prog.run_bind_of_ok hlease).trans
    apply (Prog.run_bind_of_ok hwrite).trans
    exact Prog.run_bind_of_ok hreceipt
  obtain ⟨result, hrun⟩ := hrun
  refine ⟨w', ends_of_run (Prog.run_bind_of_ok hrun), fun hcollapsed => ?_⟩
  exact hcollapsed routerActivation hfiles'.activation rfl

/-- WITNESS: The router's lease is shortened, and its deadline has not grown. -/
theorem leasedRouter_deadline : ∃ w', leasedRouter.LeaseBound ∧
    ((ControlCall.attachOrShortenLease 5 0).program zeroKeyRuntime).Ends ReflexOp.effect leasedRouter
      (.ok ()) w' ∧ w'.deadline ≤ leasedRouter.deadline := by
  have hactive : leasedRouter.Active := fun hcollapsed => hcollapsed routerActivation rfl rfl
  have hbound : leasedRouter.LeaseBound := by
    intro content hcontent
    exact ⟨routerActivation, _, rfl, (Option.some.inj hcontent).symm, rfl⟩
  obtain ⟨w', hends, hstays⟩ := leasedRouter_shortened
  have hcalm : ((ControlCall.attachOrShortenLease 5 0).program zeroKeyRuntime).IsCalm :=
    (attachOrShortenLease_calm zeroKeyRuntime 5 0).bind fun _ => Prog.issues_ret _
  have hthroughout := hcalm.ends_within
    (fun w o r w' ho hnot heffect hactive => hactive
      (ReflexOp.activeWithin_of_calm ho (not_not.mp hnot) heffect)) hends hstays
  have hstretch : ControlRun zeroKeyRuntime ReflexWorld.Active leasedRouter
      [ControlCall.attachOrShortenLease 5 0] w' :=
    .call (.start hactive) rfl rfl hactive trivial hthroughout
  obtain ⟨-, hdeadline⟩ := deadlines_only_renewed (.start trivial) (fun _ => hbound) hstretch
  refine ⟨w', hbound, hends, hdeadline ?_⟩
  intro c hc
  rw [List.mem_singleton.mp hc]
  exact not_false

end PhiOS
