import PhiOS.Analysis.RecoveryTotal
import PhiOS.Model.RootAttestation

/-!
# Collapsing whatever is active

`_collapse_if_active` asks the control plane for its status and deactivates what is active. Where
nothing fails but reading the four files, it returns exactly if the recovery handles what it meets
and an activation that is live after it has a valid request; then no activation is left active.
-/

set_option autoImplicit false

namespace PhiOS

open Interaction ReflexRuntimeControlPlane

variable {rt : ReflexRuntime} {w w' : ReflexWorld} {epoch : ℕ}
  {digest : ReflexWorld → ControlFile → String} {reason : String}

/-- The control plane can take back whatever is active: the recovery handles the files, and a live
activation has a valid request. -/
structure ReflexWorld.Collapsible (rt : ReflexRuntime) (epoch : ℕ) (w : ReflexWorld) : Prop where
  handled : w.Handled rt epoch
  request : ∀ policy activation lease, w.Live rt epoch policy activation lease →
    (GovernedReflexRuntimeInfluence.requestOf activation).postInit = .ok ()

theorem ReflexWorld.Settled.reads (h : w.Settled rt epoch) :
    (∃ policy, w.policy rt = .ok policy) ∧ (∃ activation, w.activation rt = .ok activation) ∧
      (∃ lease, w.lease rt = .ok lease) ∧ ∃ entries, w.ledger rt = .ok entries := by
  obtain ⟨hledger, policy, hpolicy, hrest⟩ := h
  rcases hrest with ⟨hnone, hunleased⟩ | ⟨p, activation, lease, -, hactivation, -, hlease, -⟩
  · have hempty : w.activation rt = .ok none := by
      unfold ReflexWorld.activation
      rw [hnone]
      rfl
    have hfree : w.lease rt = .ok none := by
      unfold ReflexWorld.lease
      rw [hunleased]
      rfl
    exact ⟨⟨policy, hpolicy⟩, ⟨none, hempty⟩, ⟨none, hfree⟩, hledger⟩
  · exact ⟨⟨policy, hpolicy⟩, ⟨some activation, hactivation⟩, ⟨lease, hlease⟩, hledger⟩

/-- After a recovery that settles the files, the status reports the stored activation. -/
theorem run_status {r : ReflexRecovery}
    (hrecover : (recover rt epoch).run (ReflexOp.perform digest) w = (.ok r, w'))
    (hsettled : w'.Settled rt epoch) :
    ∃ result, (status rt epoch).run (ReflexOp.perform digest) w = (.ok result, w') ∧
      w'.activation rt = .ok result.activation := by
  obtain ⟨⟨policy, hpolicy⟩, ⟨activation, hactivation⟩, ⟨lease, hlease⟩, entries, hentries⟩ :=
    hsettled.reads
  have hloadPolicy : (loadPolicy rt).run (ReflexOp.perform digest) w' = (.ok policy, w') := by
    rw [run_loadPolicy, hpolicy]
  have hloadActivation : (loadActivation rt).run (ReflexOp.perform digest) w' =
      (.ok activation, w') := by
    rw [run_loadActivation, hactivation]
  have hloadLease : (loadLease rt).run (ReflexOp.perform digest) w' = (.ok lease, w') := by
    rw [run_loadLease, hlease]
  have hnames : (ReflexProg.names .grants).run (ReflexOp.perform digest) w' =
      (.ok ((w'.dirs .grants).entries.map (·.1)), w') := rfl
  have hloadLedger : (loadLedger rt).run (ReflexOp.perform digest) w' = (.ok entries, w') := by
    rw [run_loadLedger, hentries]
  refine ⟨⟨r, policy, activation, lease, (w'.dirs .grants).entries.map (·.1), entries.length⟩, ?_,
    hactivation⟩
  unfold status
  apply (Prog.run_bind_of_ok hrecover).trans
  apply (Prog.run_bind_of_ok hloadPolicy).trans
  apply (Prog.run_bind_of_ok hloadActivation).trans
  apply (Prog.run_bind_of_ok hloadLease).trans
  apply (Prog.run_bind_of_ok hnames).trans
  exact Prog.run_bind_of_ok hloadLedger

section Live

variable {policy : ReflexInfluencePolicyState} {activation : ReflexActivationState}
  {lease : Option ReflexRuntimeLease}

/-- Deactivating a live activation goes on with what the governed runtime builds. -/
theorem run_deactivate_of_live (h : w.Live rt epoch policy activation lease) :
    (ReflexRuntimeControlPlane.deactivate rt reason epoch).run (ReflexOp.perform digest) w =
      ((Prog.ofExcept (GovernedReflexRuntimeInfluence.deactivate rt policy activation reason)).bind
        fun built => (ReflexProg.write .activation built.1).bind fun _ =>
          (ReflexProg.remove .lease).bind fun _ =>
            (appendLedger rt "activation" epoch built.2.toDict).bind fun _ =>
              (.ret ⟨some built.1, built.2.toDict⟩ : ReflexProg ReflexDeactivation)).run
        (ReflexOp.perform digest) w := by
  have hloadPolicy : (loadPolicy rt).run (ReflexOp.perform digest) w = (.ok (some policy), w) := by
    rw [run_loadPolicy, h.policyFile]
  have hloadActivation : (loadActivation rt).run (ReflexOp.perform digest) w =
      (.ok (some activation), w) := by
    rw [run_loadActivation, h.activationFile]
  unfold ReflexRuntimeControlPlane.deactivate
  apply (Prog.run_bind_of_ok (run_recover_of_live h)).trans
  apply (Prog.run_bind_of_ok hloadPolicy).trans
  exact Prog.run_bind_of_ok hloadActivation

theorem exists_run_deactivate (hrt : rt.LawfulDigest) (h : w.Live rt epoch policy activation lease)
    (hreason : strip reason ≠ "")
    (hrequest : (GovernedReflexRuntimeInfluence.requestOf activation).postInit = .ok ()) :
    ∃ result w', (ReflexRuntimeControlPlane.deactivate rt reason epoch).run
        (ReflexOp.perform digest) w = (.ok result, w') ∧ w'.Collapsed := by
  obtain ⟨next, receipt, hbuilt⟩ := GovernedReflexRuntimeInfluence.deactivate_ok
    (valid_of_checkedFile h.policyFile) (valid_of_checkedFile h.activationFile) h.policyBound hreason
    hrequest
  have hoff := GovernedReflexRuntimeInfluence.deactivate_inactive hbuilt
  have hfiles := ((ReflexWorld.files_self h.ledgerFile).setActivation (some (.ok next))).dropLease
  obtain ⟨w', hreceipt, hkept⟩ := run_appendLedger digest epoch hrt hfiles "activation"
    receipt.toDict
  refine ⟨⟨some next, receipt.toDict⟩, w', ?_, collapsed_of_inactive hkept.activation (by simp [hoff])⟩
  rw [run_deactivate_of_live h, hbuilt]
  exact Prog.run_bind_of_ok hreceipt

theorem raises_deactivate (h : w.Live rt epoch policy activation lease)
    (hrequest : (GovernedReflexRuntimeInfluence.requestOf activation).postInit ≠ .ok ()) :
    Raises digest (ReflexRuntimeControlPlane.deactivate rt reason epoch) w := by
  obtain ⟨e, hbuilt⟩ := GovernedReflexRuntimeInfluence.deactivate_error rt policy reason hrequest
  refine ⟨e, w, ?_⟩
  rw [run_deactivate_of_live h, hbuilt]
  rfl

end Live

namespace ReflexRootAttestationPlane

/-- **What a collapse makes of the files.** It returns with nothing active if the control
plane can take back what is active, and raises if it cannot.
SOURCE: reflex/root_attestation.py:729-745 -/
theorem collapseIfActive_cases (hrt : rt.LawfulDigest) (hreason : strip reason ≠ "") :
    (w.Collapsible rt epoch ∧ ∃ result w', (collapseIfActive rt reason epoch).run
        (ReflexOp.perform digest) w = (.ok result, w') ∧ w'.Collapsed) ∨
      (¬ w.Collapsible rt epoch ∧ Raises digest (collapseIfActive rt reason epoch) w) := by
  rcases settlesIff_recover digest epoch w hrt with ⟨hhandled, r, w₁, hrun, hsettled⟩ |
    ⟨hhandled, hraises⟩
  · obtain ⟨report, hstatus, hreported⟩ := run_status hrun hsettled
    have hstored := control_of_checkedFile hreported
    by_cases hcollapsed : w₁.Collapsed
    · have hoff : ¬ report.routingInfluenceActive = true := by
        intro hon
        obtain ⟨state, hstate, hactive⟩ := (Option.any_eq_true _ _).mp hon
        rw [hstate] at hstored
        exact hcollapsed state hstored hactive
      have hnone : (collapseIfActive rt reason epoch).run (ReflexOp.perform digest) w =
          (.ok none, w₁) := by
        unfold collapseIfActive
        apply (Prog.run_bind_of_ok hstatus).trans
        rw [if_neg hoff]
        rfl
      by_cases hcollapsible : w.Collapsible rt epoch
      · exact Or.inl ⟨hcollapsible, none, w₁, hnone, hcollapsed⟩
      · -- what is live stays live over the recovery
        exfalso
        apply hcollapsible
        refine ⟨hhandled, fun policy activation lease hlive => ?_⟩
        rw [run_recover_of_live hlive] at hrun
        obtain rfl : w = w₁ := congrArg Prod.snd hrun
        exact absurd hlive.active (hcollapsed activation (control_of_checkedFile hlive.activationFile))
    · obtain ⟨rfl, policy, activation, lease, hlive⟩ := live_of_recover (ends_of_run hrun) hcollapsed
      have hon : report.routingInfluenceActive = true := by
        rw [hlive.activationFile] at hreported
        unfold ReflexControlStatus.routingInfluenceActive
        rw [← Except.ok.inj hreported]
        exact hlive.active
      have hgo : (collapseIfActive rt reason epoch).run (ReflexOp.perform digest) w₁ =
          ((ReflexRuntimeControlPlane.deactivate rt reason epoch).bind fun deactivation =>
            (.ret (some deactivation) : ReflexProg (Option ReflexDeactivation))).run
              (ReflexOp.perform digest) w₁ := by
        unfold collapseIfActive
        apply (Prog.run_bind_of_ok hstatus).trans
        rw [if_pos hon]
        rfl
      by_cases hrequest : (GovernedReflexRuntimeInfluence.requestOf activation).postInit = .ok ()
      · obtain ⟨result, w', hdeactivate, hoff⟩ := exists_run_deactivate hrt hlive hreason hrequest
        have hcollapsible : w₁.Collapsible rt epoch := by
          refine ⟨hhandled, fun p a l hother => ?_⟩
          have hsame := hother.activationFile.symm.trans hlive.activationFile
          cases hsame
          exact hrequest
        exact Or.inl ⟨hcollapsible, some result, w', hgo.trans (Prog.run_bind_of_ok hdeactivate), hoff⟩
      · obtain ⟨e, w', hdeactivate⟩ :
            Raises digest (ReflexRuntimeControlPlane.deactivate rt reason epoch) w₁ :=
          raises_deactivate hlive hrequest
        exact Or.inr ⟨fun h => hrequest (h.request _ _ _ hlive), e, w',
          hgo.trans (Prog.run_bind_of_error hdeactivate)⟩
  · refine Or.inr ⟨fun h => hhandled h.handled, ?_⟩
    unfold collapseIfActive status
    exact raises_bind_first (raises_bind_first hraises)

end ReflexRootAttestationPlane

end PhiOS
