import PhiOS.Analysis.AnchorNames
import PhiOS.Analysis.RecoveryOutcome

/-!
# A lost ledger and recoveries that die

A recovery moves a ledger that it cannot read away before it collapses the activation. A recovery
that dies between the two leaves no trace of the loss.
-/

set_option autoImplicit false

namespace PhiOS

open Interaction ReflexRuntimeControlPlane

variable {rt : ReflexRuntime} {w₀ w w' : ReflexWorld} {epoch : ℕ}

/-- Recoveries, each of which may die after any of its file operations, have led from one store to
another. -/
inductive RecoveryRun (rt : ReflexRuntime) (w₀ : ReflexWorld) : ReflexWorld → Prop
  | start : RecoveryRun rt w₀ w₀
  | recover {w w' : ReflexWorld} {epoch : ℕ} {t : List (Prog.Event ReflexOp.Reply)}
      {q : ReflexProg ReflexRecovery} (before : RecoveryRun rt w₀ w)
      (steps : Prog.Steps (recover rt epoch) t q)
      (carries : Prog.Carries ReflexOp.effect w t w') : RecoveryRun rt w₀ w'

/-- The policy, the activation and the lease are valid, bound to each other and active, and the
ledger is not valid. -/
structure LedgerLost (rt : ReflexRuntime) (w : ReflexWorld) (policy : ReflexInfluencePolicyState)
    (activation : ReflexActivationState) (lease : ReflexRuntimeLease) : Prop where
  policyFile : w.policy rt = .ok (some policy)
  activationFile : w.activation rt = .ok (some activation)
  leaseFile : w.lease rt = .ok (some lease)
  active : activation.routingInfluenceActive = true
  policyBound : activation.policyStateSha256 = policy.stateSha256
  leaseBound : lease.activationStateSha256 = activation.stateSha256
  ledgerLost : ∃ e, w.ledger rt = .error e

/-- Every recovery from here that comes to its end collapses the activation. -/
def AlwaysCollapses (rt : ReflexRuntime) (epoch : ℕ) (w : ReflexWorld) : Prop :=
  ∀ r w', (recover rt epoch).Ends ReflexOp.effect w (.ok r) w' → w'.Collapsed

/-- The loss of the ledger can still be seen, or nothing is left to collapse, or something else makes
the recovery collapse it: the policy is gone, or the lease is over. -/
def StillCollapses (rt : ReflexRuntime) (epoch : ℕ) (w : ReflexWorld) : Prop :=
  (∃ e, w.ledger rt = .error e) ∨ w.Collapsed ∨ w.control .policy = none ∨
    ∃ lease, w.control .lease = some (.ok lease) ∧ lease.validThroughEpoch ≤ epoch

/-! ## What recoveries leave of the files -/

theorem RecoveryRun.withdrawn (hrun : RecoveryRun rt w₀ w) : WithdrawnFrom w₀ w := by
  induction hrun with
  | start => exact .refl w₀
  | @recover w w' epoch t q before steps carries ih =>
      have hissues := recover_issues rt ReflexOp.recovers_withdraws trivial epoch
      exact ((hissues.holds (I := WithdrawnFrom w₀)
        (fun _ _ _ _ ho h heffect => h.step (ReflexOp.withdrawal_of_withdraws ho heffect)) ih).sound steps carries).start

/-! ## When a completed recovery collapses the activation -/

/-- What a recovery needs to leave the activation active is not there. -/
theorem alwaysCollapses_of_stillCollapses (h : StillCollapses rt epoch w) :
    AlwaysCollapses rt epoch w := by
  intro r w' hends
  by_contra hlive
  obtain ⟨rfl, policy, activation, lease, hw⟩ := live_of_recover hends hlive
  rcases h with ⟨e, herror⟩ | hcollapsed | hnone | ⟨l, hstored, hover⟩
  · obtain ⟨entries, hledger⟩ := hw.ledgerFile
    rw [herror] at hledger
    cases hledger
  · exact hlive hcollapsed
  · have hpolicy := control_of_checkedFile hw.policyFile
    rw [hnone] at hpolicy
    cases hpolicy
  · have hlease := control_of_checkedFile hw.leaseFile
    rw [hstored] at hlease
    cases lease with
    | none => cases hlease
    | some lease =>
        obtain rfl : l = lease := by simpa using hlease
        exact absurd (hw.leaseOpen l rfl) (not_lt.mpr hover)

/-- Where the loss of the ledger can no longer be seen, the activation is live. -/
theorem LedgerLost.live {policy : ReflexInfluencePolicyState} {activation : ReflexActivationState}
    {lease : ReflexRuntimeLease} (hlost : LedgerLost rt w₀ policy activation lease)
    (hrun : RecoveryRun rt w₀ w) (h : ¬ StillCollapses rt epoch w) :
    ∃ left, w.Live rt epoch policy activation left := by
  simp only [StillCollapses, not_or] at h
  obtain ⟨hledger, hactive, hpolicy, hopen⟩ := h
  have hkept := hrun.withdrawn
  have hpolicyFile : w.policy rt = .ok (some policy) := by
    unfold ReflexWorld.policy
    rw [hkept.policy.resolve_left hpolicy]
    exact hlost.policyFile
  have hactivationFile : w.activation rt = .ok (some activation) := by
    unfold ReflexWorld.activation
    rw [hkept.activation.resolve_left hactive]
    exact hlost.activationFile
  have hledgerFile : ∃ entries, w.ledger rt = .ok entries := by
    cases hload : w.ledger rt with
    | ok entries => exact ⟨entries, rfl⟩
    | error e => exact absurd ⟨e, hload⟩ hledger
  rcases hkept.lease with hgone | hsame
  · have hleaseFile : w.lease rt = .ok none := by
      unfold ReflexWorld.lease
      rw [hgone]
      rfl
    exact ⟨none, hpolicyFile, hactivationFile, hleaseFile, hledgerFile, hlost.active,
      hlost.policyBound, by simp, by simp⟩
  · have hleaseFile : w.lease rt = .ok (some lease) := by
      unfold ReflexWorld.lease
      rw [hsame]
      exact hlost.leaseFile
    have hleaseOpen : ∀ l ∈ some lease, (epoch : ℤ) < l.validThroughEpoch := by
      rintro l ⟨⟩
      by_contra hover
      exact hopen ⟨lease, control_of_checkedFile hleaseFile, not_lt.mp hover⟩
    have hleaseBound : ∀ l ∈ some lease, l.activationStateSha256 = activation.stateSha256 := by
      rintro l ⟨⟩
      exact hlost.leaseBound
    exact ⟨some lease, hpolicyFile, hactivationFile, hleaseFile, hledgerFile, hlost.active,
      hlost.policyBound, hleaseBound, hleaseOpen⟩

/-- MAIN: **A recovery after the loss of the ledger.** Whatever recoveries have died before it, a
recovery that comes to its end collapses the activation if and only if the ledger still fails to
load, nothing active is left, the policy is gone, or the lease is over.
SOURCE: reflex/control_plane.py:547-776 -/
theorem collapses_after_ledger_loss_iff {policy : ReflexInfluencePolicyState}
    {activation : ReflexActivationState} {lease : ReflexRuntimeLease}
    (hlost : LedgerLost rt w₀ policy activation lease) (hrun : RecoveryRun rt w₀ w) (epoch : ℕ) :
    AlwaysCollapses rt epoch w ↔ StillCollapses rt epoch w := by
  constructor
  · intro hcollapses
    by_contra h
    obtain ⟨left, hlive⟩ := hlost.live hrun h
    have hrecover : (recover rt epoch).run (ReflexOp.perform fun _ _ => "") w =
      (.ok ⟨"ACTIVE", "persisted_runtime_state_valid", false⟩, w) := run_recover_of_live hlive
    exact h (Or.inr (Or.inl (hcollapses _ _ (ends_of_run hrecover))))
  · exact alwaysCollapses_of_stillCollapses

/-! ### A ledger that is lost without a trace -/

/-- A policy for one provider and one model. -/
def routerPolicy : ReflexInfluencePolicyState where
  policyId := "policy"
  revision := 0
  readinessReceiptSha256 := commonSha256
  candidateProvider := "router"
  candidateModels := ["m"]
  allowedDimensions := ["risk"]
  maxInfluenceWeight := ⟨"1.0", 1⟩
  rollbackOnProviderUnavailable := true
  maxConsecutiveProviderErrors := 1
  parentPolicySha256 := none
  routingInfluenceActive := false
  runtimeActivationAuthority := false
  promotionAuthority := false
  actionAuthority := false
  executionAuthority := false
  stateSha256 := commonSha256

/-- An activation under it. -/
def routerActivation : ReflexActivationState where
  activationId := "phios.reflex.runtime.policy"
  revision := 0
  policyStateSha256 := commonSha256
  provider := "router"
  models := ["m"]
  routingSurface := routingSurface
  allowedDimensions := ["risk"]
  influenceWeight := ⟨"1.0", 1⟩
  consecutiveProviderErrors := 0
  parentActivationSha256 := none
  activatedByGrantSha256 := commonSha256
  routingInfluenceActive := true
  routingInfluenceAuthority := true
  promotionAuthority := false
  actionAuthority := false
  executionAuthority := false
  stateSha256 := commonSha256

/-- Its lease, until epoch 10. -/
def routerLease : ReflexRuntimeLease := ⟨commonSha256, 10, 0, commonSha256⟩

/-- What reading a ledger raises that is no JSON. -/
def unreadableLedger : PyError := reflexControlErr "invalid persisted JSON: ledger.json"

/-- The control files, with a ledger. -/
def routerWorld (ledger : Option (Except PyError (List Json))) : ReflexWorld where
  dirs := fun _ => .empty
  control := fun
    | .policy => some (.ok routerPolicy)
    | .activation => some (.ok routerActivation)
    | .lease => some (.ok routerLease)
    | .ledger => ledger

theorem routerPolicy_valid : validatePolicyState zeroKeyRuntime routerPolicy = .ok () := by
  decide +kernel

theorem routerActivation_valid :
    validateActivationState zeroKeyRuntime routerActivation = .ok () := by
  decide +kernel

theorem routerLease_valid : validateLease zeroKeyRuntime routerLease = .ok () := by
  decide +kernel

theorem ledgerLost_routerWorld : LedgerLost zeroKeyRuntime (routerWorld
    (some (.error unreadableLedger))) routerPolicy routerActivation routerLease where
  policyFile := checkedFile_ok routerPolicy_valid
  activationFile := checkedFile_ok routerActivation_valid
  leaseFile := checkedFile_ok routerLease_valid
  active := rfl
  policyBound := rfl
  leaseBound := rfl
  ledgerLost := ⟨_, rfl⟩

/-- A recovery may die when it has moved the ledger away. -/
theorem recoveryRun_routerWorld : RecoveryRun zeroKeyRuntime
    (routerWorld (some (.error unreadableLedger))) (routerWorld none) := by
  have hsteps : ∃ q, Prog.Steps (recover zeroKeyRuntime 0)
      [⟨.read .ledger, .error unreadableLedger⟩, ⟨.quarantine .ledger, .ok (some commonSha256)⟩] q :=
    Prog.exists_steps_op (Prog.exists_steps_op ⟨_, .refl _⟩)
  obtain ⟨q, hsteps⟩ := hsteps
  have hmoved : routerWorld none =
      (routerWorld (some (.error unreadableLedger))).setControl .ledger none := by
    unfold routerWorld ReflexWorld.setControl
    congr 1
    funext f
    cases f <;> rfl
  have hcarries : Prog.Carries ReflexOp.effect (routerWorld (some (.error unreadableLedger)))
      [⟨.quarantine .ledger, .ok (some commonSha256)⟩] (routerWorld none) :=
    .cons ⟨hmoved, by decide⟩ (.nil _)
  exact .recover .start hsteps (.cons rfl hcarries)

theorem live_routerWorld : (routerWorld none).Live zeroKeyRuntime 0 routerPolicy routerActivation
    (some routerLease) where
  policyFile := checkedFile_ok routerPolicy_valid
  activationFile := checkedFile_ok routerActivation_valid
  leaseFile := checkedFile_ok routerLease_valid
  ledgerFile := ⟨_, rfl⟩
  active := rfl
  policyBound := rfl
  leaseBound := by
    rintro l ⟨⟩
    rfl
  leaseOpen := by
    rintro l ⟨⟩
    decide

/-- COUNTEREXAMPLE: The ledger cannot be read, the first recovery dies when it has moved it away, and
the second leaves the activation active. -/
theorem ledger_loss_leaves_router_active :
    ¬ ∀ (rt : ReflexRuntime) (w₀ w : ReflexWorld) (policy : ReflexInfluencePolicyState)
      (activation : ReflexActivationState) (lease : ReflexRuntimeLease) (epoch : ℕ),
      LedgerLost rt w₀ policy activation lease → RecoveryRun rt w₀ w →
        AlwaysCollapses rt epoch w := by
  intro hclaim
  have hcollapses := hclaim _ _ _ _ _ _ 0 ledgerLost_routerWorld recoveryRun_routerWorld
  have hrecover : (recover zeroKeyRuntime 0).run (ReflexOp.perform fun _ _ => "")
      (routerWorld none) = (.ok ⟨"ACTIVE", "persisted_runtime_state_valid", false⟩,
      routerWorld none) := run_recover_of_live live_routerWorld
  exact hcollapses _ _ (ends_of_run hrecover) routerActivation rfl rfl

/-- WITNESS: A recovery that finds the ledger lost collapses the activation. -/
theorem ledger_loss_collapses_router : AlwaysCollapses zeroKeyRuntime 0
    (routerWorld (some (.error unreadableLedger))) :=
  (collapses_after_ledger_loss_iff ledgerLost_routerWorld .start 0).mpr (Or.inl ⟨_, rfl⟩)

end PhiOS
