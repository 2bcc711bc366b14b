import PhiOS.Library.CrashTriple
import PhiOS.Model.ReflexLifecycle

/-!
# What the reflex planes touch

Most of what the planes do stores no record and writes no active activation. `ReflexOp.Calm` is
that footprint; `ReflexOp.Quiet` is the wider one that leaves out only the storing of records. The
frame rule of `Prog.Issues` turns a footprint into what a program keeps.
-/

set_option autoImplicit false

namespace PhiOS

open Interaction

/-- An operation that stores no record. -/
def ReflexOp.Quiet : ReflexOp → Prop
  | .store _ _ _ => False
  | _ => True

/-- An operation that stores no record and writes no active activation. -/
def ReflexOp.Calm : ReflexOp → Prop
  | .store _ _ _ => False
  | .write .activation state => state.routingInfluenceActive = false
  | _ => True

theorem ReflexOp.quiet_of_calm (o : ReflexOp) (h : o.Calm) : o.Quiet := by
  cases o with
  | store d file item => exact h
  | _ => exact trivial

/-- The footprint `A` covers a recovery from the activation on: it reads, rewrites the ledger, writes
a collapsed activation, and moves the activation and the lease away. -/
structure ReflexOp.Recovers (A : ReflexOp → Prop) : Prop where
  read : ∀ f, A (.read f)
  writeLedger : ∀ entries, A (.write .ledger entries)
  writeCollapsed : ∀ state : ReflexActivationState, state.routingInfluenceActive = false →
    A (.write .activation state)
  quarantine : ∀ f, f ≠ .policy → A (.quarantine f)
  removeLease : A (.remove .lease)

theorem ReflexOp.recovers_calm : ReflexOp.Recovers ReflexOp.Calm where
  read := fun _ => trivial
  writeLedger := fun _ => trivial
  writeCollapsed := fun _ h => h
  quarantine := fun _ _ => trivial
  removeLease := trivial

/-- The programs that issue calm operations only. -/
abbrev ReflexProg.IsCalm {α : Type} (p : ReflexProg α) : Prop := p.Issues ReflexOp.Calm

namespace ReflexProg

section Primitives

variable {A : ReflexOp → Prop}

theorem issues_call_ofExcept {α : Type} {o : ReflexOp} {f : o.Reply → Except PyError α} (h : A o) :
    ((Prog.call o : ReflexProg o.Reply).bind fun r => .ofExcept (f r)).Issues A :=
  Prog.issues_op h fun r => Prog.issues_ofExcept (f r)

theorem read_issues {f : ControlFile} (hf : A (.read f)) : (read f).Issues A :=
  issues_call_ofExcept hf

end Primitives

theorem load_calm (d : ReflexDir) (file : String) : (load d file).IsCalm :=
  issues_call_ofExcept trivial

theorem list_calm (d : ReflexDir) : (list d).IsCalm := issues_call_ofExcept trivial

theorem names_calm (d : ReflexDir) : (names d).IsCalm := issues_call_ofExcept trivial

theorem quarantine_calm (f : ControlFile) : (quarantine f).IsCalm := issues_call_ofExcept trivial

theorem remove_calm (f : ControlFile) : (remove f).IsCalm := issues_call_ofExcept trivial

theorem write_lease_calm (lease : ReflexRuntimeLease) : (write .lease lease).IsCalm :=
  issues_call_ofExcept trivial

end ReflexProg

open ReflexProg

/-! ## The control plane -/

/-- What `deactivate` makes of an activation is not active. -/
theorem GovernedReflexRuntimeInfluence.deactivate_inactive {rt : ReflexRuntime}
    {policy : ReflexInfluencePolicyState} {state next : ReflexActivationState} {reason : String}
    {receipt : ReflexActivationReceipt}
    (h : deactivate rt policy state reason = .ok (next, receipt)) :
    next.routingInfluenceActive = false := by
  unfold deactivate at h
  obtain ⟨_, _, _, h⟩ := ok_past_three h
  obtain ⟨_, _, h⟩ := ok_past_two h
  split at h
  · obtain ⟨built, hbuilt, h⟩ := bind_eq_ok.mp h
    unfold buildActivationState at hbuilt
    obtain ⟨_, _, hbuilt⟩ := ok_past_two hbuilt
    cases h
    cases hbuilt
    rfl
  · rename_i hactive
    cases h
    simpa using hactive

namespace ReflexRuntimeControlPlane

variable (rt : ReflexRuntime)

section Recovery

variable {A : ReflexOp → Prop}

theorem onContractError_issues {α β : Type} {p : ReflexProg α} {handler : ReflexProg β}
    {go : α → ReflexProg β} (hp : p.Issues A) (hhandler : handler.Issues A)
    (hgo : ∀ a, (go a).Issues A) : (onContractError p handler go).Issues A := by
  apply hp.attempt.bind
  intro outcome
  cases outcome with
  | ok a => exact hgo a
  | error e =>
      show (if _ then _ else _ : ReflexProg β).Issues A
      split
      · exact hhandler
      · simp

/-! A load reads one file. -/

theorem loadLedger_issues (hread : A (.read .ledger)) : (loadLedger rt).Issues A := by
  apply (read_issues hread).bind
  intro raw
  cases raw with
  | none => simp
  | some raw => exact Prog.issues_ofExcept _

theorem loadPolicy_issues (hread : A (.read .policy)) : (loadPolicy rt).Issues A := by
  apply (read_issues hread).bind
  intro policy
  cases policy with
  | none => simp
  | some policy => exact (Prog.issues_ofExcept _).bind fun _ => Prog.issues_ret _

theorem loadActivation_issues (hread : A (.read .activation)) : (loadActivation rt).Issues A := by
  apply (read_issues hread).bind
  intro state
  cases state with
  | none => simp
  | some state => exact (Prog.issues_ofExcept _).bind fun _ => Prog.issues_ret _

theorem loadLease_issues (hread : A (.read .lease)) : (loadLease rt).Issues A := by
  apply (read_issues hread).bind
  intro lease
  cases lease with
  | none => simp
  | some lease => exact (Prog.issues_ofExcept _).bind fun _ => Prog.issues_ret _

variable (hA : ReflexOp.Recovers A)

include hA

theorem appendLedger_issues (kind : String) (epoch : ℕ) (receipt : Row) :
    (appendLedger rt kind epoch receipt).Issues A :=
  (loadLedger_issues rt (hA.read _)).bind fun _ => issues_call_ofExcept (hA.writeLedger _)

theorem appendAuditReceipt_issues (kind : String) (epoch : ℕ) (receipt : Row) :
    (appendAuditReceipt rt kind epoch receipt).Issues A :=
  (Prog.issues_ofExcept _).bind fun _ => appendLedger_issues rt hA _ _ _

theorem rolledBack_issues (epoch : ℕ) (reason : String) (ledgerReset : Bool)
    (policySha activationSha related : Option String) :
    (rolledBack rt epoch reason ledgerReset policySha activationSha related).Issues A :=
  (appendLedger_issues rt hA _ _ _).bind fun _ => Prog.issues_ret _

theorem collapse_issues (epoch : ℕ) (policy : ReflexInfluencePolicyState)
    (activation : ReflexActivationState) (reason : String) (removeLease : Bool) :
    (collapse rt epoch policy activation reason removeLease).Issues A := by
  unfold collapse
  cases h : GovernedReflexRuntimeInfluence.deactivate rt policy activation reason with
  | error e => simp
  | ok result =>
      obtain ⟨next, receipt⟩ := result
      apply (issues_call_ofExcept (hA.writeCollapsed next
        (GovernedReflexRuntimeInfluence.deactivate_inactive h))).bind
      intro _
      cases removeLease with
      | false => exact (appendLedger_issues rt hA _ _ _).bind fun _ => Prog.issues_ret _
      | true =>
          apply (issues_call_ofExcept hA.removeLease).bind
          exact fun _ => (appendLedger_issues rt hA _ _ _).bind fun _ => Prog.issues_ret _

theorem dropLease_issues (epoch : ℕ) (ledgerReset : Bool) (policy : ReflexInfluencePolicyState)
    (activation : ReflexActivationState) (collapseReason reason : String) :
    (dropLease rt epoch ledgerReset policy activation collapseReason reason).Issues A := by
  apply (issues_call_ofExcept (hA.quarantine .lease (by decide))).bind
  intro related
  show (if _ then _ else _ : ReflexProg _).Issues A
  split
  · apply (collapse_issues rt hA _ _ _ _ _).bind
    exact fun _ => rolledBack_issues rt hA _ _ _ _ _ _
  · exact rolledBack_issues rt hA _ _ _ _ _ _

theorem recoverLease_issues (epoch : ℕ) (ledgerReset : Bool) (policy : ReflexInfluencePolicyState)
    (activation : ReflexActivationState) (lease : Option ReflexRuntimeLease) :
    (recoverLease rt epoch ledgerReset policy activation lease).Issues A := by
  unfold recoverLease
  split
  · exact dropLease_issues rt hA _ _ _ _ _ _
  · split
    · apply (collapse_issues rt hA _ _ _ _ _).bind
      exact fun _ => (appendLedger_issues rt hA _ _ _).bind fun _ => Prog.issues_ret _
    · split
      · apply (collapse_issues rt hA _ _ _ _ _).bind
        exact fun _ => rolledBack_issues rt hA _ _ _ _ _ _
      · simp

theorem quarantineActivation_issues : quarantineActivation.Issues A :=
  (issues_call_ofExcept (hA.quarantine .activation (by decide))).bind fun _ =>
    (issues_call_ofExcept (hA.quarantine .lease (by decide))).bind fun _ => Prog.issues_ret _

theorem recoverActivation_issues (epoch : ℕ) (ledgerReset : Bool)
    (policy : Option ReflexInfluencePolicyState) :
    (recoverActivation rt epoch ledgerReset policy).Issues A := by
  have hdrop : ∀ (reason : String) (policySha activationSha : Option String),
      (quarantineActivation.bind fun related =>
        rolledBack rt epoch reason ledgerReset policySha activationSha related).Issues A :=
    fun _ _ _ => (quarantineActivation_issues hA).bind fun _ => rolledBack_issues rt hA _ _ _ _ _ _
  apply onContractError_issues (loadActivation_issues rt (hA.read _))
  · exact hdrop _ _ _
  · intro activation
    cases activation with
    | none =>
        exact (issues_call_ofExcept (hA.quarantine .lease (by decide))).bind fun _ =>
          Prog.issues_ret _
    | some activation =>
        cases policy with
        | none => exact hdrop _ _ _
        | some policy =>
            show (if _ then _ else _ : ReflexProg _).Issues A
            split
            · exact hdrop _ _ _
            · apply onContractError_issues (loadLease_issues rt (hA.read _))
              · exact dropLease_issues rt hA _ _ _ _ _ _
              · exact fun lease => recoverLease_issues rt hA _ _ _ _ lease

end Recovery

theorem loadLedger_calm : (loadLedger rt).IsCalm := loadLedger_issues rt trivial

theorem appendLedger_calm (kind : String) (epoch : ℕ) (receipt : Row) :
    (appendLedger rt kind epoch receipt).IsCalm :=
  appendLedger_issues rt ReflexOp.recovers_calm kind epoch receipt

theorem appendAuditReceipt_calm (kind : String) (epoch : ℕ) (receipt : Row) :
    (appendAuditReceipt rt kind epoch receipt).IsCalm :=
  appendAuditReceipt_issues rt ReflexOp.recovers_calm kind epoch receipt

theorem loadPolicy_calm : (loadPolicy rt).IsCalm := loadPolicy_issues rt trivial

theorem loadActivation_calm : (loadActivation rt).IsCalm :=
  loadActivation_issues rt trivial

theorem loadLease_calm : (loadLease rt).IsCalm := loadLease_issues rt trivial

theorem recover_issues {A : ReflexOp → Prop} (hA : ReflexOp.Recovers A)
    (hpolicy : A (.quarantine .policy)) (epoch : ℕ) : (recover rt epoch).Issues A := by
  apply Prog.Issues.bind
  · apply onContractError_issues (loadLedger_issues rt (hA.read _))
    · exact (issues_call_ofExcept (hA.quarantine .ledger (by decide))).bind fun _ =>
        Prog.issues_ret _
    · exact fun _ => Prog.issues_ret _
  · intro ledgerReset
    apply onContractError_issues (loadPolicy_issues rt (hA.read _))
    · apply (issues_call_ofExcept hpolicy).bind
      intro _
      apply (quarantineActivation_issues hA).bind
      exact fun _ => rolledBack_issues rt hA _ _ _ _ _ _
    · exact fun policy => recoverActivation_issues rt hA _ _ policy

theorem recover_calm (epoch : ℕ) : (recover rt epoch).IsCalm :=
  recover_issues rt ReflexOp.recovers_calm trivial epoch

theorem status_issues {A : ReflexOp → Prop} (hA : ReflexOp.Recovers A)
    (hpolicy : A (.quarantine .policy)) (hnames : A (.names .grants)) (epoch : ℕ) :
    (status rt epoch).Issues A := by
  apply (recover_issues rt hA hpolicy epoch).bind
  intro _
  apply (loadPolicy_issues rt (hA.read _)).bind
  intro _
  apply (loadActivation_issues rt (hA.read _)).bind
  intro _
  apply (loadLease_issues rt (hA.read _)).bind
  intro _
  apply (issues_call_ofExcept hnames).bind
  exact fun _ => (loadLedger_issues rt (hA.read _)).bind fun _ => Prog.issues_ret _

theorem status_calm (epoch : ℕ) : (status rt epoch).IsCalm :=
  status_issues rt ReflexOp.recovers_calm trivial trivial epoch

/-- A deactivation recovers, and collapses privilege. -/
theorem deactivate_issues {A : ReflexOp → Prop} (hA : ReflexOp.Recovers A)
    (hpolicy : A (.quarantine .policy)) (reason : String) (epoch : ℕ) :
    (deactivate rt reason epoch).Issues A := by
  apply (recover_issues rt hA hpolicy epoch).bind
  intro _
  apply (loadPolicy_issues rt (hA.read _)).bind
  intro policy
  apply (loadActivation_issues rt (hA.read _)).bind
  intro state
  have hnone : ∀ receipt : Row, ((appendLedger rt "control" epoch receipt).bind fun _ =>
      (.ret ⟨none, receipt⟩ : ReflexProg ReflexDeactivation)).Issues A :=
    fun _ => (appendLedger_issues rt hA _ _ _).bind fun _ => Prog.issues_ret _
  cases policy with
  | none => cases state <;> exact hnone _
  | some policy =>
      cases state with
      | none => exact hnone _
      | some state =>
          dsimp only
          cases h : GovernedReflexRuntimeInfluence.deactivate rt policy state reason with
          | error e => simp
          | ok result =>
              obtain ⟨next, receipt⟩ := result
              have hinactive := GovernedReflexRuntimeInfluence.deactivate_inactive h
              apply (issues_call_ofExcept (hA.writeCollapsed next hinactive)).bind
              intro _
              apply (issues_call_ofExcept hA.removeLease).bind
              exact fun _ => (appendLedger_issues rt hA _ _ _).bind fun _ => Prog.issues_ret _

theorem deactivate_calm (reason : String) (epoch : ℕ) : (deactivate rt reason epoch).IsCalm :=
  deactivate_issues rt ReflexOp.recovers_calm trivial reason epoch

section Require

variable {A : ReflexOp → Prop}

theorem requirePolicy_issues (hread : A (.read .policy)) : (requirePolicy rt).Issues A := by
  apply (loadPolicy_issues rt hread).bind
  intro policy
  cases policy <;> simp

theorem requireActivation_issues (hread : A (.read .activation)) :
    (requireActivation rt).Issues A := by
  apply (loadActivation_issues rt hread).bind
  intro state
  cases state <;> simp

theorem requireGrant_issues {grantId : String} (hload : A (.load .grants (grantId ++ ".json"))) :
    (requireGrant rt grantId).Issues A := by
  apply (Prog.issues_ofExcept _).bind
  intro _
  apply (issues_call_ofExcept hload).bind
  intro grant
  cases grant with
  | none => simp
  | some grant => exact (Prog.issues_ofExcept _).bind fun _ => Prog.issues_ret _

end Require

theorem requirePolicy_calm : (requirePolicy rt).IsCalm := requirePolicy_issues rt trivial

theorem requireActivation_calm : (requireActivation rt).IsCalm := requireActivation_issues rt trivial

theorem requireGrant_calm (grantId : String) : (requireGrant rt grantId).IsCalm :=
  requireGrant_issues rt trivial

theorem renewLeaseAuthorized_calm (validThroughEpoch epoch : ℕ) (authorizationSha256 : String) :
    (renewLeaseAuthorized rt validThroughEpoch epoch authorizationSha256).IsCalm := by
  apply (Prog.issues_ofExcept _).bind
  intro _
  apply (recover_calm rt epoch).bind
  intro _
  apply (requirePolicy_calm rt).bind
  intro policy
  apply (requireActivation_calm rt).bind
  intro state
  apply (Prog.issues_ofExcept _).bind
  intro _
  apply (loadLease_calm rt).bind
  intro lease
  cases lease with
  | none => simp
  | some current =>
      apply (Prog.issues_ofExcept _).bind
      intro _
      apply (write_lease_calm _).bind
      exact fun _ => (appendLedger_calm rt _ _ _).bind fun _ => Prog.issues_ret _

/-! Activating and evaluating write activations that may be active. -/

theorem write_quiet (f : ControlFile) (item : f.Item) :
    (ReflexProg.write f item).Issues ReflexOp.Quiet := issues_call_ofExcept trivial

theorem activate_quiet (request : ReflexActivationRequest) (grantId : String) (epoch : ℕ)
    (leaseUntilEpoch : Option ℕ) :
    (activate rt request grantId epoch leaseUntilEpoch).Issues ReflexOp.Quiet := by
  unfold activate
  apply ((recover_calm rt epoch).mono ReflexOp.quiet_of_calm).bind
  intro _
  apply ((requirePolicy_calm rt).mono ReflexOp.quiet_of_calm).bind
  intro policy
  apply ((loadActivation_calm rt).mono ReflexOp.quiet_of_calm).bind
  intro current
  apply ((requireGrant_calm rt grantId).mono ReflexOp.quiet_of_calm).bind
  intro grant
  apply ((loadLease_calm rt).mono ReflexOp.quiet_of_calm).bind
  intro existing
  apply (Prog.issues_ofExcept _).bind
  intro _
  apply (Prog.issues_ofExcept _).bind
  rintro ⟨next, receipt⟩
  have hstore : (storeActivation current next).Issues ReflexOp.Quiet := by
    cases next with
    | none => simp [storeActivation]
    | some state =>
        dsimp only [storeActivation]
        split
        · exact write_quiet .activation state
        · exact Prog.issues_ret _
  apply hstore.bind
  intro _
  apply ((appendLedger_calm rt _ _ _).mono ReflexOp.quiet_of_calm).bind
  intro _
  have hlease : (leaseActivation rt epoch existing leaseUntilEpoch receipt.status next).Issues
      ReflexOp.Quiet := by
    unfold leaseActivation
    split
    · exact Prog.issues_ret _
    · dsimp only
      split
      · exact (write_quiet .lease _).bind fun _ => Prog.issues_ret _
      · exact ((remove_calm .lease).mono ReflexOp.quiet_of_calm).bind fun _ => Prog.issues_ret _
  exact hlease.bind fun _ => Prog.issues_ret _

theorem evaluate_issues {A : ReflexOp → Prop} (hevaluate : ∀ role input, A (.evaluate role input))
    (policy : ReflexInfluencePolicyState) (state : ReflexActivationState) (input : ReflexInput) :
    (GovernedReflexRuntimeInfluence.evaluate rt policy state input).Issues A := by
  unfold GovernedReflexRuntimeInfluence.evaluate
  apply (Prog.issues_ofExcept _).bind
  intro _
  have hbaseline : ((Prog.call (ReflexOp.evaluate .baseline input)).bind .ofExcept :
      ReflexProg ReflexDecision).Issues A :=
    issues_call_ofExcept (o := .evaluate .baseline input) (f := fun r => r) (hevaluate _ _)
  apply hbaseline.bind
  intro baseline
  refine Prog.issues_op (hevaluate _ _) fun answer => ?_
  dsimp only [Prog.bind]
  split
  · exact Prog.issues_ofExcept _
  · split
    · exact Prog.issues_ret _
    · split
      · exact Prog.issues_ret _
      · exact Prog.issues_raise _

theorem evaluate_calm (policy : ReflexInfluencePolicyState) (state : ReflexActivationState)
    (input : ReflexInput) :
    (GovernedReflexRuntimeInfluence.evaluate rt policy state input).IsCalm :=
  evaluate_issues rt (fun _ _ => trivial) policy state input

theorem evaluateActive_quiet (input : ReflexInput) (epoch : ℕ) :
    (evaluateActive rt input epoch).Issues ReflexOp.Quiet := by
  unfold evaluateActive
  apply ((recover_calm rt epoch).mono ReflexOp.quiet_of_calm).bind
  intro _
  apply ((loadPolicy_calm rt).mono ReflexOp.quiet_of_calm).bind
  intro policy
  apply ((loadActivation_calm rt).mono ReflexOp.quiet_of_calm).bind
  intro state
  split
  · split
    · rename_i policy state hactive
      apply ((loadLease_calm rt).mono ReflexOp.quiet_of_calm).bind
      intro lease
      apply ((evaluate_calm rt policy state input).mono ReflexOp.quiet_of_calm).bind
      intro evaluation
      have hkeep : (keepEvaluation rt state evaluation.next lease).Issues ReflexOp.Quiet := by
        unfold keepEvaluation
        split
        · apply (write_quiet .activation _).bind
          intro _
          split
          · cases lease with
            | none => exact Prog.issues_ret _
            | some lease => exact write_quiet .lease _
          · exact (remove_calm .lease).mono ReflexOp.quiet_of_calm
        · exact Prog.issues_ret _
      apply hkeep.bind
      intro _
      exact ((appendLedger_calm rt _ _ _).mono ReflexOp.quiet_of_calm).bind fun _ =>
        Prog.issues_ret _
    · exact Prog.issues_ret _
  · exact Prog.issues_ret _

end ReflexRuntimeControlPlane

/-! ## The authority plane -/

namespace ReflexAuthorityPlane

open ReflexRuntimeControlPlane (appendAuditReceipt_calm deactivate_calm status_calm loadLedger_calm)

variable (rt : ReflexRuntime)

theorem requireAnchor_calm (issuerId keyId : String) : (requireAnchor rt issuerId keyId).IsCalm := by
  apply (Prog.issues_ofExcept _).bind
  intro file
  apply (load_calm .trust file).bind
  intro anchor
  cases anchor with
  | none => simp
  | some anchor => exact (Prog.issues_ofExcept _).bind fun _ => Prog.issues_ret _

theorem verifySignedPayload_calm (issuerId keyId purpose : String) (payload : Row)
    (signatureB64 : String) :
    (verifySignedPayload rt issuerId keyId purpose payload signatureB64).IsCalm := by
  apply (Prog.issues_ofExcept _).bind
  intro _
  apply (requireAnchor_calm rt _ _).bind
  exact fun _ => (Prog.issues_ofExcept _).bind fun _ => Prog.issues_ret _

theorem verifySignedGrant_calm (envelope : SignedActivationGrantEnvelope) (epoch : ℕ) :
    (verifySignedGrant rt envelope epoch).IsCalm := by
  apply (Prog.issues_ofExcept _).bind
  intro _
  exact (requireAnchor_calm rt _ _).bind fun _ => Prog.issues_ofExcept _

theorem verifyRevocation_calm (revocation : ReflexGrantRevocation) :
    (verifyRevocation rt revocation).IsCalm := by
  apply (Prog.issues_ofExcept _).bind
  intro _
  exact (requireAnchor_calm rt _ _).bind fun _ => Prog.issues_ofExcept _

theorem readTyped_calm (d : ReflexDir) (validator : d.Item → Except PyError Unit) :
    (readTyped d validator).IsCalm :=
  (list_calm d).bind fun _ => (Prog.issues_ofExcept _).bind fun _ => Prog.issues_ret _

theorem findSignedGrantBySha_calm (grantSha256 : String) :
    (findSignedGrantBySha rt grantSha256).IsCalm :=
  (list_calm .signedGrants).bind fun _ => Prog.issues_ret _

theorem findSignedGrantById_calm (grantId : String) : (findSignedGrantById rt grantId).IsCalm := by
  apply (Prog.issues_ofExcept _).bind
  intro name
  apply (load_calm .signedGrants _).bind
  intro envelope
  cases envelope with
  | none => simp
  | some envelope => exact (Prog.issues_ofExcept _).bind fun _ => Prog.issues_ret _

theorem findSignedGrantBySha256_calm (grantSha256 : String) :
    (findSignedGrantBySha256 rt grantSha256).IsCalm :=
  (Prog.issues_ofExcept _).bind fun _ => findSignedGrantBySha_calm rt _

theorem effectiveRevocation_calm (grantSha256 : String) (epoch : ℕ) :
    (effectiveRevocation rt grantSha256 epoch).IsCalm := by
  apply (readTyped_calm .revocations _).bind
  intro revocations
  split
  · simp
  · exact (verifyRevocation_calm rt _).bind fun _ => Prog.issues_ret _

theorem onAuthorityError_calm {α β : Type} {p : ReflexProg α} {handler : PyError → ReflexProg β}
    {go : α → ReflexProg β} (hp : p.IsCalm) (hhandler : ∀ e, (handler e).IsCalm)
    (hgo : ∀ a, (go a).IsCalm) : (onAuthorityError p handler go).IsCalm := by
  apply hp.attempt.bind
  intro outcome
  cases outcome with
  | ok a => exact hgo a
  | error e =>
      show (if _ then _ else _ : ReflexProg β).IsCalm
      split
      · exact hhandler e
      · simp

theorem enforceActiveAuthority_calm (epoch : ℕ) : (enforceActiveAuthority rt epoch).IsCalm := by
  apply (status_calm rt epoch).bind
  intro status
  have hcollapse : ∀ reason, ((ReflexRuntimeControlPlane.deactivate rt reason epoch).bind fun d =>
      (.ret (some d) : ReflexProg (Option ReflexDeactivation))).Issues ReflexOp.Calm :=
    fun reason => (deactivate_calm rt reason epoch).bind fun _ => Prog.issues_ret _
  dsimp only
  split
  · simp
  · apply (findSignedGrantBySha_calm rt _).bind
    intro envelope
    cases envelope with
    | none => exact hcollapse _
    | some envelope =>
        apply onAuthorityError_calm (verifySignedGrant_calm rt envelope epoch)
        · exact fun _ => hcollapse _
        · intro _
          apply (effectiveRevocation_calm rt _ _).bind
          intro revoked
          cases revoked with
          | true => exact hcollapse _
          | false => simp

theorem controlSha_calm (status : ReflexControlStatus) (anchors : List ReflexAuthorityTrustAnchor)
    (grants : List SignedActivationGrantEnvelope) (revocations : List ReflexGrantRevocation) :
    (controlSha rt status anchors grants revocations).IsCalm :=
  (loadLedger_calm rt).bind fun _ => Prog.issues_ret _

theorem failClosed_calm {α : Type} (epoch : ℕ) (status : ReflexControlStatus) {p : ReflexProg α}
    (hp : p.IsCalm) : (failClosed rt epoch status p).IsCalm := by
  apply onAuthorityError_calm hp
  · intro e
    show (if _ then _ else _ : ReflexProg α).IsCalm
    split
    · exact (deactivate_calm rt _ _).bind fun _ => Prog.issues_raise e
    · simp
  · exact fun _ => Prog.issues_ret _

/-- A status call collapses privilege and nothing else. -/
theorem status_calm (epoch : ℕ) : (status rt epoch).IsCalm := by
  apply (ReflexRuntimeControlPlane.status_calm rt epoch).bind
  intro first
  apply (failClosed_calm rt epoch first (enforceActiveAuthority_calm rt epoch)).bind
  intro enforcement
  have hrest : ∀ control, ((failClosed rt epoch control
      (readTyped .trust (validateTrustAnchor rt))).bind fun anchors =>
      (failClosed rt epoch control (readTyped .signedGrants (validateSignedGrantShape rt))).bind
        fun grants => (failClosed rt epoch control
          (readTyped .revocations (validateRevocationShape rt))).bind fun revocations =>
          (controlSha rt control anchors grants revocations).bind fun sha =>
            (.ret ⟨sha, enforcement, control, anchors, grants, revocations⟩ :
              ReflexProg ReflexAuthorityStatus)).Issues ReflexOp.Calm := by
    intro control
    apply (failClosed_calm rt epoch control (readTyped_calm .trust _)).bind
    intro anchors
    apply (failClosed_calm rt epoch control (readTyped_calm .signedGrants _)).bind
    intro grants
    apply (failClosed_calm rt epoch control (readTyped_calm .revocations _)).bind
    exact fun revocations => (controlSha_calm rt _ _ _ _).bind fun _ => Prog.issues_ret _
  cases enforcement with
  | none => exact hrest first
  | some enforcement =>
      apply (failClosed_calm rt epoch first (ReflexRuntimeControlPlane.status_calm rt epoch)).bind
      exact hrest

theorem assertControlSha_calm (expected : Option String) (epoch : ℕ) :
    (assertControlSha rt expected epoch).IsCalm := by
  unfold assertControlSha
  cases expected with
  | none => simp
  | some digest =>
      apply (Prog.issues_ofExcept _).bind
      intro _
      exact (status_calm rt epoch).bind fun _ => Prog.issues_ofExcept _

theorem requireSignedGrant_calm (grantId : String) : (requireSignedGrant grantId).IsCalm := by
  apply (Prog.issues_ofExcept _).bind
  intro name
  apply (load_calm .signedGrants _).bind
  intro envelope
  cases envelope <;> simp

theorem collapseIfTargetActive_calm (targetGrantSha256 reason : String) (epoch : ℕ) :
    (collapseIfTargetActive rt targetGrantSha256 reason epoch).IsCalm := by
  apply (ReflexRuntimeControlPlane.status_calm rt epoch).bind
  intro status
  split
  · show (if _ then _ else _ : ReflexProg _).IsCalm
    split
    · exact (deactivate_calm rt _ _).bind fun _ => Prog.issues_ret _
    · simp
  · simp

theorem concludeRevocation_calm (revocation : ReflexGrantRevocation) (epoch : ℕ) (present : Bool) :
    (concludeRevocation rt revocation epoch present).IsCalm := by
  unfold concludeRevocation
  dsimp only
  split
  · apply (collapseIfTargetActive_calm rt _ _ _).bind
    exact fun _ => (appendAuditReceipt_calm rt _ _ _).bind fun _ => Prog.issues_ret _
  · exact (appendAuditReceipt_calm rt _ _ _).bind fun _ => Prog.issues_ret _

end ReflexAuthorityPlane

/-! ## The lifecycle plane -/

namespace ReflexTrustLifecyclePlane

open ReflexAuthorityPlane (requireAnchor_calm verifySignedPayload_calm readTyped_calm
  onAuthorityError_calm findSignedGrantBySha256_calm findSignedGrantById_calm)

variable (rt : ReflexRuntime)

theorem listTransitions_calm : (listTransitions rt).IsCalm := readTyped_calm .transitions _

theorem verifyTransitionSignature_calm (transition : ReflexTrustTransition) :
    (verifyTransitionSignature rt transition).IsCalm :=
  (verifySignedPayload_calm rt _ _ _ _ _).bind fun _ => Prog.issues_ret _

theorem keyIsLive_calm (issuerId keyId : String) (epoch : ℕ) :
    (keyIsLive rt issuerId keyId epoch).IsCalm := by
  apply onAuthorityError_calm (requireAnchor_calm rt issuerId keyId)
  · exact fun _ => Prog.issues_ret _
  · intro _
    apply (listTransitions_calm rt).bind
    intro transitions
    split
    · exact (verifyTransitionSignature_calm rt _).bind fun _ => Prog.issues_ret _
    · simp

theorem requireLiveSigner_calm (issuerId keyId : String) (epoch : ℕ) :
    (requireLiveSigner rt issuerId keyId epoch).IsCalm := by
  unfold requireLiveSigner
  apply (keyIsLive_calm rt issuerId keyId epoch).bind
  intro live
  cases live <;> simp

theorem requireSignedBy_calm (issuerId keyId : String) (purpose : AuthorityPurpose) (payload : Row)
    (signatureB64 : String) (epoch : ℕ) :
    (requireSignedBy rt issuerId keyId purpose payload signatureB64 epoch).IsCalm := by
  unfold requireSignedBy
  apply (requireLiveSigner_calm rt issuerId keyId epoch).bind
  intro _
  apply (verifySignedPayload_calm rt issuerId keyId purpose.value payload signatureB64).bind
  simp

theorem requireGrant_calm (grantSha256 : String) : (requireGrant rt grantSha256).IsCalm := by
  unfold requireGrant
  apply (findSignedGrantBySha256_calm rt grantSha256).bind
  intro envelope
  cases envelope <;> simp

theorem requireGrantById_calm (grantId : String) : (requireGrantById rt grantId).IsCalm := by
  unfold requireGrantById
  apply (findSignedGrantById_calm rt grantId).bind
  intro envelope
  cases envelope <;> simp

theorem firstLiveManifest_calm (epoch : ℕ) (covers : ReflexProviderManifest → Bool)
    (manifests : List ReflexProviderManifest) :
    (firstLiveManifest rt epoch covers manifests).IsCalm := by
  induction manifests with
  | nil => simp [firstLiveManifest]
  | cons manifest rest ih =>
      unfold firstLiveManifest
      split
      · apply (keyIsLive_calm rt _ _ _).bind
        intro live
        cases live with
        | true => exact (verifySignedPayload_calm rt _ _ _ _ _).bind fun _ => Prog.issues_ret _
        | false => exact ih
      · exact ih

theorem requireProviderManifest_calm (envelope : SignedActivationGrantEnvelope) (provider : String)
    (models : List String) (adapterId adapterVersion : String) (epoch : ℕ) :
    (requireProviderManifest rt envelope provider models adapterId adapterVersion epoch).IsCalm :=
  (readTyped_calm .manifests _).bind fun _ => firstLiveManifest_calm rt _ _ _

theorem requireUsePolicy_calm (grantSha256 : String) (epoch : ℕ) :
    (requireUsePolicy rt grantSha256 epoch).IsCalm := by
  apply (load_calm .usePolicies _).bind
  intro policy
  cases policy with
  | none => simp
  | some policy =>
      apply (Prog.issues_ofExcept _).bind
      exact fun _ => (requireSignedBy_calm rt _ _ _ _ _ _).bind fun _ => Prog.issues_ret _

theorem usageOf_calm (grantSha256 : String) : (usageOf rt grantSha256).IsCalm := by
  apply (load_calm .usage _).bind
  intro usage
  cases usage with
  | none => simp
  | some usage => exact (Prog.issues_ofExcept _).bind fun _ => Prog.issues_ret _

theorem collapseIfKeyRetired_calm (issuerId keyId : String) (epoch : ℕ) :
    (collapseIfKeyRetired rt issuerId keyId epoch).IsCalm := by
  apply (ReflexAuthorityPlane.status_calm rt epoch).bind
  intro status
  dsimp only
  split
  · simp
  · apply (requireGrant_calm rt _).bind
    intro envelope
    show (if _ then _ else _ : ReflexProg Unit).IsCalm
    split
    · exact (ReflexRuntimeControlPlane.deactivate_calm rt _ _).bind fun _ => Prog.issues_ret _
    · simp

theorem enforceManifest_calm (envelope : SignedActivationGrantEnvelope)
    (activation : ReflexActivationState) (adapter : Option (String × String)) (epoch : ℕ) :
    (enforceManifest rt envelope activation adapter epoch).IsCalm := by
  unfold enforceManifest
  cases adapter with
  | none => simp
  | some adapter =>
      apply (requireProviderManifest_calm rt _ _ _ _ _ _).attempt.bind
      intro outcome
      cases outcome with
      | ok a => simp
      | error e =>
          show (if _ then _ else _ : ReflexProg _).IsCalm
          split
          · exact (ReflexRuntimeControlPlane.deactivate_calm rt _ _).bind fun _ => Prog.issues_ret _
          · simp

theorem audited_calm {α : Type} (kind : String) (epoch : ℕ) (item : α) (receipt : Row) :
    (audited rt kind epoch item receipt).IsCalm :=
  (ReflexRuntimeControlPlane.appendAuditReceipt_calm rt _ _ _).bind fun _ => Prog.issues_ret _

theorem statusRecords_calm (enforcement : Option ReflexDeactivation)
    (authority : ReflexAuthorityStatus) : (statusRecords rt enforcement authority).IsCalm := by
  apply (listTransitions_calm rt).bind
  intro _
  apply (readTyped_calm .checkpoints _).bind
  intro _
  apply (readTyped_calm .usePolicies _).bind
  intro _
  apply (list_calm .usage).bind
  intro _
  apply (readTyped_calm .manifests _).bind
  exact fun _ => (readTyped_calm .renewals _).bind fun _ => Prog.issues_ret _

end ReflexTrustLifecyclePlane

end PhiOS
