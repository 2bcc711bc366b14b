import PhiOS.Library.CrashTriple
import PhiOS.Model.ReflexControlPlane

/-!
# The public calls of the control plane

`attach_or_shorten_lease` and `ingest_policy_payload` (control_plane.py:125, 306), and the calls as
one type. A payload that is read as a record is that record here, or the error that reading it raises.
-/

set_option autoImplicit false

namespace PhiOS

open Interaction

namespace ReflexRuntimeControlPlane

/-- What `ingest_policy_payload` does once the policy is stored: an inactive activation of another
policy is moved away. -/
def dropForeignActivation (policy : ReflexInfluencePolicyState)
    (current : Option ReflexActivationState) : ReflexProg Unit :=
  match current with
  | some state =>
      if ¬ state.routingInfluenceActive ∧ state.policyStateSha256 ≠ policy.stateSha256 then do
        let _ ← ReflexProg.quarantine .activation
        ReflexProg.remove .lease
      else return ()
  | none => return ()

/-- `ingest_policy_payload`. -/
def ingestPolicy (rt : ReflexRuntime) (payload : Except PyError ReflexInfluencePolicyState)
    (epoch : ℕ) : ReflexProg Unit := do
  let _ ← recover rt epoch
  let policy ← .ofExcept payload
  .ofExcept (validatePolicyState rt policy)
  let current ← loadActivation rt
  .ofExcept (raiseIf (current.any fun state =>
      state.routingInfluenceActive && state.policyStateSha256 ≠ policy.stateSha256)
    (reflexControlErr "deactivate live Reflex influence before replacing policy"))
  ReflexProg.write .policy policy
  dropForeignActivation policy current
  appendLedger rt "control" epoch
    (controlReceipt rt "POLICY_STORED" "validated_v0_5_policy_persisted" epoch policy.stateSha256
      none policy.readinessReceiptSha256)

/-- What `attach_or_shorten_lease` returns. -/
structure ReflexLeaseResult where
  lease : Option ReflexRuntimeLease
  receipt : Row

def attachOrShortenLease (rt : ReflexRuntime) (validThroughEpoch epoch : ℕ) :
    ReflexProg ReflexLeaseResult := do
  let _ ← recover rt epoch
  let policy ← requirePolicy rt
  let state ← requireActivation rt
  .ofExcept (raiseIf (¬ state.routingInfluenceActive)
    (reflexControlErr "cannot attach lease to inactive runtime influence"))
  let current ← loadLease rt
  .ofExcept (raiseIf (current.any fun lease => lease.validThroughEpoch < (validThroughEpoch : ℤ))
    (reflexControlErr "v0.7 lease may be shortened but not extended"))
  if validThroughEpoch ≤ epoch then do
    let deactivation ← deactivate rt "lease_expired_or_immediate" epoch
    return ⟨none, deactivation.receipt⟩
  else do
    let lease := buildLease rt state.stateSha256 validThroughEpoch epoch
    ReflexProg.write .lease lease
    let receipt := controlReceipt rt "LEASE_ATTACHED" "privilege_duration_restricted" epoch
      policy.stateSha256 state.stateSha256 (some lease.leaseSha256)
    appendLedger rt "control" epoch receipt
    return ⟨some lease, receipt⟩

end ReflexRuntimeControlPlane

/-- The public calls of `ReflexRuntimeControlPlane` that take an epoch. -/
inductive ControlCall
  | ingestPolicy (payload : Except PyError ReflexInfluencePolicyState) (epoch : ℕ)
  | ingestGrant (payload : Except PyError ReflexActivationGrant) (epoch : ℕ)
  | activate (request : ReflexActivationRequest) (grantId : String) (epoch : ℕ)
      (leaseUntilEpoch : Option ℕ)
  | attachOrShortenLease (validThroughEpoch epoch : ℕ)
  | renewLeaseAuthorized (validThroughEpoch epoch : ℕ) (authorizationSha256 : String)
  | deactivate (reason : String) (epoch : ℕ)
  | evaluateActive (input : ReflexInput) (epoch : ℕ)
  | status (epoch : ℕ)
  | recover (epoch : ℕ)

namespace ControlCall

/-- The evaluation epoch of a call. -/
def epoch : ControlCall → ℕ
  | ingestPolicy _ epoch | ingestGrant _ epoch | activate _ _ epoch _ | attachOrShortenLease _ epoch
  | renewLeaseAuthorized _ epoch _ | deactivate _ epoch | evaluateActive _ epoch | status epoch
  | recover epoch => epoch

/-- The program of a call. -/
def program (rt : ReflexRuntime) : ControlCall → ReflexProg Unit
  | ingestPolicy payload epoch => ReflexRuntimeControlPlane.ingestPolicy rt payload epoch
  | ingestGrant payload epoch =>
      (Prog.ofExcept payload).bind fun grant => ReflexRuntimeControlPlane.ingestGrant rt grant epoch
  | activate request grantId epoch leaseUntilEpoch =>
      (ReflexRuntimeControlPlane.activate rt request grantId epoch leaseUntilEpoch).bind fun _ =>
        .ret ()
  | attachOrShortenLease validThroughEpoch epoch =>
      (ReflexRuntimeControlPlane.attachOrShortenLease rt validThroughEpoch epoch).bind fun _ =>
        .ret ()
  | renewLeaseAuthorized validThroughEpoch epoch authorizationSha256 =>
      (ReflexRuntimeControlPlane.renewLeaseAuthorized rt validThroughEpoch epoch
        authorizationSha256).bind fun _ => .ret ()
  | deactivate reason epoch =>
      (ReflexRuntimeControlPlane.deactivate rt reason epoch).bind fun _ => .ret ()
  | evaluateActive input epoch =>
      (ReflexRuntimeControlPlane.evaluateActive rt input epoch).bind fun _ => .ret ()
  | status epoch => (ReflexRuntimeControlPlane.status rt epoch).bind fun _ => .ret ()
  | recover epoch => (ReflexRuntimeControlPlane.recover rt epoch).bind fun _ => .ret ()

/-- The call has run from `w` to `w'`, where it goes on with `q` or is dead. -/
def RunsTo (rt : ReflexRuntime) (c : ControlCall) (w : ReflexWorld) (q : ReflexProg Unit)
    (w' : ReflexWorld) : Prop :=
  ∃ t, Prog.Steps (c.program rt) t q ∧ Prog.Carries ReflexOp.effect w t w'

end ControlCall

end PhiOS
