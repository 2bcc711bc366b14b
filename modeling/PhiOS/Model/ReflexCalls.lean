import PhiOS.Library.CrashTriple
import PhiOS.Model.ReflexLifecycle

/-!
# Runs of the reflex planes

A run is a sequence of calls of the authority and lifecycle planes on one store. A call holds the
lock, so that calls come one after the other; it may return, raise or die after any of its
operations. Between two calls the control plane, used directly, may do anything to its own files.
-/

set_option autoImplicit false

namespace PhiOS

open Interaction KeyOrder

/-- The records of all directories. -/
abbrev ReflexRecords := (d : ReflexDir) → Dict String d.Item

/-- The public calls of `ReflexAuthorityPlane` and `ReflexTrustLifecyclePlane` that do more than
read. An adapter is its identifier and its version. -/
inductive ReflexCall
  | ingestTrustAnchor (payload : Row) (epoch : ℕ) (expectedControlSha256 : Option String)
  | ingestSignedGrant (payload : Row) (epoch : ℕ) (expectedControlSha256 : Option String)
  | ingestRevocation (payload : Row) (epoch : ℕ) (expectedControlSha256 : Option String)
  | activateSigned (request : ReflexActivationRequest) (grantId : String) (epoch : ℕ)
      (leaseUntilEpoch : Option ℕ) (expectedControlSha256 : Option String)
  | authorityStatus (epoch : ℕ)
  | authorityEvaluate (input : ReflexInput) (epoch : ℕ)
  | deactivate (reason : String) (epoch : ℕ)
  | ingestTrustTransition (payload : Row) (epoch : ℕ)
  | ingestGrantUsePolicy (payload : Row) (epoch : ℕ)
  | ingestProviderManifest (payload : Row) (epoch : ℕ)
  | activateVerified (request : ReflexActivationRequest) (grantId adapterId adapterVersion : String)
      (epoch : ℕ) (leaseUntilEpoch : Option ℕ) (expectedControlSha256 : Option String)
  | renewLease (payload : Row) (epoch : ℕ)
  | ingestCheckpoint (payload : Row) (epoch : ℕ)
  | status (epoch : ℕ) (adapter : Option (String × String))
  | evaluateActive (input : ReflexInput) (adapterId adapterVersion : String) (epoch : ℕ)

/-- The program can return from `w`. -/
def Accepts {α : Type} (p : ReflexProg α) (w : ReflexWorld) : Prop :=
  ∃ t a w', Prog.Steps p t (.ret a) ∧ Prog.Carries ReflexOp.effect w t w'

/-- What reading a file of the control plane gives. -/
def readContent {α : Type} : Option (Except PyError α) → Except PyError (Option α)
  | none => .ok none
  | some (.ok item) => .ok (some item)
  | some (.error e) => .error e

/-- The operations as they go when nothing fails; no provider answers. -/
def ReflexOp.act (w : ReflexWorld) : (o : ReflexOp) → o.Reply × ReflexWorld
  | .load d file => (.ok ((w.dirs d).get? file), w)
  | .list d => (.ok ((w.dirs d).entries.map (·.2)), w)
  | .names d => (.ok ((w.dirs d).entries.map (·.1)), w)
  | .store d file item => (.ok (), w.store d file item)
  | .read f => (readContent (w.control f), w)
  | .write f item => (.ok (), w.setControl f (some (.ok item)))
  | .quarantine f => (.ok ((w.control f).map fun _ => ""), w.setControl f none)
  | .remove f => (.ok (), w.setControl f none)
  | .evaluate _ _ => (.error ⟨.exception "ReflexProviderUnavailable", "", []⟩, w)

/-- This is one of the ways in which they may go. -/
theorem ReflexOp.effect_act (w : ReflexWorld) (o : ReflexOp) :
    o.effect w (ReflexOp.act w o).1 (ReflexOp.act w o).2 := by
  cases o with
  | read f =>
      have hread : (ReflexOp.read f).effect w (readContent (w.control f)) w := by
        cases hcontrol : w.control f with
        | none => exact ⟨rfl, hcontrol⟩
        | some content =>
            cases content with
            | ok item => exact ⟨rfl, hcontrol⟩
            | error e => exact rfl
      exact hread
  | quarantine f => exact ⟨rfl, by simp⟩
  | load d file => exact ⟨rfl, rfl⟩
  | list d => exact ⟨rfl, rfl⟩
  | names d => exact ⟨rfl, rfl⟩
  | store d file item => exact rfl
  | write f item => exact rfl
  | remove f => exact rfl
  | evaluate role input => exact rfl

namespace ReflexCall

/-- The evaluation epoch of a call. -/
def epoch : ReflexCall → ℕ
  | ingestTrustAnchor _ epoch _ | ingestSignedGrant _ epoch _ | ingestRevocation _ epoch _
  | activateSigned _ _ epoch _ _ | authorityStatus epoch | authorityEvaluate _ epoch
  | deactivate _ epoch | ingestTrustTransition _ epoch | ingestGrantUsePolicy _ epoch
  | ingestProviderManifest _ epoch | activateVerified _ _ _ _ epoch _ _ | renewLease _ epoch
  | ingestCheckpoint _ epoch | status epoch _ | evaluateActive _ _ _ epoch => epoch

/-- Run a program for its effect. -/
def drop {α : Type} (p : ReflexProg α) : ReflexProg Unit := p.bind fun _ => .ret ()

/-- The program of a call. -/
def program (rt : ReflexRuntime) : ReflexCall → ReflexProg Unit
  | ingestTrustAnchor payload epoch expected =>
      drop (ReflexAuthorityPlane.ingestTrustAnchor rt payload epoch expected)
  | ingestSignedGrant payload epoch expected =>
      drop (ReflexAuthorityPlane.ingestSignedGrant rt payload epoch expected)
  | ingestRevocation payload epoch expected =>
      drop (ReflexAuthorityPlane.ingestRevocation rt payload epoch expected)
  | activateSigned request grantId epoch leaseUntilEpoch expected =>
      drop (ReflexAuthorityPlane.activateVerified rt request grantId epoch leaseUntilEpoch expected)
  | authorityStatus epoch => drop (ReflexAuthorityPlane.status rt epoch)
  | authorityEvaluate input epoch => drop (ReflexAuthorityPlane.evaluateActive rt input epoch)
  | deactivate reason epoch => drop (ReflexAuthorityPlane.deactivate rt reason epoch)
  | ingestTrustTransition payload epoch =>
      drop (ReflexTrustLifecyclePlane.ingestTrustTransition rt payload epoch)
  | ingestGrantUsePolicy payload epoch =>
      drop (ReflexTrustLifecyclePlane.ingestGrantUsePolicy rt payload epoch)
  | ingestProviderManifest payload epoch =>
      drop (ReflexTrustLifecyclePlane.ingestProviderManifest rt payload epoch)
  | activateVerified request grantId adapterId adapterVersion epoch leaseUntilEpoch expected =>
      drop (ReflexTrustLifecyclePlane.activateVerified rt request grantId adapterId adapterVersion
        epoch leaseUntilEpoch expected)
  | renewLease payload epoch => drop (ReflexTrustLifecyclePlane.renewLease rt payload epoch)
  | ingestCheckpoint payload epoch =>
      drop (ReflexTrustLifecyclePlane.ingestCheckpoint rt payload epoch)
  | status epoch adapter => drop (ReflexTrustLifecyclePlane.status rt epoch adapter)
  | evaluateActive input adapterId adapterVersion epoch =>
      drop (ReflexTrustLifecyclePlane.evaluateActive rt input adapterId adapterVersion epoch)

/-- The call has run from `w` to `w'`, where it goes on with `q` or is dead. -/
def RunsTo (rt : ReflexRuntime) (c : ReflexCall) (w : ReflexWorld) (q : ReflexProg Unit)
    (w' : ReflexWorld) : Prop :=
  ∃ t, Prog.Steps (c.program rt) t q ∧ Prog.Carries ReflexOp.effect w t w'

/-- The call is an explicit ingest of a trust anchor. -/
def IngestsAnchor : ReflexCall → Prop
  | ingestTrustAnchor _ _ _ => True
  | _ => False

end ReflexCall

/-- `Reached rt allowed S w`: a run whose calls are all `allowed` where they start has reached `w`,
and `S` are the trust anchors that its explicit ingests have stored. -/
inductive Reached (rt : ReflexRuntime) (allowed : ReflexWorld → ReflexCall → Prop) :
    (ReflexAuthorityTrustAnchor → Prop) → ReflexWorld → Prop
  | start (control : (f : ControlFile) → Option (Except PyError f.Item)) :
      Reached rt allowed (fun _ => False) ⟨fun _ => .empty, control⟩
  | call {S : ReflexAuthorityTrustAnchor → Prop} {w w' : ReflexWorld} {q : ReflexProg Unit}
      (c : ReflexCall) (run : Reached rt allowed S w) (hallowed : allowed w c)
      (hrun : c.RunsTo rt w q w') :
      Reached rt allowed (fun anchor => S anchor ∨ c.IngestsAnchor ∧
        ∃ file, (w.dirs .trust).get? file = none ∧ (w'.dirs .trust).get? file = some anchor) w'
  | control {S : ReflexAuthorityTrustAnchor → Prop} {w w' : ReflexWorld}
      (run : Reached rt allowed S w) (hdirs : ∀ d, d ≠ .grants → w'.dirs d = w.dirs d) :
      Reached rt allowed S w'

end PhiOS
