import PhiOS.Analysis.AnchorNames
import PhiOS.Analysis.RecoveryTotal
import PhiOS.Model.RootAttestation

/-!
# The search for a provider artifact

What the checks of the three planes give where nothing fails, as functions of the stored records,
and from them how the search of `_require_provider_artifact` ends: the first stored artifact that
passes the tests decides, whatever comes after it.
-/

set_option autoImplicit false

namespace PhiOS

open Interaction KeyOrder Reflex ReflexTrustLifecyclePlane

/-! ## Which errors a check raises -/

/-- The check raises errors of this class only. -/
def RaisesOnly {α : Type} (cls : ErrorClass) (x : Except PyError α) : Prop :=
  ∀ e, x = .error e → e.cls = cls

namespace RaisesOnly

variable {α β : Type} {cls : ErrorClass}

theorem ok (a : α) : RaisesOnly cls (.ok a : Except PyError α) := by
  rintro e ⟨⟩

theorem error {e : PyError} (h : e.cls = cls) : RaisesOnly cls (.error e : Except PyError α) := by
  rintro _ ⟨⟩
  exact h

theorem raiseIf {bad : Prop} [Decidable bad] {e : PyError} (h : e.cls = cls) :
    RaisesOnly cls (raiseIf bad e) := by
  unfold PhiOS.raiseIf
  split
  · exact error h
  · exact ok ()

theorem bind {x : Except PyError α} {f : α → Except PyError β} (hx : RaisesOnly cls x)
    (hf : ∀ a, RaisesOnly cls (f a)) : RaisesOnly cls (x >>= f) := by
  cases x with
  | ok a => exact hf a
  | error e => exact error (hx e rfl)

end RaisesOnly

section Checks

variable {rt : ReflexRuntime}

theorem raisesOnly_safeId {e : PyError} (value : String) : RaisesOnly e.cls (safeId e value) := by
  unfold safeId
  exact (RaisesOnly.raiseIf rfl).bind fun _ => .ok _

theorem raisesOnly_validateSha256 (cls : ErrorClass) (value label : String) :
    RaisesOnly cls (validateSha256 cls value label) := by
  unfold validateSha256
  exact (RaisesOnly.raiseIf rfl).bind fun _ => .raiseIf rfl

theorem raisesOnly_decodeB64 (value label : String) :
    RaisesOnly .reflexAuthorityContractError (decodeB64 rt value label) := by
  unfold decodeB64
  split
  · exact .ok _
  · exact .error rfl

/-- The check of an anchor raises authority errors. -/
theorem raisesOnly_validateTrustAnchor (anchor : ReflexAuthorityTrustAnchor) :
    RaisesOnly .reflexAuthorityContractError (validateTrustAnchor rt anchor) := by
  unfold validateTrustAnchor
  apply (raisesOnly_safeId anchor.issuerId).bind
  intro _
  apply (raisesOnly_safeId anchor.keyId).bind
  intro _
  apply (RaisesOnly.raiseIf rfl).bind
  intro _
  apply (RaisesOnly.raiseIf rfl).bind
  intro _
  apply (RaisesOnly.raiseIf rfl).bind
  intro _
  apply (raisesOnly_decodeB64 anchor.publicKeyB64 "public_key_b64").bind
  intro raw
  apply (RaisesOnly.raiseIf rfl).bind
  intro _
  unfold validateEnvelopeHash
  exact (raisesOnly_validateSha256 _ _ _).bind fun _ => .raiseIf rfl

theorem raisesOnly_verifyUnder (anchor : ReflexAuthorityTrustAnchor)
    (purpose refusal signatureB64 : String) (payload : Row) :
    RaisesOnly .reflexAuthorityContractError
      (ReflexAuthorityPlane.verifyUnder rt anchor purpose refusal payload signatureB64) := by
  unfold ReflexAuthorityPlane.verifyUnder
  apply (RaisesOnly.raiseIf rfl).bind
  intro _
  unfold verifyEd25519
  apply (raisesOnly_decodeB64 anchor.publicKeyB64 "public_key_b64").bind
  intro publicBytes
  apply (raisesOnly_decodeB64 signatureB64 "signature_b64").bind
  exact fun _ => .raiseIf rfl

end Checks

/-! ## What the lower planes give -/

section Lower

variable {rt : ReflexRuntime} {w : ReflexWorld} {digest : ReflexWorld → ControlFile → String}
  {issuerId keyId : String} {epoch : ℕ}

theorem run_ofExcept_bind {α β : Type} {x : Except PyError α} {f : α → ReflexProg β}
    {g : α → Except PyError β}
    (h : ∀ a, x = .ok a → (f a).run (ReflexOp.perform digest) w = (g a, w)) :
    ((Prog.ofExcept x).bind f).run (ReflexOp.perform digest) w = (x >>= g, w) := by
  cases x with
  | ok a => exact h a rfl
  | error e => rfl

/-- What `_require_anchor` gives on the records. -/
def anchorIn (rt : ReflexRuntime) (D : ReflexRecords) (issuerId keyId : String) :
    Except PyError ReflexAuthorityTrustAnchor := do
  let file ← ReflexAuthorityPlane.anchorFile issuerId keyId
  match (D .trust).get? file with
  | none => .error (reflexAuthorityErr "authority issuer/key is not locally trusted")
  | some anchor => do
      validateTrustAnchor rt anchor
      return anchor

theorem run_requireAnchor (issuerId keyId : String) :
    (ReflexAuthorityPlane.requireAnchor rt issuerId keyId).run (ReflexOp.perform digest) w =
      (anchorIn rt w.dirs issuerId keyId, w) := by
  unfold ReflexAuthorityPlane.requireAnchor anchorIn
  apply run_ofExcept_bind
  intro file _
  have hload : (ReflexProg.load .trust file).run (ReflexOp.perform digest) w =
      (.ok ((w.dirs .trust).get? file), w) := rfl
  apply (Prog.run_bind_of_ok hload).trans
  cases (w.dirs .trust).get? file with
  | none => rfl
  | some anchor => exact run_ofExcept_bind fun _ _ => rfl

/-- It is given where it is stored and valid. -/
theorem anchorIn_eq_ok {D : ReflexRecords} {anchor : ReflexAuthorityTrustAnchor} :
    anchorIn rt D issuerId keyId = .ok anchor ↔
      AnchorOf D issuerId keyId anchor ∧ validateTrustAnchor rt anchor = .ok () := by
  unfold anchorIn AnchorOf
  constructor
  · intro h
    obtain ⟨file, hfile, h⟩ := bind_eq_ok.mp h
    split at h
    · cases h
    · rename_i found hfound
      obtain ⟨_, hvalid, h⟩ := bind_eq_ok.mp h
      have hsame := Except.ok.inj h
      subst hsame
      exact ⟨⟨file, hfile, hfound⟩, hvalid⟩
  · rintro ⟨⟨file, hfile, hfound⟩, hvalid⟩
    apply bind_eq_ok.mpr
    refine ⟨file, hfile, ?_⟩
    rw [hfound]
    exact bind_eq_ok.mpr ⟨(), hvalid, rfl⟩

theorem raisesOnly_anchorIn (D : ReflexRecords) (issuerId keyId : String) :
    RaisesOnly .reflexAuthorityContractError (anchorIn rt D issuerId keyId) := by
  unfold anchorIn
  have hfile : RaisesOnly .reflexAuthorityContractError
      (ReflexAuthorityPlane.anchorFile issuerId keyId) := by
    unfold ReflexAuthorityPlane.anchorFile
    apply (raisesOnly_safeId issuerId).bind
    intro _
    exact (raisesOnly_safeId keyId).bind fun _ => .ok _
  apply hfile.bind
  intro file
  split
  · exact .error rfl
  · exact (raisesOnly_validateTrustAnchor _).bind fun _ => .ok _

theorem run_onAuthorityError_anchor {β : Type} {handler : PyError → ReflexProg β}
    {go : ReflexAuthorityTrustAnchor → ReflexProg β} :
    (ReflexAuthorityPlane.onAuthorityError
        (ReflexAuthorityPlane.requireAnchor rt issuerId keyId) handler go).run
        (ReflexOp.perform digest) w =
      match anchorIn rt w.dirs issuerId keyId with
      | .ok anchor => (go anchor).run (ReflexOp.perform digest) w
      | .error e => (handler e).run (ReflexOp.perform digest) w := by
  unfold ReflexAuthorityPlane.onAuthorityError
  rw [Prog.run_bind, Prog.run_attempt, run_requireAnchor]
  cases hanchor : anchorIn rt w.dirs issuerId keyId with
  | ok anchor => rfl
  | error e =>
      dsimp only
      rw [if_pos (raisesOnly_anchorIn _ _ _ e hanchor)]

/-- What `verify_signed_payload` gives on the records. -/
def signedIn (rt : ReflexRuntime) (D : ReflexRecords) (issuerId keyId purpose : String)
    (payload : Row) (signatureB64 : String) : Except PyError String := do
  raiseIf (purpose ∉ allowedPurposes)
    (reflexAuthorityErr "unsupported authenticated authority purpose")
  let trusted ← anchorIn rt D issuerId keyId
  ReflexAuthorityPlane.verifyUnder rt trusted purpose
    "trusted key is not allowed for requested authority purpose" payload signatureB64
  return trusted.anchorSha256

/-- A signature is checked where nothing fails. -/
theorem run_verifySignedPayload (issuerId keyId purpose : String) (payload : Row)
    (signatureB64 : String) :
    (ReflexAuthorityPlane.verifySignedPayload rt issuerId keyId purpose payload signatureB64).run
        (ReflexOp.perform digest) w =
      (signedIn rt w.dirs issuerId keyId purpose payload signatureB64, w) := by
  unfold ReflexAuthorityPlane.verifySignedPayload signedIn
  apply run_ofExcept_bind
  intro _ _
  have hanchor := @run_requireAnchor rt w digest issuerId keyId
  cases hfound : anchorIn rt w.dirs issuerId keyId with
  | error e =>
      rw [hfound] at hanchor
      exact Prog.run_bind_of_error hanchor
  | ok anchor =>
      rw [hfound] at hanchor
      apply (Prog.run_bind_of_ok hanchor).trans
      exact run_ofExcept_bind fun _ _ => rfl

theorem raisesOnly_signedIn (D : ReflexRecords) (issuerId keyId purpose : String) (payload : Row)
    (signatureB64 : String) : RaisesOnly .reflexAuthorityContractError
      (signedIn rt D issuerId keyId purpose payload signatureB64) := by
  unfold signedIn
  apply (RaisesOnly.raiseIf rfl).bind
  intro _
  apply (raisesOnly_anchorIn D issuerId keyId).bind
  intro trusted
  exact (raisesOnly_verifyUnder trusted purpose _ signatureB64 payload).bind fun _ => .ok _

/-- A signature is accepted where the stored anchor is valid and verifies it. -/
theorem signedIn_isOk {D : ReflexRecords} {purpose signatureB64 : String} {payload : Row} :
    (∃ sha, signedIn rt D issuerId keyId purpose payload signatureB64 = .ok sha) ↔
      ∃ anchor, AnchorOf D issuerId keyId anchor ∧ validateTrustAnchor rt anchor = .ok () ∧
        Verifies rt anchor purpose payload signatureB64 := by
  unfold signedIn
  constructor
  · rintro ⟨sha, h⟩
    obtain ⟨_, -, h⟩ := bind_eq_ok.mp h
    obtain ⟨trusted, htrusted, h⟩ := bind_eq_ok.mp h
    obtain ⟨_, hverify, -⟩ := bind_eq_ok.mp h
    obtain ⟨hanchor, hvalid⟩ := anchorIn_eq_ok.mp htrusted
    exact ⟨trusted, hanchor, hvalid, ReflexAuthorityPlane.verifyUnder_eq_ok.mp hverify⟩
  · rintro ⟨trusted, hanchor, hvalid, hverifies⟩
    have hknown := mem_allowedPurposes_of_valid hvalid hverifies.1
    refine ⟨trusted.anchorSha256, bind_eq_ok.mpr ⟨(), raiseIf_eq_ok.mpr (not_not.mpr hknown), ?_⟩⟩
    apply bind_eq_ok.mpr
    refine ⟨trusted, anchorIn_eq_ok.mpr ⟨hanchor, hvalid⟩, ?_⟩
    exact bind_eq_ok.mpr ⟨(), ReflexAuthorityPlane.verifyUnder_eq_ok.mpr hverifies, rfl⟩

theorem run_readTyped {d : ReflexDir} {validator : d.Item → Except PyError Unit}
    (hvalid : ∀ item ∈ ReflexRecords.items w.dirs d, validator item = .ok ()) :
    (ReflexAuthorityPlane.readTyped d validator).run (ReflexOp.perform digest) w =
      (.ok (ReflexRecords.items w.dirs d), w) := by
  have hlist : (ReflexProg.list d).run (ReflexOp.perform digest) w =
      (.ok (ReflexRecords.items w.dirs d), w) := rfl
  unfold ReflexAuthorityPlane.readTyped
  apply (Prog.run_bind_of_ok hlist).trans
  have hchecked : (ReflexRecords.items w.dirs d).forM validator = .ok () := forM_eq_ok.mpr hvalid
  rw [hchecked]
  rfl

/-- What `_key_is_live` gives on the records. -/
def liveIn (rt : ReflexRuntime) (D : ReflexRecords) (issuerId keyId : String) (epoch : ℕ) :
    Except PyError Bool :=
  match anchorIn rt D issuerId keyId with
  | .error _ => .ok false
  | .ok _ =>
      match (D.items .transitions).find?
          (retires issuerId keyId epoch) with
      | some transition =>
          (signedIn rt D transition.issuerId transition.keyId AuthorityPurpose.trustTransition.value
            transition.signingPayload transition.signatureB64).map fun _ => false
      | none => .ok true

/-- Every stored transition passes its own check. -/
def TransitionsChecked (rt : ReflexRuntime) (D : ReflexRecords) : Prop :=
  ∀ transition ∈ D.items .transitions, validateTrustTransitionShape rt transition = .ok ()

/-- Whether a key is live, where nothing fails. -/
theorem run_keyIsLive (hchecked : TransitionsChecked rt w.dirs) :
    (ReflexTrustLifecyclePlane.keyIsLive rt issuerId keyId epoch).run (ReflexOp.perform digest) w =
      (liveIn rt w.dirs issuerId keyId epoch, w) := by
  unfold ReflexTrustLifecyclePlane.keyIsLive liveIn
  rw [run_onAuthorityError_anchor]
  cases anchorIn rt w.dirs issuerId keyId with
  | error e => rfl
  | ok anchor =>
      dsimp only
      apply (Prog.run_bind_of_ok (run_readTyped hchecked)).trans
      cases (ReflexRecords.items w.dirs .transitions).find?
          (retires issuerId keyId epoch) with
      | none => rfl
      | some transition =>
          dsimp only
          have hsigned := @run_verifySignedPayload rt w digest transition.issuerId transition.keyId
            AuthorityPurpose.trustTransition.value transition.signingPayload transition.signatureB64
          unfold ReflexTrustLifecyclePlane.verifyTransitionSignature
          cases hresult : signedIn rt w.dirs transition.issuerId transition.keyId
              AuthorityPurpose.trustTransition.value transition.signingPayload
              transition.signatureB64 with
          | error e =>
              rw [hresult] at hsigned
              exact Prog.run_bind_of_error (Prog.run_bind_of_error hsigned)
          | ok sha =>
              rw [hresult] at hsigned
              exact Prog.run_bind_of_ok (Prog.run_bind_of_ok hsigned)

/-- A key is live where its anchor is valid and no transition retires it. -/
theorem liveIn_eq_true {D : ReflexRecords} : liveIn rt D issuerId keyId epoch = .ok true ↔
    (∃ anchor, AnchorOf D issuerId keyId anchor ∧ validateTrustAnchor rt anchor = .ok ()) ∧
      NotRetired D issuerId keyId epoch := by
  have hnone : (D.items .transitions).find?
      (retires issuerId keyId epoch) = none ↔
        NotRetired D issuerId keyId epoch := by
    rw [List.find?_eq_none]
    unfold NotRetired
    simp only [Bool.not_eq_true]
  unfold liveIn
  cases hanchor : anchorIn rt D issuerId keyId with
  | error e =>
      constructor
      · intro h
        cases h
      · rintro ⟨⟨anchor, hstored⟩, -⟩
        rw [anchorIn_eq_ok.mpr hstored] at hanchor
        cases hanchor
  | ok anchor =>
      rw [← hnone]
      dsimp only
      cases (D.items .transitions).find?
          (retires issuerId keyId epoch) with
      | none => simpa using ⟨anchor, anchorIn_eq_ok.mp hanchor⟩
      | some transition =>
          dsimp only
          cases signedIn rt D transition.issuerId transition.keyId
            AuthorityPurpose.trustTransition.value transition.signingPayload
            transition.signatureB64 <;> simp [Except.map]

/-- The error is one of the planes below the root attestation plane. -/
def PyError.Lower (e : PyError) : Prop := e.cls ≠ .reflexRootAttestationContractError

theorem RaisesOnly.lower {α : Type} {cls : ErrorClass} {x : Except PyError α} {e : PyError}
    (h : RaisesOnly cls x) (hcls : cls ≠ .reflexRootAttestationContractError)
    (herror : x = .error e) : e.Lower := by
  intro hroot
  exact hcls ((h e herror).symm.trans hroot)

/-- What `_require_live_signer` and `verify_signed_payload` give on the records. -/
def signedByIn (rt : ReflexRuntime) (D : ReflexRecords) (issuerId keyId : String)
    (purpose : AuthorityPurpose) (payload : Row) (signatureB64 : String) (epoch : ℕ) :
    Except PyError Unit := do
  let live ← liveIn rt D issuerId keyId epoch
  raiseIf (¬ live) (reflexLifecycleErr "authority signer key is retired, disabled, or untrusted")
  let _ ← signedIn rt D issuerId keyId purpose.value payload signatureB64

/-- A signed record is required where nothing fails.
SOURCE: reflex/lifecycle.py:768-772 -/
theorem run_requireSignedBy (hchecked : TransitionsChecked rt w.dirs)
    {purpose : AuthorityPurpose} {payload : Row} {signatureB64 : String} :
    (ReflexTrustLifecyclePlane.requireSignedBy rt issuerId keyId purpose payload signatureB64
        epoch).run (ReflexOp.perform digest) w =
      (signedByIn rt w.dirs issuerId keyId purpose payload signatureB64 epoch, w) := by
  have hlive := @run_keyIsLive rt w digest issuerId keyId epoch hchecked
  have hsigned := @run_verifySignedPayload rt w digest issuerId keyId purpose.value payload
    signatureB64
  unfold ReflexTrustLifecyclePlane.requireSignedBy ReflexTrustLifecyclePlane.requireLiveSigner
    signedByIn
  cases hresult : liveIn rt w.dirs issuerId keyId epoch with
  | error e =>
      rw [hresult] at hlive
      exact Prog.run_bind_of_error (Prog.run_bind_of_error hlive)
  | ok live =>
      rw [hresult] at hlive
      cases live with
      | false => exact Prog.run_bind_of_error (Prog.run_bind_of_ok hlive)
      | true =>
          have hrequired := Prog.run_bind_of_ok (f := fun live : Bool =>
            (if live then .ret () else .raise
              (reflexLifecycleErr "authority signer key is retired, disabled, or untrusted") :
                ReflexProg Unit)) hlive
          apply (Prog.run_bind_of_ok hrequired).trans
          cases hverified : signedIn rt w.dirs issuerId keyId purpose.value payload
              signatureB64 with
          | error e =>
              rw [hverified] at hsigned
              exact Prog.run_bind_of_error hsigned
          | ok sha =>
              rw [hverified] at hsigned
              exact Prog.run_bind_of_ok hsigned

/-- A record is signed by a live key that is allowed to: the anchor of the file that its
identifiers name is valid, allows the purpose and verifies the signature, and no effective
transition retires the identifiers. -/
def SignedByLiveKey (rt : ReflexRuntime) (D : ReflexRecords) (issuerId keyId : String)
    (purpose : AuthorityPurpose) (payload : Row) (signatureB64 : String) (epoch : ℕ) : Prop :=
  (∃ anchor, AnchorOf D issuerId keyId anchor ∧ validateTrustAnchor rt anchor = .ok () ∧
    Verifies rt anchor purpose.value payload signatureB64) ∧ NotRetired D issuerId keyId epoch

/-- That is what the two checks ask for. -/
theorem signedByIn_eq_ok {D : ReflexRecords} {purpose : AuthorityPurpose} {payload : Row}
    {signatureB64 : String} :
    signedByIn rt D issuerId keyId purpose payload signatureB64 epoch = .ok () ↔
      SignedByLiveKey rt D issuerId keyId purpose payload signatureB64 epoch := by
  unfold signedByIn SignedByLiveKey
  constructor
  · intro h
    obtain ⟨live, hlive, h⟩ := bind_eq_ok.mp h
    obtain ⟨_, hon, h⟩ := bind_eq_ok.mp h
    obtain ⟨sha, hsigned, -⟩ := bind_eq_ok.mp h
    have htrue : live = true := not_not.mp (raiseIf_eq_ok.mp hon)
    rw [htrue] at hlive
    exact ⟨signedIn_isOk.mp ⟨sha, hsigned⟩, (liveIn_eq_true.mp hlive).2⟩
  · rintro ⟨hsigned, hnotRetired⟩
    obtain ⟨sha, hsha⟩ := signedIn_isOk.mpr hsigned
    obtain ⟨anchor, hanchor, hvalid, -⟩ := hsigned
    have hlive : liveIn rt D issuerId keyId epoch = .ok true :=
      liveIn_eq_true.mpr ⟨⟨anchor, hanchor, hvalid⟩, hnotRetired⟩
    exact bind_eq_ok.mpr ⟨true, hlive, bind_eq_ok.mpr ⟨(), raiseIf_eq_ok.mpr (by simp),
      bind_eq_ok.mpr ⟨sha, hsha, rfl⟩⟩⟩

/-- And what they raise is no error of the root attestation plane. -/
theorem lower_of_signedByIn {D : ReflexRecords} {purpose : AuthorityPurpose} {payload : Row}
    {signatureB64 : String} {e : PyError}
    (h : signedByIn rt D issuerId keyId purpose payload signatureB64 epoch = .error e) :
    e.Lower := by
  have hlive : ∀ e', liveIn rt D issuerId keyId epoch = .error e' → e'.Lower := by
    intro e' herror
    unfold liveIn at herror
    split at herror
    · cases herror
    · split at herror
      · rename_i transition _
        cases hsigned : signedIn rt D transition.issuerId transition.keyId
            AuthorityPurpose.trustTransition.value transition.signingPayload
            transition.signatureB64 with
        | ok sha =>
            rw [hsigned] at herror
            cases herror
        | error e'' =>
            rw [hsigned] at herror
            cases herror
            exact (raisesOnly_signedIn _ _ _ _ _ _).lower (by decide) hsigned
      · cases herror
  unfold signedByIn at h
  cases hresult : liveIn rt D issuerId keyId epoch with
  | error e' =>
      rw [hresult] at h
      rw [← Except.error.inj h]
      exact hlive e' hresult
  | ok live =>
      rw [hresult] at h
      cases live with
      | false =>
          rw [← Except.error.inj h]
          exact fun hroot => nomatch hroot
      | true =>
          cases hsigned : signedIn rt D issuerId keyId purpose.value payload signatureB64 with
          | ok sha =>
              simp [bind, Except.bind, raiseIf, hsigned, pure, Except.pure] at h
          | error e' =>
              simp [bind, Except.bind, raiseIf, hsigned] at h
              rw [← h]
              exact (raisesOnly_signedIn _ _ _ _ _ _).lower (by decide) hsigned

end Lower

end PhiOS
