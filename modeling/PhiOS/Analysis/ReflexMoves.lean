import PhiOS.Analysis.ReflexReads
import Mathlib.Logic.Relation

/-!
# What a call does to the records

A call of the planes changes the records by single stores. `ReflexMove` lists the stores that a
call can make, each with what the call has checked before it makes it; `program_moves` says that
every call, wherever it stops, has made moves of that list and nothing else. The invariants of the
planes are read off the moves.
-/

set_option autoImplicit false

namespace PhiOS

open Interaction KeyOrder Reflex Relation

/-- The records with one more. -/
def ReflexRecords.store (D : ReflexRecords) (d : ReflexDir) (file : String) (item : d.Item) :
    ReflexRecords :=
  Function.update D d ((D d).set file item)

/-- The call ingests this transition. -/
def ReflexCall.IngestsTransition (rt : ReflexRuntime) (c : ReflexCall)
    (transition : ReflexTrustTransition) : Prop :=
  ∃ payload epoch, c = .ingestTrustTransition payload epoch ∧
    trustTransitionFromPayload rt payload = .ok transition

/-- The call presents a record: under which identifiers, for which purpose, what was signed and the
signature. -/
inductive ReflexCall.Presents (rt : ReflexRuntime) :
    ReflexCall → String → String → AuthorityPurpose → Row → String → Prop
  | signedGrant {payload : Row} {epoch : ℕ} {expected : Option String}
      {envelope : SignedActivationGrantEnvelope}
      (hparse : signedActivationGrantFromPayload rt payload = .ok envelope) :
      Presents rt (.ingestSignedGrant payload epoch expected) envelope.issuerId envelope.keyId
        .activationGrant envelope.signingPayload envelope.signatureB64
  | transition {payload : Row} {epoch : ℕ} {transition : ReflexTrustTransition}
      (hparse : trustTransitionFromPayload rt payload = .ok transition) :
      Presents rt (.ingestTrustTransition payload epoch) transition.issuerId transition.keyId
        .trustTransition transition.signingPayload transition.signatureB64
  | usePolicy {payload : Row} {epoch : ℕ} {policy : ReflexGrantUsePolicy}
      (hparse : grantUsePolicyFromPayload rt payload = .ok policy) :
      Presents rt (.ingestGrantUsePolicy payload epoch) policy.issuerId policy.keyId
        .grantUsePolicy policy.signingPayload policy.signatureB64
  | manifest {payload : Row} {epoch : ℕ} {manifest : ReflexProviderManifest}
      (hparse : providerManifestFromPayload rt payload = .ok manifest) :
      Presents rt (.ingestProviderManifest payload epoch) manifest.issuerId manifest.keyId
        .providerManifest manifest.signingPayload manifest.signatureB64
  | renewal {payload : Row} {epoch : ℕ} {renewal : ReflexLeaseRenewal}
      (hparse : leaseRenewalFromPayload rt payload = .ok renewal) :
      Presents rt (.renewLease payload epoch) renewal.issuerId renewal.keyId .leaseRenewal
        renewal.signingPayload renewal.signatureB64
  | checkpoint {payload : Row} {epoch : ℕ} {checkpoint : ReflexLedgerCheckpoint}
      (hparse : ledgerCheckpointFromPayload rt payload = .ok checkpoint) :
      Presents rt (.ingestCheckpoint payload epoch) checkpoint.issuerId checkpoint.keyId
        .ledgerCheckpoint checkpoint.signingPayload checkpoint.signatureB64

/-- The transition is signed under the anchor that its identifiers name. -/
def SignedTransition (rt : ReflexRuntime) (D : ReflexRecords) (transition : ReflexTrustTransition)
    (anchor : ReflexAuthorityTrustAnchor) : Prop :=
  AnchorOf D transition.issuerId transition.keyId anchor ∧
    Verifies rt anchor AuthorityPurpose.trustTransition.value transition.signingPayload
      transition.signatureB64

/-- One store of a call that was started on the records `D₀`. -/
inductive ReflexMove (rt : ReflexRuntime) (c : ReflexCall) (D₀ : ReflexRecords) :
    ReflexRecords → ReflexRecords → Prop
  | install {D : ReflexRecords} {anchor : ReflexAuthorityTrustAnchor} {file : String}
      (hcall : c.IngestsAnchor) (hvalid : validateTrustAnchor rt anchor = .ok ())
      (hfile : ReflexAuthorityPlane.anchorFile anchor.issuerId anchor.keyId = .ok file)
      (habsent : (D .trust).get? file = none) : ReflexMove rt c D₀ D (D.store .trust file anchor)
  | rotate {D : ReflexRecords} {transition : ReflexTrustTransition}
      {signer replacement : ReflexAuthorityTrustAnchor} {file : String}
      (hstored : transition ∈ D.items .transitions)
      (hsigned : SignedTransition rt D transition signer)
      (haction : transition.action = "ROTATE")
      (hreplacement : transition.replacementAnchor = some replacement)
      (hvalid : validateTrustAnchor rt replacement = .ok ())
      (hfile : ReflexAuthorityPlane.anchorFile replacement.issuerId replacement.keyId = .ok file)
      (habsent : (D .trust).get? file = none) :
      ReflexMove rt c D₀ D (D.store .trust file replacement)
  | transition {D : ReflexRecords} {transition : ReflexTrustTransition} {file : String}
      {signer : ReflexAuthorityTrustAnchor} (hcall : c.IngestsTransition rt transition)
      (hshape : validateReplacement transition = .ok ())
      (hsigned : SignedTransition rt D₀ transition signer)
      (habsent : (D .transitions).get? file = none) :
      ReflexMove rt c D₀ D (D.store .transitions file transition)
  | signedGrant {D : ReflexRecords} {envelope : SignedActivationGrantEnvelope} {file : String}
      {signer : ReflexAuthorityTrustAnchor}
      (hcall : c.Presents rt envelope.issuerId envelope.keyId .activationGrant
        envelope.signingPayload envelope.signatureB64)
      (hsigned : AnchorOf D₀ envelope.issuerId envelope.keyId signer ∧
        Verifies rt signer AuthorityPurpose.activationGrant.value envelope.signingPayload
          envelope.signatureB64) :
      ReflexMove rt c D₀ D (D.store .signedGrants file envelope)
  | usePolicy {D : ReflexRecords} {policy : ReflexGrantUsePolicy} {file : String}
      {signer : ReflexAuthorityTrustAnchor}
      (hcall : c.Presents rt policy.issuerId policy.keyId .grantUsePolicy policy.signingPayload
        policy.signatureB64)
      (hsigned : AnchorOf D₀ policy.issuerId policy.keyId signer ∧
        Verifies rt signer AuthorityPurpose.grantUsePolicy.value policy.signingPayload
          policy.signatureB64) :
      ReflexMove rt c D₀ D (D.store .usePolicies file policy)
  | manifest {D : ReflexRecords} {manifest : ReflexProviderManifest} {file : String}
      {signer : ReflexAuthorityTrustAnchor}
      (hcall : c.Presents rt manifest.issuerId manifest.keyId .providerManifest
        manifest.signingPayload manifest.signatureB64)
      (hsigned : AnchorOf D₀ manifest.issuerId manifest.keyId signer ∧
        Verifies rt signer AuthorityPurpose.providerManifest.value manifest.signingPayload
          manifest.signatureB64) :
      ReflexMove rt c D₀ D (D.store .manifests file manifest)
  | other {D : ReflexRecords} {d : ReflexDir} {file : String} {item : d.Item}
      (hdir : d = .revocations ∨ d = .grants ∨ d = .checkpoints ∨ d = .usage ∨ d = .renewals) :
      ReflexMove rt c D₀ D (D.store d file item)

/-- Started on the records `D`, `p` makes moves of the call, and what it returns satisfies `post`
together with the records it leaves. -/
def Moves {α : Type} (rt : ReflexRuntime) (c : ReflexCall) (D₀ D : ReflexRecords)
    (post : ReflexRecords → α → Prop) (p : ReflexProg α) : Prop :=
  ReflTransGen (ReflexMove rt c D₀) D₀ D → ∀ w : ReflexWorld, w.dirs = D →
    p.Holds ReflexOp.effect (fun w => ReflTransGen (ReflexMove rt c D₀) D₀ w.dirs)
      (fun w a => post w.dirs a) (fun _ _ => True) w

/-! ## Rules -/

namespace Moves

variable {α β : Type} {rt : ReflexRuntime} {c : ReflexCall} {D₀ D : ReflexRecords}

theorem of_observes {post : α → Prop} {p : ReflexProg α} (h : Observes D post p) :
    Moves rt c D₀ D (fun D' a => D' = D ∧ post a) p := by
  intro hreach w hw
  subst hw
  apply h.holds
  intro w' hw'
  rw [hw']
  exact hreach

theorem of_calm {p : ReflexProg α} (hp : p.IsCalm) : Moves rt c D₀ D (fun D' _ => D' = D) p := by
  intro hreach w hw
  exact (of_observes (Observes.of_calm hp) hreach w hw).mono (fun _ hcut => hcut)
    (fun _ _ hpost => hpost.1) fun _ _ _ => trivial

theorem ret {post : ReflexRecords → α → Prop} {a : α} (h : post D a) :
    Moves rt c D₀ D post (.ret a) := by
  intro hreach w hw
  subst hw
  exact ⟨hreach, h⟩

theorem raise {post : ReflexRecords → α → Prop} (e : PyError) :
    Moves rt c D₀ D post (.raise e : ReflexProg α) := by
  intro hreach w hw
  subst hw
  exact ⟨hreach, trivial⟩

theorem bind {Q : ReflexRecords → α → Prop} {post : ReflexRecords → β → Prop} {p : ReflexProg α}
    {f : α → ReflexProg β} (hp : Moves rt c D₀ D Q p)
    (hf : ∀ D' a, Q D' a → Moves rt c D₀ D' post (f a)) : Moves rt c D₀ D post (p.bind f) :=
  fun hreach w hw => (hp hreach w hw).bind fun w' a hw' ha => hf w'.dirs a ha hw' w' rfl

theorem observe_bind {Q : α → Prop} {post : ReflexRecords → β → Prop} {p : ReflexProg α}
    {f : α → ReflexProg β} (hp : Observes D Q p)
    (hf : ∀ a, Q a → Moves rt c D₀ D post (f a)) : Moves rt c D₀ D post (p.bind f) := by
  apply (of_observes hp).bind
  rintro D' a ⟨rfl, ha⟩
  exact hf a ha

theorem calm_bind {post : ReflexRecords → β → Prop} {p : ReflexProg α} {f : α → ReflexProg β}
    (hp : p.IsCalm) (hf : ∀ a, Moves rt c D₀ D post (f a)) : Moves rt c D₀ D post (p.bind f) :=
  observe_bind (Observes.of_calm hp) fun a _ => hf a

theorem ofExcept_bind {post : ReflexRecords → β → Prop} {x : Except PyError α}
    {f : α → ReflexProg β} (hf : ∀ a, x = .ok a → Moves rt c D₀ D post (f a)) :
    Moves rt c D₀ D post ((Prog.ofExcept x).bind f) := by
  cases x with
  | ok a => exact hf a rfl
  | error e => exact raise e

theorem mono {post post' : ReflexRecords → α → Prop} {p : ReflexProg α}
    (h : Moves rt c D₀ D post p) (hpost : ∀ D' a, post D' a → post' D' a) :
    Moves rt c D₀ D post' p :=
  fun hreach w hw => (h hreach w hw).mono (fun _ hcut => hcut) (fun w' a ha => hpost w'.dirs a ha)
    fun _ _ _ => trivial

theorem store {d : ReflexDir} {file : String} {item : d.Item}
    (h : ReflexMove rt c D₀ D (D.store d file item)) :
    Moves rt c D₀ D (fun D' _ => D' = D.store d file item) (ReflexProg.store d file item) := by
  intro hreach w hw
  subst hw
  refine ⟨hreach, fun r w' heffect => ?_⟩
  cases r with
  | ok u =>
      have hw' : w' = w.store d file item := heffect
      subst hw'
      exact ⟨hreach.tail h, rfl⟩
  | error e =>
      have hw' : w' = w := heffect
      subst hw'
      exact ⟨hreach, trivial⟩

theorem drop {post : ReflexRecords → α → Prop} {p : ReflexProg α} (h : Moves rt c D₀ D post p) :
    Moves rt c D₀ D (fun _ _ => True) (ReflexCall.drop p) :=
  h.bind fun _ _ _ => ret trivial

theorem drop_of_calm {p : ReflexProg α} (hp : p.IsCalm) :
    Moves rt c D₀ D (fun _ _ => True) (ReflexCall.drop p) := (of_calm hp).drop

theorem onAuthorityError {Q : α → Prop} {post : ReflexRecords → β → Prop} {p : ReflexProg α}
    {handler : PyError → ReflexProg β} {go : α → ReflexProg β} (hp : Observes D Q p)
    (hhandler : ∀ e, Moves rt c D₀ D post (handler e))
    (hgo : ∀ a, Q a → Moves rt c D₀ D post (go a)) :
    Moves rt c D₀ D post (ReflexAuthorityPlane.onAuthorityError p handler go) := by
  apply observe_bind hp.attempt
  intro outcome hok
  cases outcome with
  | ok a => exact hgo a (hok a rfl)
  | error e =>
      dsimp only
      split
      · exact hhandler e
      · exact raise e

theorem sound {post : ReflexRecords → α → Prop} {p q : ReflexProg α} {w w' : ReflexWorld}
    {t : List (Prog.Event ReflexOp.Reply)} (h : Moves rt c w.dirs w.dirs post p)
    (hsteps : Prog.Steps p t q) (hcarries : Prog.Carries ReflexOp.effect w t w') :
    ReflTransGen (ReflexMove rt c w.dirs) w.dirs w'.dirs :=
  ((h .refl w rfl).sound hsteps hcarries).start

theorem ends {post : ReflexRecords → α → Prop} {p : ReflexProg α} {w w' : ReflexWorld} {a : α}
    (h : Moves rt c D₀ w.dirs post p) (hreach : ReflTransGen (ReflexMove rt c D₀) D₀ w.dirs)
    (hends : p.Ends ReflexOp.effect w (.ok a) w') :
    ReflTransGen (ReflexMove rt c D₀) D₀ w'.dirs ∧ post w'.dirs a :=
  (h hreach w rfl).ends hends

end Moves

-- The moves of a program are found from its parts, not by running it.
attribute [irreducible] Moves

/-! ## The authority plane -/

/-- Reading the dictionary of an anchor gives the anchor. -/
theorem eq_of_trustAnchorFromPayload_toDict {rt : ReflexRuntime}
    {anchor read : ReflexAuthorityTrustAnchor}
    (h : trustAnchorFromPayload rt anchor.toDict = .ok read) : read = anchor := by
  unfold trustAnchorFromPayload at h
  obtain ⟨_, -, h⟩ := bind_eq_ok.mp h
  have hpurposes : anchor.toDict.lookup "allowed_purposes" =
      some (Json.strs anchor.allowedPurposes) := rfl
  rw [hpurposes] at h
  obtain ⟨purposes, hmap, h⟩ := bind_eq_ok.mp h
  obtain ⟨_, -, h⟩ := bind_eq_ok.mp h
  have hmap : (anchor.allowedPurposes.map Json.str).map rt.pyStr = purposes := Except.ok.inj hmap
  have hread := (Except.ok.inj h).symm
  subst hread
  have htext : ∀ name value, anchor.toDict.lookup name = some (.str value) →
      textField rt anchor.toDict name = value := by
    intro name value hlookup
    simp [textField, hlookup, rt.pyStr_str]
  obtain ⟨issuerId, keyId, algorithm, publicKeyB64, allowedPurposes, anchorSha256⟩ := anchor
  congr 1
  · exact htext _ _ rfl
  · exact htext _ _ rfl
  · exact htext _ _ rfl
  · exact htext _ _ rfl
  · have hid : rt.pyStr ∘ Json.str = id := funext rt.pyStr_str
    rw [← hmap, List.map_map, hid, List.map_id]
  · exact htext _ _ rfl

section Authority

variable {rt : ReflexRuntime} {c : ReflexCall} {D₀ D : ReflexRecords}

/-- Ingesting an anchor stores it in a file of its own, where there is none.
SOURCE: reflex/authority.py:308-376 -/
theorem ingestTrustAnchor_moves {payload : Row} (epoch : ℕ) (expected : Option String)
    (hmove : ∀ anchor file, trustAnchorFromPayload rt payload = .ok anchor →
      validateTrustAnchor rt anchor = .ok () →
      ReflexAuthorityPlane.anchorFile anchor.issuerId anchor.keyId = .ok file →
      (D .trust).get? file = none → ReflexMove rt c D₀ D (D.store .trust file anchor)) :
    Moves rt c D₀ D (fun D' _ => ∀ d, d ≠ .trust → D' d = D d)
      (ReflexAuthorityPlane.ingestTrustAnchor rt payload epoch expected) := by
  unfold ReflexAuthorityPlane.ingestTrustAnchor
  apply Moves.calm_bind (ReflexAuthorityPlane.assertControlSha_calm rt expected epoch)
  intro _
  apply Moves.ofExcept_bind
  intro anchor hparse
  apply Moves.ofExcept_bind
  intro _ hvalid
  apply Moves.ofExcept_bind
  intro file hfile
  apply Moves.observe_bind (observes_load .trust file)
  intro existing hexisting
  have haudit : ∀ {D' : ReflexRecords} (receipt : Row) (result : ReflexIngest _),
      (∀ d, d ≠ .trust → D' d = D d) →
      Moves rt c D₀ D' (fun D' _ => ∀ d, d ≠ .trust → D' d = D d)
        ((ReflexRuntimeControlPlane.appendAuditReceipt rt "authority" epoch receipt).bind fun _ =>
          (.ret result : ReflexProg (ReflexIngest ReflexAuthorityTrustAnchor))) :=
    fun receipt result hsame => Moves.calm_bind
      (ReflexRuntimeControlPlane.appendAuditReceipt_calm rt _ _ _) fun _ => Moves.ret hsame
  cases existing with
  | some existing =>
      apply Moves.calm_bind (Prog.issues_ofExcept _)
      exact fun _ => haudit _ _ fun _ _ => rfl
  | none =>
      apply (Moves.store (hmove anchor file hparse hvalid hfile hexisting.symm)).bind
      rintro D' _ rfl
      exact haudit _ _ fun d hd => Function.update_of_ne hd _ _

/-- Ingesting a signed grant stores the grant and then its envelope.
SOURCE: reflex/authority.py:378-441 -/
theorem ingestSignedGrant_moves (payload : Row) (epoch : ℕ) (expected : Option String) :
    Moves rt (.ingestSignedGrant payload epoch expected) D₀ D₀ (fun _ _ => True)
      (ReflexAuthorityPlane.ingestSignedGrant rt payload epoch expected) := by
  unfold ReflexAuthorityPlane.ingestSignedGrant
  apply Moves.calm_bind (ReflexAuthorityPlane.assertControlSha_calm rt expected epoch)
  intro _
  apply Moves.ofExcept_bind
  intro envelope hparse
  apply Moves.observe_bind (ReflexAuthorityPlane.verifySignedGrant_observes envelope epoch)
  rintro _ ⟨signer, hsigned⟩
  apply Moves.ofExcept_bind
  intro name _
  apply Moves.calm_bind (ReflexProg.load_calm .signedGrants _)
  intro existing
  cases existing with
  | some existing =>
      apply Moves.calm_bind (Prog.issues_ofExcept _)
      intro _
      apply Moves.calm_bind (ReflexRuntimeControlPlane.appendAuditReceipt_calm rt _ _ _)
      exact fun _ => Moves.ret trivial
  | none =>
      have hgrant : Moves rt (.ingestSignedGrant payload epoch expected) D₀ D₀ (fun _ _ => True)
          (ReflexRuntimeControlPlane.ingestGrant rt envelope.grant epoch) := by
        unfold ReflexRuntimeControlPlane.ingestGrant
        apply Moves.calm_bind (Prog.issues_ofExcept _)
        intro _
        apply Moves.calm_bind (Prog.issues_ofExcept _)
        intro _
        apply Moves.calm_bind (ReflexProg.load_calm .grants _)
        intro existing
        cases existing with
        | some existing =>
            apply Moves.calm_bind (Prog.issues_ofExcept _)
            intro _
            exact (Moves.of_calm (ReflexRuntimeControlPlane.appendLedger_calm rt _ _ _)).mono
              fun _ _ _ => trivial
        | none =>
            apply (Moves.store (ReflexMove.other (Or.inr (Or.inl rfl)))).bind
            intro _ _ _
            exact (Moves.of_calm (ReflexRuntimeControlPlane.appendLedger_calm rt _ _ _)).mono
              fun _ _ _ => trivial
      apply hgrant.bind
      intro D' _ _
      apply (Moves.store (ReflexMove.signedGrant (.signedGrant hparse) hsigned)).bind
      intro _ _ _
      apply Moves.calm_bind (ReflexRuntimeControlPlane.appendAuditReceipt_calm rt _ _ _)
      exact fun _ => Moves.ret trivial

/-- Ingesting a revocation stores it.
SOURCE: reflex/authority.py:480-551 -/
theorem ingestRevocation_moves (payload : Row) (epoch : ℕ) (expected : Option String) :
    Moves rt c D₀ D (fun _ _ => True)
      (ReflexAuthorityPlane.ingestRevocation rt payload epoch expected) := by
  unfold ReflexAuthorityPlane.ingestRevocation
  apply Moves.calm_bind (ReflexAuthorityPlane.assertControlSha_calm rt expected epoch)
  intro _
  apply Moves.ofExcept_bind
  intro revocation _
  apply Moves.calm_bind (ReflexAuthorityPlane.verifyRevocation_calm rt revocation)
  intro _
  apply Moves.calm_bind (ReflexAuthorityPlane.findSignedGrantBySha_calm rt _)
  intro signedGrant
  cases signedGrant with
  | none => exact Moves.raise _
  | some signedGrant =>
      apply Moves.calm_bind (Prog.issues_ofExcept _)
      intro _
      apply Moves.ofExcept_bind
      intro name _
      apply Moves.calm_bind (ReflexProg.load_calm .revocations _)
      intro existing
      have hend : ∀ (D' : ReflexRecords) present, Moves rt c D₀ D' (fun _ _ => True)
          (ReflexAuthorityPlane.concludeRevocation rt revocation epoch present) :=
        fun D' present => (Moves.of_calm
          (ReflexAuthorityPlane.concludeRevocation_calm rt revocation epoch present)).mono
            fun _ _ _ => trivial
      cases existing with
      | some existing =>
          apply Moves.calm_bind (Prog.issues_ofExcept _)
          exact fun _ => hend D true
      | none =>
          apply (Moves.store (ReflexMove.other (Or.inl rfl))).bind
          exact fun D' _ _ => hend D' false

theorem Moves.of_quiet {α : Type} {p : ReflexProg α} (hp : p.Issues ReflexOp.Quiet) :
    Moves rt c D₀ D (fun D' _ => D' = D) p :=
  (Moves.of_observes (Observes.of_quiet hp)).mono fun _ _ hpost => hpost.1

/-- Activating under a signed grant stores no record. -/
theorem activateSigned_quiet (request : ReflexActivationRequest) (grantId : String) (epoch : ℕ)
    (leaseUntilEpoch : Option ℕ) (expected : Option String) :
    (ReflexAuthorityPlane.activateVerified rt request grantId epoch leaseUntilEpoch
      expected).Issues ReflexOp.Quiet := by
  unfold ReflexAuthorityPlane.activateVerified
  apply ((ReflexAuthorityPlane.assertControlSha_calm rt expected epoch).mono
    ReflexOp.quiet_of_calm).bind
  intro _
  apply ((ReflexAuthorityPlane.requireSignedGrant_calm grantId).mono ReflexOp.quiet_of_calm).bind
  intro envelope
  apply ((ReflexAuthorityPlane.verifySignedGrant_calm rt envelope epoch).mono
    ReflexOp.quiet_of_calm).bind
  intro _
  apply ((ReflexAuthorityPlane.effectiveRevocation_calm rt _ epoch).mono
    ReflexOp.quiet_of_calm).bind
  intro revoked
  cases revoked with
  | true => exact Prog.issues_raise _
  | false => exact ReflexRuntimeControlPlane.activate_quiet rt _ _ _ _

theorem authorityEvaluate_quiet (input : ReflexInput) (epoch : ℕ) :
    (ReflexAuthorityPlane.evaluateActive rt input epoch).Issues ReflexOp.Quiet := by
  unfold ReflexAuthorityPlane.evaluateActive
  apply ((ReflexAuthorityPlane.enforceActiveAuthority_calm rt epoch).mono
    ReflexOp.quiet_of_calm).bind
  intro enforcement
  cases enforcement with
  | some enforcement => exact Prog.issues_ret _
  | none =>
      exact (ReflexRuntimeControlPlane.evaluateActive_quiet rt input epoch).bind fun _ =>
        Prog.issues_ret _

end Authority

/-! ## The lifecycle plane -/

section Lifecycle

open ReflexTrustLifecyclePlane

variable {rt : ReflexRuntime} {c : ReflexCall} {D₀ D : ReflexRecords}

/-- The records differ in the trust anchors at most. -/
def SameButTrust (D D' : ReflexRecords) : Prop := ∀ d, d ≠ .trust → D' d = D d

theorem SameButTrust.items_transitions {D' : ReflexRecords} (h : SameButTrust D D') :
    D'.items .transitions = D.items .transitions := by
  unfold ReflexRecords.items
  rw [h .transitions (by decide)]

/-- One round of the loop installs at most the replacement of a stored rotation.
SOURCE: reflex/lifecycle.py:717-739 -/
theorem materializeTransition_moves (epoch : ℕ) {transition : ReflexTrustTransition}
    (hstored : transition ∈ D.items .transitions) :
    Moves rt c D₀ D (fun D' _ => SameButTrust D D') (materializeTransition rt epoch transition) := by
  unfold materializeTransition
  split
  · exact Moves.ret fun _ _ => rfl
  · unfold verifyTransitionSignature
    have hverify : Observes D (fun _ => ∃ signer, SignedTransition rt D transition signer)
        ((ReflexAuthorityPlane.verifySignedPayload rt transition.issuerId transition.keyId
          AuthorityPurpose.trustTransition.value transition.signingPayload
          transition.signatureB64).bind fun _ => .ret ()) := by
      apply (ReflexAuthorityPlane.verifySignedPayload_observes transition.issuerId transition.keyId
        AuthorityPurpose.trustTransition.value transition.signingPayload
        transition.signatureB64).bind
      exact fun _ hsigned => .ret hsigned
    apply Moves.observe_bind hverify
    rintro _ ⟨signer, hsigned⟩
    split
    · rename_i replacement hreplacement
      split
      · rename_i haction
        unfold installReplacement
        apply Moves.onAuthorityError
          (ReflexAuthorityPlane.requireAnchor_observes replacement.issuerId replacement.keyId)
        · intro e
          have hingest := @ingestTrustAnchor_moves rt c D₀ D replacement.toDict epoch none
          apply (hingest _).bind
          · exact fun D' _ hsame => Moves.ret hsame
          · intro anchor file hparse hvalid hfile habsent
            have hanchor := eq_of_trustAnchorFromPayload_toDict hparse
            subst hanchor
            exact .rotate hstored hsigned haction hreplacement hvalid hfile habsent
        · exact fun existing _ => (Moves.of_calm (Prog.issues_ofExcept _)).mono
            fun D' _ hsame d _ => by rw [hsame]
      · exact Moves.ret fun _ _ => rfl
    · exact Moves.ret fun _ _ => rfl

/-- The loop over stored transitions changes nothing but the anchors. -/
theorem materializeAll_moves (epoch : ℕ) (transitions : List ReflexTrustTransition)
    (hstored : ∀ transition ∈ transitions, transition ∈ D.items .transitions) :
    Moves rt c D₀ D (fun D' _ => SameButTrust D D') (materializeAll rt epoch transitions) := by
  induction transitions generalizing D with
  | nil =>
      unfold materializeAll
      exact Moves.ret fun _ _ => rfl
  | cons transition rest ih =>
      unfold materializeAll
      apply (materializeTransition_moves epoch (hstored transition List.mem_cons_self)).bind
      intro D' _ hsame
      have hrest : ∀ t ∈ rest, t ∈ D'.items .transitions := by
        intro t ht
        rw [hsame.items_transitions]
        exact hstored t (List.mem_cons_of_mem _ ht)
      exact (ih hrest).mono fun D'' _ hsame' d hd => (hsame' d hd).trans (hsame d hd)

theorem materializeEffectiveRotations_moves (epoch : ℕ) :
    Moves rt c D₀ D (fun D' _ => SameButTrust D D') (materializeEffectiveRotations rt epoch) := by
  unfold materializeEffectiveRotations listTransitions
  apply Moves.observe_bind (ReflexAuthorityPlane.readTyped_observes .transitions _)
  intro transitions htransitions
  apply materializeAll_moves
  rw [htransitions]
  exact fun _ h => h

theorem idempotentWrite_moves {d : ReflexDir} {name : String} {item : d.Item}
    {digestOf : d.Item → String}
    (hmove : (D d).get? (name ++ ".json") = none →
      ReflexMove rt c D₀ D (D.store d (name ++ ".json") item)) :
    Moves rt c D₀ D (fun _ _ => True) (idempotentWrite d name item digestOf) := by
  unfold idempotentWrite
  apply Moves.observe_bind (observes_load d _)
  intro existing hexisting
  cases existing with
  | some existing =>
      exact (Moves.of_calm (Prog.issues_ofExcept _)).mono fun _ _ _ => trivial
  | none => exact (Moves.store (hmove hexisting.symm)).mono fun _ _ _ => trivial

theorem audited_moves {α : Type} (kind : String) (item : α) (epoch : ℕ) (receipt : Row) :
    Moves rt c D₀ D (fun _ _ => True) (audited rt kind epoch item receipt) :=
  (Moves.of_calm (audited_calm rt kind epoch item receipt)).mono fun _ _ _ => trivial

/-- Ingesting a transition stores it, signed and well formed, and may materialise
rotations.
SOURCE: reflex/lifecycle.py:322-382 -/
theorem ingestTrustTransition_moves (payload : Row) (epoch : ℕ) :
    Moves rt (.ingestTrustTransition payload epoch) D₀ D₀ (fun _ _ => True)
      (ingestTrustTransition rt payload epoch) := by
  unfold ingestTrustTransition
  apply Moves.ofExcept_bind
  intro transition hparse
  apply Moves.ofExcept_bind
  intro _ hshape
  have hreplacement : validateReplacement transition = .ok () := by
    obtain ⟨_, hshape, -⟩ := bind_eq_ok.mp hshape
    unfold validateTrustTransitionShape at hshape
    obtain ⟨_, _, _, _, hshape⟩ := ok_past_four hshape
    obtain ⟨_, _, hshape⟩ := ok_past_two hshape
    obtain ⟨_, hreplacement, -⟩ := bind_eq_ok.mp hshape
    exact hreplacement
  apply Moves.calm_bind (keyIsLive_calm rt _ _ epoch)
  intro live
  apply Moves.calm_bind (Prog.issues_ofExcept _)
  intro _
  have hverify : Observes D₀ (fun _ => ∃ signer, SignedTransition rt D₀ transition signer)
      (verifyTransitionSignature rt transition) := by
    unfold verifyTransitionSignature
    apply (ReflexAuthorityPlane.verifySignedPayload_observes transition.issuerId transition.keyId
      AuthorityPurpose.trustTransition.value transition.signingPayload
      transition.signatureB64).bind
    exact fun _ hsigned => .ret hsigned
  apply Moves.observe_bind hverify
  rintro _ ⟨signer, hsigned⟩
  apply Moves.ofExcept_bind
  intro name _
  apply (idempotentWrite_moves (.transition ⟨payload, epoch, rfl, hparse⟩ hreplacement hsigned)).bind
  intro D₁ _ _
  have happly : Moves rt (.ingestTrustTransition payload epoch) D₀ D₁ (fun _ _ => True)
      (applyTransition rt transition epoch) := by
    unfold applyTransition
    split
    · apply (materializeEffectiveRotations_moves epoch).bind
      intro D₂ _ _
      exact (Moves.of_calm (collapseIfKeyRetired_calm rt _ _ epoch)).mono fun _ _ _ => trivial
    · exact Moves.ret trivial
  apply happly.bind
  exact fun _ _ _ => audited_moves _ _ _ _

/-- Ingesting a use policy stores it, signed. -/
theorem ingestGrantUsePolicy_moves (payload : Row) (epoch : ℕ) :
    Moves rt (.ingestGrantUsePolicy payload epoch) D₀ D₀ (fun _ _ => True)
      (ingestGrantUsePolicy rt payload epoch) := by
  unfold ingestGrantUsePolicy
  apply Moves.ofExcept_bind
  intro policy hparse
  apply Moves.calm_bind (Prog.issues_ofExcept _)
  intro _
  apply Moves.calm_bind (requireGrant_calm rt _)
  intro envelope
  apply Moves.calm_bind (Prog.issues_ofExcept _)
  intro _
  apply Moves.observe_bind (requireSignedBy_observes policy.issuerId policy.keyId .grantUsePolicy
    policy.signingPayload policy.signatureB64 epoch)
  rintro _ ⟨⟨signer, hsigned⟩, -⟩
  apply Moves.calm_bind (ReflexProg.load_calm .usePolicies _)
  intro existing
  apply Moves.calm_bind (Prog.issues_ofExcept _)
  intro _
  split
  · exact Moves.ret trivial
  · apply (Moves.store (.usePolicy (.usePolicy hparse) hsigned)).bind
    exact fun _ _ _ => audited_moves _ _ _ _

theorem ingestProviderManifest_moves (payload : Row) (epoch : ℕ) :
    Moves rt (.ingestProviderManifest payload epoch) D₀ D₀ (fun _ _ => True)
      (ingestProviderManifest rt payload epoch) := by
  unfold ingestProviderManifest
  apply Moves.ofExcept_bind
  intro manifest hparse
  apply Moves.calm_bind (Prog.issues_ofExcept _)
  intro _
  apply Moves.observe_bind (requireSignedBy_observes manifest.issuerId manifest.keyId
    .providerManifest manifest.signingPayload manifest.signatureB64 epoch)
  rintro _ ⟨⟨signer, hsigned⟩, -⟩
  apply Moves.ofExcept_bind
  intro name _
  apply (idempotentWrite_moves fun _ => .manifest (.manifest hparse) hsigned).bind
  exact fun _ _ _ => audited_moves _ _ _ _

/-- Activating materialises rotations and counts the use.
SOURCE: reflex/lifecycle.py:466-523 -/
theorem activateVerified_moves (request : ReflexActivationRequest)
    (grantId adapterId adapterVersion : String) (epoch : ℕ) (leaseUntilEpoch : Option ℕ)
    (expected : Option String) :
    Moves rt c D₀ D (fun _ _ => True)
      (activateVerified rt request grantId adapterId adapterVersion epoch leaseUntilEpoch
        expected) := by
  unfold activateVerified
  apply (materializeEffectiveRotations_moves epoch).bind
  intro D₁ _ _
  apply Moves.calm_bind (requireGrantById_calm rt grantId)
  intro envelope
  apply Moves.calm_bind (requireLiveSigner_calm rt _ _ epoch)
  intro _
  apply Moves.calm_bind (requireProviderManifest_calm rt _ _ _ _ _ epoch)
  intro _
  apply Moves.calm_bind (requireUsePolicy_calm rt _ epoch)
  intro usePolicy
  apply Moves.calm_bind (usageOf_calm rt _)
  intro usage
  apply Moves.calm_bind (Prog.issues_ofExcept _)
  intro _
  apply (Moves.of_quiet (activateSigned_quiet request grantId epoch leaseUntilEpoch expected)).bind
  intro D₂ result _
  split
  · apply Moves.calm_bind (Prog.issues_ofExcept _)
    intro sha
    have husage : Moves rt c D₀ D₂ (fun _ _ => True)
        (setUsage rt (envelope.grant.grantSha256 rt) (usage + 1) epoch sha) := by
      unfold setUsage
      apply (Moves.store (.other (Or.inr (Or.inr (Or.inr (Or.inl rfl)))))).bind
      intro _ _ _
      exact (Moves.of_calm (ReflexRuntimeControlPlane.appendAuditReceipt_calm rt _ _ _)).mono
        fun _ _ _ => trivial
    apply husage.bind
    exact fun _ _ _ => Moves.ret trivial
  · exact Moves.ret trivial

/-- Renewing a lease stores the renewal. -/
theorem renewLease_moves (payload : Row) (epoch : ℕ) :
    Moves rt c D₀ D (fun _ _ => True) (renewLease rt payload epoch) := by
  unfold renewLease
  apply Moves.ofExcept_bind
  intro renewal _
  apply Moves.calm_bind (Prog.issues_ofExcept _)
  intro _
  apply Moves.calm_bind (requireGrant_calm rt _)
  intro envelope
  apply Moves.calm_bind (Prog.issues_ofExcept _)
  intro _
  apply Moves.calm_bind (requireSignedBy_calm rt renewal.issuerId renewal.keyId .leaseRenewal
    renewal.signingPayload renewal.signatureB64 epoch)
  intro _
  apply Moves.calm_bind (ReflexAuthorityPlane.status_calm rt epoch)
  intro status
  apply Moves.calm_bind (Prog.issues_ofExcept _)
  intro _
  apply Moves.ofExcept_bind
  intro name _
  apply (idempotentWrite_moves fun _ => .other (Or.inr (Or.inr (Or.inr (Or.inr rfl))))).bind
  intro _ _ _
  apply Moves.calm_bind (ReflexRuntimeControlPlane.renewLeaseAuthorized_calm rt _ _ _)
  exact fun _ => audited_moves _ _ _ _

/-- Ingesting a checkpoint stores it. -/
theorem ingestCheckpoint_moves (payload : Row) (epoch : ℕ) :
    Moves rt c D₀ D (fun _ _ => True) (ingestCheckpoint rt payload epoch) := by
  unfold ingestCheckpoint
  apply Moves.ofExcept_bind
  intro checkpoint _
  apply Moves.calm_bind (Prog.issues_ofExcept _)
  intro _
  apply Moves.calm_bind (requireSignedBy_calm rt checkpoint.issuerId checkpoint.keyId
    .ledgerCheckpoint checkpoint.signingPayload checkpoint.signatureB64 epoch)
  intro _
  apply Moves.calm_bind (ReflexAuthorityPlane.status_calm rt epoch)
  intro status
  apply Moves.calm_bind (ReflexRuntimeControlPlane.loadLedger_calm rt)
  intro ledger
  apply Moves.calm_bind (Prog.issues_ofExcept _)
  intro _
  apply Moves.ofExcept_bind
  intro name _
  apply (idempotentWrite_moves fun _ => .other (Or.inr (Or.inr (Or.inl rfl)))).bind
  exact fun _ _ _ => audited_moves _ _ _ _

/-- What `enforceLiveLifecycle` does after it has materialised the rotations. -/
theorem enforceLiveLifecycle_moves (epoch : ℕ) (adapter : Option (String × String)) :
    Moves rt c D₀ D (fun D' _ => SameButTrust D D') (enforceLiveLifecycle rt epoch adapter) := by
  unfold enforceLiveLifecycle
  apply (materializeEffectiveRotations_moves epoch).bind
  intro D₁ _ hsame
  apply Moves.calm_bind (ReflexAuthorityPlane.status_calm rt epoch)
  intro status
  split
  · exact Moves.ret hsame
  · apply Moves.calm_bind (requireGrant_calm rt _)
    intro envelope
    apply Moves.calm_bind (keyIsLive_calm rt _ _ epoch)
    intro live
    split
    · exact (Moves.of_calm (enforceManifest_calm rt envelope _ adapter epoch)).mono
        fun D' _ heq => heq ▸ hsame
    · apply Moves.calm_bind (ReflexRuntimeControlPlane.deactivate_calm rt _ epoch)
      exact fun _ => Moves.ret hsame

/-- A status call materialises rotations. -/
theorem lifecycleStatus_moves (epoch : ℕ) (adapter : Option (String × String)) :
    Moves rt c D₀ D (fun _ _ => True) (status rt epoch adapter) := by
  unfold status
  apply (materializeEffectiveRotations_moves epoch).bind
  intro D₁ _ _
  apply Moves.calm_bind (ReflexAuthorityPlane.status_calm rt epoch)
  intro first
  apply (enforceLiveLifecycle_moves epoch adapter).bind
  intro D₂ enforcement _
  have hrecords : ∀ authority, Moves rt c D₀ D₂ (fun _ _ => True)
      (statusRecords rt enforcement authority) := fun authority =>
    (Moves.of_calm (statusRecords_calm rt enforcement authority)).mono fun _ _ _ => trivial
  cases enforcement with
  | none => exact hrecords first
  | some enforcement =>
      apply Moves.calm_bind (ReflexAuthorityPlane.status_calm rt epoch)
      exact hrecords

theorem lifecycleEvaluate_moves (input : ReflexInput) (adapterId adapterVersion : String)
    (epoch : ℕ) :
    Moves rt c D₀ D (fun _ _ => True) (evaluateActive rt input adapterId adapterVersion epoch) := by
  unfold evaluateActive
  apply (enforceLiveLifecycle_moves epoch _).bind
  intro D₁ enforcement _
  cases enforcement with
  | some enforcement => exact Moves.ret trivial
  | none => exact (Moves.of_quiet (authorityEvaluate_quiet input epoch)).mono fun _ _ _ => trivial

end Lifecycle

/-! ## All calls -/

/-- A call makes moves of its list and nothing else. -/
theorem program_moves (rt : ReflexRuntime) (c : ReflexCall) (D₀ : ReflexRecords) :
    Moves rt c D₀ D₀ (fun _ _ => True) (c.program rt) := by
  cases c with
  | ingestTrustAnchor payload epoch expected =>
      have hcall : (ReflexCall.ingestTrustAnchor payload epoch expected).IngestsAnchor := trivial
      exact (ingestTrustAnchor_moves epoch expected
        fun anchor file _ hvalid hfile habsent => .install hcall hvalid hfile habsent).drop
  | ingestSignedGrant payload epoch expected =>
      exact (ingestSignedGrant_moves payload epoch expected).drop
  | ingestRevocation payload epoch expected =>
      exact (ingestRevocation_moves payload epoch expected).drop
  | activateSigned request grantId epoch leaseUntilEpoch expected =>
      exact (Moves.of_quiet
        (activateSigned_quiet request grantId epoch leaseUntilEpoch expected)).drop
  | authorityStatus epoch => exact Moves.drop_of_calm (ReflexAuthorityPlane.status_calm rt epoch)
  | authorityEvaluate input epoch => exact (Moves.of_quiet (authorityEvaluate_quiet input epoch)).drop
  | deactivate reason epoch =>
      exact Moves.drop_of_calm (ReflexRuntimeControlPlane.deactivate_calm rt reason epoch)
  | ingestTrustTransition payload epoch => exact (ingestTrustTransition_moves payload epoch).drop
  | ingestGrantUsePolicy payload epoch => exact (ingestGrantUsePolicy_moves payload epoch).drop
  | ingestProviderManifest payload epoch => exact (ingestProviderManifest_moves payload epoch).drop
  | activateVerified request grantId adapterId adapterVersion epoch leaseUntilEpoch expected =>
      exact (activateVerified_moves request grantId adapterId adapterVersion epoch leaseUntilEpoch
        expected).drop
  | renewLease payload epoch => exact (renewLease_moves payload epoch).drop
  | ingestCheckpoint payload epoch => exact (ingestCheckpoint_moves payload epoch).drop
  | status epoch adapter => exact (lifecycleStatus_moves epoch adapter).drop
  | evaluateActive input adapterId adapterVersion epoch =>
      exact (lifecycleEvaluate_moves input adapterId adapterVersion epoch).drop

theorem ReflexCall.RunsTo.moves {rt : ReflexRuntime} {c : ReflexCall} {w w' : ReflexWorld}
    {q : ReflexProg Unit} (hrun : c.RunsTo rt w q w') :
    ReflTransGen (ReflexMove rt c w.dirs) w.dirs w'.dirs := by
  obtain ⟨t, hsteps, hcarries⟩ := hrun
  exact (program_moves rt c w.dirs).sound hsteps hcarries

end PhiOS
