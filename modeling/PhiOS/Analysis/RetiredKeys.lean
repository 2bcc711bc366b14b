import PhiOS.Analysis.ActiveGrants
import PhiOS.Analysis.RotationNarrowing

/-!
# A retired key stays retired

A key is retired by its two identifiers as the transition spells them, and a signature is checked
under the anchor of the file that the identifiers name. While every record that is presented, and
verifies under a stored anchor, spells that anchor's identifiers exactly, the two agree: a call that
returns at an epoch from which a stored transition is effective has accepted nothing under the
anchor of its file, and an enforcing one leaves no activation active that a grant under it granted.
-/

set_option autoImplicit false

namespace PhiOS

open Interaction KeyOrder Reflex Relation ReflexTrustLifecyclePlane

/-- The identifiers under which a record of the directory is signed. -/
def ReflexDir.signer : (d : ReflexDir) → d.Item → Option (String × String)
  | .signedGrants, envelope => some (envelope.issuerId, envelope.keyId)
  | .transitions, transition => some (transition.issuerId, transition.keyId)
  | .usePolicies, policy => some (policy.issuerId, policy.keyId)
  | .manifests, manifest => some (manifest.issuerId, manifest.keyId)
  | .trust, _ | .revocations, _ | .grants, _ | .checkpoints, _ | .usage, _ | .renewals, _ => none

/-- The anchor of the file that the identifiers name bears both. -/
def NamesAnchor (D : ReflexRecords) (issuerId keyId : String) : Prop :=
  ∃ anchor, AnchorOf D issuerId keyId anchor ∧ anchor.issuerId = issuerId ∧ anchor.keyId = keyId

/-- Every record that the call presents, with a signature that verifies under the anchor of the file
that its identifiers name, spells the identifiers of that anchor. -/
def NamesSigners (rt : ReflexRuntime) (w : ReflexWorld) (c : ReflexCall) : Prop :=
  ∀ issuerId keyId purpose payload signatureB64 signer,
    c.Presents rt issuerId keyId purpose payload signatureB64 →
    AnchorOf w.dirs issuerId keyId signer →
    Verifies rt signer purpose.value payload signatureB64 →
    signer.issuerId = issuerId ∧ signer.keyId = keyId

/-! ## The invariant -/

/-- Every stored signed record spells the identifiers of the anchor it was signed under. -/
def SignersNamed (D : ReflexRecords) : Prop :=
  ∀ (d : ReflexDir) (item : d.Item) (issuerId keyId : String), item ∈ D.items d →
    d.signer item = some (issuerId, keyId) → NamesAnchor D issuerId keyId

section Invariant

variable {rt : ReflexRuntime} {c : ReflexCall} {D₀ D D' : ReflexRecords} {issuerId keyId : String}

theorem NamesAnchor.extend (h : NamesAnchor D issuerId keyId) (hext : Extends D D') :
    NamesAnchor D' issuerId keyId := by
  obtain ⟨anchor, hanchor, hissuer, hkey⟩ := h
  exact ⟨anchor, hext.anchorOf hanchor, hissuer, hkey⟩

theorem SignersNamed.store (h : SignersNamed D) {d : ReflexDir} {file : String} {item : d.Item}
    (hext : Extends D (D.store d file item))
    (hnew : ∀ issuerId keyId, d.signer item = some (issuerId, keyId) →
      NamesAnchor D issuerId keyId) : SignersNamed (D.store d file item) := by
  intro d' item' issuerId keyId hmem hsigner
  obtain ⟨file', hfound⟩ := ReflexRecords.mem_items.mp hmem
  rcases get?_store hfound with hold | ⟨hdir, hfile⟩
  · exact (h d' item' issuerId keyId (ReflexRecords.mem_items.mpr ⟨file', hold⟩) hsigner).extend hext
  · subst hdir hfile
    rw [get?_store_self] at hfound
    have heq := Option.some.inj hfound
    subst heq
    exact (hnew issuerId keyId hsigner).extend hext

/-- One move keeps the invariant. -/
theorem SignersNamed.move (h : SignersNamed D) (hext₀ : Extends D₀ D)
    (hnames : NamesSigners rt ⟨D₀, fun _ => none⟩ c) (hmove : ReflexMove rt c D₀ D D') :
    SignersNamed D' := by
  have hext : Extends D D' := .of_moves (.single hmove)
  have hnamed : ∀ {i k i' k' : String} {purpose : AuthorityPurpose} {payload : Row}
      {signatureB64 : String} {signer : ReflexAuthorityTrustAnchor},
      c.Presents rt i k purpose payload signatureB64 → AnchorOf D₀ i k signer ∧
        Verifies rt signer purpose.value payload signatureB64 →
      some (i, k) = some (i', k') → NamesAnchor D i' k' := by
    intro i k i' k' purpose payload signatureB64 signer hpresents hsigned hsame
    cases hsame
    exact ⟨signer, hext₀.anchorOf hsigned.1,
      hnames i k purpose payload signatureB64 signer hpresents hsigned.1 hsigned.2⟩
  cases hmove with
  | install hcall hvalid hfile habsent => exact h.store hext fun _ _ hnone => nomatch hnone
  | rotate hstored hsigned haction hreplacement hvalid hfile habsent =>
      exact h.store hext fun _ _ hnone => nomatch hnone
  | transition hcall hshape hsigned habsent =>
      obtain ⟨payload, epoch, rfl, hparse⟩ := hcall
      exact h.store hext fun _ _ hsigner => hnamed (.transition hparse) hsigned hsigner
  | signedGrant hcall hsigned => exact h.store hext fun _ _ hsigner => hnamed hcall hsigned hsigner
  | usePolicy hcall hsigned => exact h.store hext fun _ _ hsigner => hnamed hcall hsigned hsigner
  | manifest hcall hsigned => exact h.store hext fun _ _ hsigner => hnamed hcall hsigned hsigner
  | other hdir =>
      apply h.store hext
      intro i k hsigner
      rcases hdir with rfl | rfl | rfl | rfl | rfl <;> cases hsigner

theorem SignersNamed.moves (h : SignersNamed D₀)
    (hnames : NamesSigners rt ⟨D₀, fun _ => none⟩ c)
    (hmoves : ReflTransGen (ReflexMove rt c D₀) D₀ D) : SignersNamed D := by
  induction hmoves with
  | refl => exact h
  | tail hbefore hmove ih => exact ih.move (.of_moves hbefore) hnames hmove

/-- The invariant holds in every state that a run reaches whose calls name their
signers. -/
theorem Reached.signersNamed {S : ReflexAuthorityTrustAnchor → Prop} {w : ReflexWorld}
    (hrun : Reached rt (NamesSigners rt) S w) : SignersNamed w.dirs := by
  induction hrun with
  | start control =>
      intro d item i k hmem
      cases hmem
  | call c run hallowed hrun ih => exact ih.moves hallowed hrun.moves
  | @control S w w' run hdirs ih =>
      have hext : Extends w.dirs w'.dirs := .of_eq (hdirs .trust (by decide))
        (hdirs .transitions (by decide))
      intro d item i k hmem hsigner
      have hdir : d ≠ .grants := by
        rintro rfl
        cases hsigner
      unfold ReflexRecords.items at hmem
      rw [hdirs d hdir] at hmem
      exact (ih d item i k hmem hsigner).extend hext

theorem ne_file_of_live {transition : ReflexTrustTransition} {epoch : ℕ} (h : SignersNamed D)
    (hstored : transition ∈ D.items .transitions) (heffective : transition.effectiveEpoch ≤ epoch)
    (hnames : NamesAnchor D issuerId keyId) (hlive : NotRetired D issuerId keyId epoch) :
    ReflexAuthorityPlane.anchorFile issuerId keyId ≠
      ReflexAuthorityPlane.anchorFile transition.issuerId transition.keyId := by
  intro hsame
  obtain ⟨anchor, hanchor, hissuer, hkey⟩ := hnames
  obtain ⟨retired, ⟨file, hfile, hfound⟩, hissuer', hkey'⟩ := h .transitions transition _ _ hstored rfl
  have heq := hanchor.unique ⟨file, hsame.trans hfile, hfound⟩
  subst heq
  have hfalse := hlive transition hstored
  unfold retires at hfalse
  rw [← hissuer, ← hkey, hissuer', hkey'] at hfalse
  simp [heffective] at hfalse

end Invariant

/-! ## What a call has checked -/

section Calls

variable {rt : ReflexRuntime} {c : ReflexCall} {w w' : ReflexWorld} {issuerId keyId : String}
  {epoch : ℕ}

theorem ends_drop {α : Type} {p : ReflexProg α}
    (hends : (ReflexCall.drop p).Ends ReflexOp.effect w (.ok ()) w') :
    ∃ a, p.Ends ReflexOp.effect w (.ok a) w' := by
  obtain ⟨a, w₁, hp, hlast⟩ := Prog.ends_bind hends
  rw [(Prog.ends_ret.mp hlast).2]
  exact ⟨a, hp⟩

/-- A record that is accepted under a signature spells its signer, whom nothing
retires. -/
theorem named_of_signed {purpose : AuthorityPurpose} {payload : Row} {signatureB64 : String}
    (hnames : NamesSigners rt w c) (hpresents : c.Presents rt issuerId keyId purpose payload signatureB64)
    (hsigned : ∃ signer, AnchorOf w.dirs issuerId keyId signer ∧
      Verifies rt signer purpose.value payload signatureB64) : NamesAnchor w.dirs issuerId keyId := by
  obtain ⟨signer, hsigner, hverifies⟩ := hsigned
  exact ⟨signer, hsigner, hnames _ _ _ _ _ signer hpresents hsigner hverifies⟩

theorem ends_requireSignedBy {purpose : AuthorityPurpose} {payload : Row} {signatureB64 : String}
    {w₁ w₂ : ReflexWorld} {u : Unit} (hdirs : w₁.dirs = w.dirs)
    (hends : (requireSignedBy rt issuerId keyId purpose payload signatureB64 epoch).Ends
      ReflexOp.effect w₁ (.ok u) w₂) :
    (∃ signer, AnchorOf w.dirs issuerId keyId signer ∧
      Verifies rt signer purpose.value payload signatureB64) ∧
      NotRetired w.dirs issuerId keyId epoch := by
  have hobserved := ((requireSignedBy_observes issuerId keyId purpose payload signatureB64
    epoch).ends hends).2
  rw [hdirs] at hobserved
  exact hobserved

theorem ends_requireGrant {grantSha256 : String} {envelope : SignedActivationGrantEnvelope}
    (hends : (requireGrant rt grantSha256).Ends ReflexOp.effect w (.ok envelope) w') :
    w'.dirs = w.dirs :=
  (ReflexProg.ends_of_calm (requireGrant_calm rt grantSha256) hends).1

/-- The calls of the lifecycle plane that accept a signed record. -/
def ReflexCall.IsLifecycle : ReflexCall → Prop
  | ingestTrustTransition _ _ | ingestGrantUsePolicy _ _ | ingestProviderManifest _ _
  | activateVerified _ _ _ _ _ _ _ | renewLease _ _ | ingestCheckpoint _ _ => True
  | _ => False

/-- What a lifecycle call that returns has checked about the record it was given. -/
theorem signed_of_presents {purpose : AuthorityPurpose} {payload : Row} {signatureB64 : String}
    (hlifecycle : c.IsLifecycle)
    (hpresents : c.Presents rt issuerId keyId purpose payload signatureB64)
    (hends : (c.program rt).Ends ReflexOp.effect w (.ok ()) w') :
    (∃ signer, AnchorOf w.dirs issuerId keyId signer ∧
      Verifies rt signer purpose.value payload signatureB64) ∧
      NotRetired w.dirs issuerId keyId c.epoch := by
  cases hpresents with
  | signedGrant hparse => exact hlifecycle.elim
  | @transition payload epoch transition hparse =>
      obtain ⟨_, hcall⟩ := ends_drop hends
      unfold ingestTrustTransition at hcall
      obtain ⟨read, hread, hcall⟩ := Prog.ends_ofExcept_bind hcall
      rw [hparse] at hread
      have hsame := Except.ok.inj hread
      subst hsame
      obtain ⟨_, -, hcall⟩ := Prog.ends_ofExcept_bind hcall
      obtain ⟨live, w₂, hkey, hcall⟩ := Prog.ends_bind hcall
      obtain ⟨_, hlive, hcall⟩ := Prog.ends_ofExcept_bind hcall
      obtain ⟨_, w₃, hverify, -⟩ := Prog.ends_bind hcall
      obtain ⟨hdirs, hkept⟩ := (keyIsLive_observes transition.issuerId transition.keyId epoch).ends hkey
      have hon : live = true := not_not.mp (raiseIf_eq_ok.mp hlive)
      unfold verifyTransitionSignature at hverify
      obtain ⟨_, w₄, hpayload, -⟩ := Prog.ends_bind hverify
      have hsigned := ((ReflexAuthorityPlane.verifySignedPayload_observes transition.issuerId
        transition.keyId AuthorityPurpose.trustTransition.value transition.signingPayload
        transition.signatureB64).ends hpayload).2
      rw [hdirs] at hsigned
      exact ⟨hsigned, (hkept hon).2⟩
  | @usePolicy payload epoch policy hparse =>
      obtain ⟨_, hcall⟩ := ends_drop hends
      unfold ingestGrantUsePolicy at hcall
      obtain ⟨read, hread, hcall⟩ := Prog.ends_ofExcept_bind hcall
      rw [hparse] at hread
      have hsame := Except.ok.inj hread
      subst hsame
      obtain ⟨_, -, hcall⟩ := Prog.ends_ofExcept_bind hcall
      obtain ⟨envelope, w₂, hgrant, hcall⟩ := Prog.ends_bind hcall
      obtain ⟨_, -, hcall⟩ := Prog.ends_ofExcept_bind hcall
      obtain ⟨_, w₃, hsigned, -⟩ := Prog.ends_bind hcall
      exact ends_requireSignedBy (ends_requireGrant hgrant) hsigned
  | @manifest payload epoch manifest hparse =>
      obtain ⟨_, hcall⟩ := ends_drop hends
      unfold ingestProviderManifest at hcall
      obtain ⟨read, hread, hcall⟩ := Prog.ends_ofExcept_bind hcall
      rw [hparse] at hread
      have hsame := Except.ok.inj hread
      subst hsame
      obtain ⟨_, -, hcall⟩ := Prog.ends_ofExcept_bind hcall
      obtain ⟨_, w₂, hsigned, -⟩ := Prog.ends_bind hcall
      exact ends_requireSignedBy rfl hsigned
  | @renewal payload epoch renewal hparse =>
      obtain ⟨_, hcall⟩ := ends_drop hends
      unfold renewLease at hcall
      obtain ⟨read, hread, hcall⟩ := Prog.ends_ofExcept_bind hcall
      rw [hparse] at hread
      have hsame := Except.ok.inj hread
      subst hsame
      obtain ⟨_, -, hcall⟩ := Prog.ends_ofExcept_bind hcall
      obtain ⟨envelope, w₂, hgrant, hcall⟩ := Prog.ends_bind hcall
      obtain ⟨_, -, hcall⟩ := Prog.ends_ofExcept_bind hcall
      obtain ⟨_, w₃, hsigned, -⟩ := Prog.ends_bind hcall
      exact ends_requireSignedBy (ends_requireGrant hgrant) hsigned
  | @checkpoint payload epoch checkpoint hparse =>
      obtain ⟨_, hcall⟩ := ends_drop hends
      unfold ingestCheckpoint at hcall
      obtain ⟨read, hread, hcall⟩ := Prog.ends_ofExcept_bind hcall
      rw [hparse] at hread
      have hsame := Except.ok.inj hread
      subst hsame
      obtain ⟨_, -, hcall⟩ := Prog.ends_ofExcept_bind hcall
      obtain ⟨_, w₂, hsigned, -⟩ := Prog.ends_bind hcall
      exact ends_requireSignedBy rfl hsigned

/-! ## Activation -/

/-- The call, started in `w`, goes by a record that is signed under these identifiers: one that it
is given, or for an activation the grant, the manifest and the use policy that it finds on file. -/
inductive ReflexCall.ReliesOn (rt : ReflexRuntime) :
    ReflexCall → ReflexWorld → String → String → Prop
  | presented {c : ReflexCall} {w : ReflexWorld} {issuerId keyId : String}
      {purpose : AuthorityPurpose} {payload : Row} {signatureB64 : String}
      (hlifecycle : c.IsLifecycle)
      (hpresents : c.Presents rt issuerId keyId purpose payload signatureB64) :
      ReliesOn rt c w issuerId keyId
  | grant {request : ReflexActivationRequest} {grantId adapterId adapterVersion : String} {epoch : ℕ}
      {leaseUntilEpoch : Option ℕ} {expected : Option String} {w w₁ w₂ : ReflexWorld}
      {envelope : SignedActivationGrantEnvelope}
      (hrotations : (materializeEffectiveRotations rt epoch).Ends ReflexOp.effect w (.ok ()) w₁)
      (hgrant : (requireGrantById rt grantId).Ends ReflexOp.effect w₁ (.ok envelope) w₂) :
      ReliesOn rt (.activateVerified request grantId adapterId adapterVersion epoch leaseUntilEpoch
        expected) w envelope.issuerId envelope.keyId
  | manifest {request : ReflexActivationRequest} {grantId adapterId adapterVersion : String}
      {epoch : ℕ} {leaseUntilEpoch : Option ℕ} {expected : Option String} {w w₁ w₂ w₃ : ReflexWorld}
      {envelope : SignedActivationGrantEnvelope} {manifest : ReflexProviderManifest}
      (hrotations : (materializeEffectiveRotations rt epoch).Ends ReflexOp.effect w (.ok ()) w₁)
      (hgrant : (requireGrantById rt grantId).Ends ReflexOp.effect w₁ (.ok envelope) w₂)
      (hmanifest : (requireProviderManifest rt envelope request.provider request.models adapterId
        adapterVersion epoch).Ends ReflexOp.effect w₂ (.ok manifest) w₃) :
      ReliesOn rt (.activateVerified request grantId adapterId adapterVersion epoch leaseUntilEpoch
        expected) w manifest.issuerId manifest.keyId
  | usePolicy {request : ReflexActivationRequest} {grantId adapterId adapterVersion : String}
      {epoch : ℕ} {leaseUntilEpoch : Option ℕ} {expected : Option String} {w w₁ w₂ w₃ : ReflexWorld}
      {envelope : SignedActivationGrantEnvelope} {policy : ReflexGrantUsePolicy}
      (hrotations : (materializeEffectiveRotations rt epoch).Ends ReflexOp.effect w (.ok ()) w₁)
      (hgrant : (requireGrantById rt grantId).Ends ReflexOp.effect w₁ (.ok envelope) w₂)
      (hpolicy : (requireUsePolicy rt (envelope.grant.grantSha256 rt) epoch).Ends ReflexOp.effect w₂
        (.ok policy) w₃) :
      ReliesOn rt (.activateVerified request grantId adapterId adapterVersion epoch leaseUntilEpoch
        expected) w policy.issuerId policy.keyId

theorem ends_materializeEffectiveRotations (c : ReflexCall) {u : Unit}
    (hends : (materializeEffectiveRotations rt epoch).Ends ReflexOp.effect w (.ok u) w') :
    ReflTransGen (ReflexMove rt c w.dirs) w.dirs w'.dirs ∧ SameButTrust w.dirs w'.dirs :=
  (materializeEffectiveRotations_moves epoch).ends .refl hends

theorem ends_requireGrantById {grantId : String} {envelope : SignedActivationGrantEnvelope}
    (hends : (requireGrantById rt grantId).Ends ReflexOp.effect w (.ok envelope) w') :
    w'.dirs = w.dirs ∧ ∃ name, authorityId grantId = .ok name ∧
      (w.dirs .signedGrants).get? (name ++ ".json") = some envelope :=
  (requireGrantById_observes grantId).ends hends

/-- What an activation that returns goes by is signed by keys that nothing retires. -/
theorem live_of_reliesOn (hnamed : SignersNamed w.dirs) (hnames : NamesSigners rt w c)
    (hrelies : c.ReliesOn rt w issuerId keyId)
    (hends : (c.program rt).Ends ReflexOp.effect w (.ok ()) w') :
    ∃ D, ReflTransGen (ReflexMove rt c w.dirs) w.dirs D ∧ NamesAnchor D issuerId keyId ∧
      NotRetired D issuerId keyId c.epoch := by
  cases hrelies with
  | presented hlifecycle hpresents =>
      obtain ⟨hsigned, hlive⟩ := signed_of_presents hlifecycle hpresents hends
      exact ⟨w.dirs, .refl, named_of_signed hnames hpresents hsigned, hlive⟩
  | @grant request grantId adapterId adapterVersion epoch leaseUntilEpoch expected w w₁ w₂ envelope
      hrotations hgrant =>
      obtain ⟨-, hsame⟩ := ends_materializeEffectiveRotations
        (.activateVerified request grantId adapterId adapterVersion epoch leaseUntilEpoch expected)
        hrotations
      obtain ⟨-, name, hname, hfound⟩ := ends_requireGrantById hgrant
      -- The call finds the same envelope.
      obtain ⟨_, hcall⟩ := ends_drop hends
      unfold activateVerified at hcall
      obtain ⟨_, v₁, hrotations', hcall⟩ := Prog.ends_bind hcall
      obtain ⟨found, v₂, hgrant', hcall⟩ := Prog.ends_bind hcall
      obtain ⟨_, v₃, hsigner, -⟩ := Prog.ends_bind hcall
      obtain ⟨hmoves, hsame'⟩ := ends_materializeEffectiveRotations
        (.activateVerified request grantId adapterId adapterVersion epoch leaseUntilEpoch expected)
        hrotations'
      obtain ⟨hdirs, name', hname', hfound'⟩ := ends_requireGrantById hgrant'
      rw [hname] at hname'
      rw [← Except.ok.inj hname', hsame' .signedGrants (by decide), ← hsame .signedGrants (by decide),
        hfound] at hfound'
      have heq := Option.some.inj hfound'
      subst heq
      have hlive := ((requireLiveSigner_observes envelope.issuerId envelope.keyId epoch).ends
        hsigner).2.2
      rw [hdirs] at hlive
      refine ⟨v₁.dirs, hmoves, ?_, hlive⟩
      apply hnamed.moves hnames hmoves .signedGrants envelope _ _ _ rfl
      rw [hsame .signedGrants (by decide), ← hsame' .signedGrants (by decide)] at hfound
      exact ReflexRecords.mem_items.mpr ⟨_, hfound⟩
  | @manifest request grantId adapterId adapterVersion epoch leaseUntilEpoch expected w w₁ w₂ w₃
      envelope manifest hrotations hgrant hmanifest =>
      obtain ⟨hmoves, -⟩ := ends_materializeEffectiveRotations
        (.activateVerified request grantId adapterId adapterVersion epoch leaseUntilEpoch expected)
        hrotations
      have hdirs := (ends_requireGrantById hgrant).1
      obtain ⟨hstored, hlive⟩ := ((requireProviderManifest_observes envelope request.provider
        request.models adapterId adapterVersion epoch).ends hmanifest).2
      rw [hdirs] at hstored hlive
      exact ⟨w₁.dirs, hmoves,
        hnamed.moves hnames hmoves .manifests manifest _ _ hstored rfl, hlive⟩
  | @usePolicy request grantId adapterId adapterVersion epoch leaseUntilEpoch expected w w₁ w₂ w₃
      envelope policy hrotations hgrant hpolicy =>
      obtain ⟨hmoves, -⟩ := ends_materializeEffectiveRotations
        (.activateVerified request grantId adapterId adapterVersion epoch leaseUntilEpoch expected)
        hrotations
      have hdirs := (ends_requireGrantById hgrant).1
      obtain ⟨hstored, hlive⟩ := ((requireUsePolicy_observes (envelope.grant.grantSha256 rt)
        epoch).ends hpolicy).2
      rw [hdirs] at hstored hlive
      exact ⟨w₁.dirs, hmoves, hnamed.moves hnames hmoves .usePolicies policy _ _
        (ReflexRecords.mem_items.mpr ⟨_, hstored⟩) rfl, hlive⟩

/-! ## Enforcement -/

/-- The grant of this digest is signed by a key that nothing retires. -/
def LiveGrant (rt : ReflexRuntime) (D : ReflexRecords) (epoch : ℕ) (grantSha256 : String) : Prop :=
  ∃ envelope, (D.items .signedGrants).find? (fun e => e.grant.grantSha256 rt = grantSha256) =
      some envelope ∧ NotRetired D envelope.issuerId envelope.keyId epoch

/-- When the enforcement returns, an active activation has a live grant.
SOURCE: reflex/lifecycle.py:674-715 -/
theorem activeWithin_of_enforceLiveLifecycle {adapter : Option (String × String)}
    {enforcement : Option ReflexDeactivation}
    (hends : (enforceLiveLifecycle rt epoch adapter).Ends ReflexOp.effect w (.ok enforcement) w') :
    ActiveWithin (LiveGrant rt w'.dirs epoch) w' := by
  unfold enforceLiveLifecycle at hends
  obtain ⟨_, w₁, -, hends⟩ := Prog.ends_bind hends
  obtain ⟨status, w₂, hstatus, hrest⟩ := Prog.ends_bind hends
  have hreported := ReflexAuthorityPlane.activeWithin_of_authorityStatus hstatus
  split at hrest
  · rename_i hnone
    rw [(Prog.ends_ret.mp hrest).2]
    refine hreported.mono ?_
    rintro sha256 ⟨activation, hactive, -⟩
    rw [hnone] at hactive
    cases hactive
  · rename_i activation hsome
    obtain ⟨envelope, w₃, hgrant, hrest⟩ := Prog.ends_bind hrest
    obtain ⟨live, w₄, hkey, hrest⟩ := Prog.ends_bind hrest
    obtain ⟨hdirs₃, hfound⟩ := (requireGrant_observes activation.activatedByGrantSha256).ends hgrant
    obtain ⟨hdirs₄, hkept⟩ := (keyIsLive_observes envelope.issuerId envelope.keyId epoch).ends hkey
    have h₃ := (ReflexProg.ends_of_calm (requireGrant_calm rt _) hgrant).2 _ hreported
    have h₄ := (ReflexProg.ends_of_calm (keyIsLive_calm rt _ _ epoch) hkey).2 _ h₃
    have hnever : ∀ {v : ReflexWorld} {G : String → Prop}, ActiveWithin (fun _ => False) v →
        ActiveWithin G v := fun hoff => hoff.mono fun _ hfalse => hfalse.elim
    cases live with
    | true =>
        have hlive := (hkept rfl).2
        have hcalm := enforceManifest_calm rt envelope activation adapter epoch
        obtain ⟨hdirs, hactive⟩ := ReflexProg.ends_of_calm hcalm hrest
        refine (hactive _ h₄).mono ?_
        rintro sha256 ⟨active, hactive, rfl⟩
        rw [hsome] at hactive
        have heq := Option.some.inj hactive
        subst heq
        rw [hdirs, hdirs₄, hdirs₃]
        rw [hdirs₃] at hlive
        exact ⟨envelope, hfound, hlive⟩
    | false =>
        obtain ⟨deactivation, w₅, hdeactivate, hlast⟩ := Prog.ends_bind hrest
        rw [(Prog.ends_ret.mp hlast).2]
        exact hnever (ReflexRuntimeControlPlane.activeWithin_of_deactivate hdeactivate)

/-- The calls that enforce the lifecycle: `status` and `evaluate_active`. -/
def ReflexCall.Enforces : ReflexCall → Prop
  | status _ _ | evaluateActive _ _ _ _ => True
  | _ => False

/-- When a call that enforces returns, an active activation has a live grant. -/
theorem activeWithin_of_enforces (henforces : c.Enforces)
    (hends : (c.program rt).Ends ReflexOp.effect w (.ok ()) w') :
    ActiveWithin (LiveGrant rt w'.dirs c.epoch) w' := by
  cases c with
  | status epoch adapter =>
      obtain ⟨_, hcall⟩ := ends_drop hends
      unfold status at hcall
      obtain ⟨_, w₁, -, hcall⟩ := Prog.ends_bind hcall
      obtain ⟨first, w₂, -, hcall⟩ := Prog.ends_bind hcall
      obtain ⟨enforcement, w₃, henforce, hrest⟩ := Prog.ends_bind hcall
      have hactive := activeWithin_of_enforceLiveLifecycle henforce
      cases enforcement with
      | none =>
          obtain ⟨hdirs, hkept⟩ := ReflexProg.ends_of_calm (statusRecords_calm rt none first) hrest
          rw [hdirs]
          exact hkept _ hactive
      | some enforcement =>
          obtain ⟨again, w₄, hagain, hrecords⟩ := Prog.ends_bind hrest
          obtain ⟨hdirs₄, hkept₄⟩ := ReflexProg.ends_of_calm
            (ReflexAuthorityPlane.status_calm rt epoch) hagain
          obtain ⟨hdirs, hkept⟩ := ReflexProg.ends_of_calm
            (statusRecords_calm rt (some enforcement) again) hrecords
          rw [hdirs, hdirs₄]
          exact hkept _ (hkept₄ _ hactive)
  | evaluateActive input adapterId adapterVersion epoch =>
      obtain ⟨_, hcall⟩ := ends_drop hends
      unfold evaluateActive at hcall
      obtain ⟨enforcement, w₁, henforce, hrest⟩ := Prog.ends_bind hcall
      have hactive := activeWithin_of_enforceLiveLifecycle henforce
      cases enforcement with
      | some enforcement =>
          rw [(Prog.ends_ret.mp hrest).2]
          exact hactive
      | none =>
          have hdirs := ((Observes.of_quiet (D := w₁.dirs)
            (authorityEvaluate_quiet input epoch)).ends hrest).1
          rw [hdirs]
          exact ReflexAuthorityPlane.activeWithin_of_authorityEvaluate hrest hactive
  | _ => exact henforces.elim

/-! ## The claim about runs -/

/-- A call has gone from `w` to `w'` as if the key that the transition retires were gone: it went by
no record that is signed under the anchor of the transition's file, and if it enforces the
lifecycle, no active activation is left whose grant was signed under that anchor. -/
structure StaysRetired (rt : ReflexRuntime) (transition : ReflexTrustTransition) (c : ReflexCall)
    (w w' : ReflexWorld) : Prop where
  accepted : ∀ issuerId keyId, c.ReliesOn rt w issuerId keyId →
    ReflexAuthorityPlane.anchorFile issuerId keyId ≠
      ReflexAuthorityPlane.anchorFile transition.issuerId transition.keyId
  inactive : c.Enforces → ∀ activation envelope,
    w'.control .activation = some (.ok activation) → activation.routingInfluenceActive = true →
    (ReflexRecords.items w'.dirs .signedGrants).find? (fun e =>
      e.grant.grantSha256 rt = activation.activatedByGrantSha256) = some envelope →
    ReflexAuthorityPlane.anchorFile envelope.issuerId envelope.keyId ≠
      ReflexAuthorityPlane.anchorFile transition.issuerId transition.keyId

end Calls

/-! ### A retired key under another spelling -/

/-- The purposes of the key `k1`. -/
def manifestPurposes : List String := ["provider_manifest", "trust_transition"]

/-- The transition that disables it. -/
def disabling : ReflexTrustTransition where
  transitionId := "t1"
  issuerId := "a"
  keyId := "k1"
  action := "DISABLE"
  issuedAtEpoch := 0
  effectiveEpoch := 0
  reason := "key compromised"
  replacementAnchor := none
  signatureB64 := zeroSignatureB64
  envelopeSha256 := commonSha256

/-- Its ingest. -/
def disablingIngest : ReflexCall :=
  .ingestTrustTransition (disabling.body ++ [("envelope_sha256", .str commonSha256)]) 0

/-- The store after the key was ingested and disabled. -/
def disabledWorld : ReflexWorld :=
  disablingIngest.end zeroKeyRuntime (firstKeyWorld manifestPurposes)

/-- The anchors that are installed then. -/
def disabledInstalled : ReflexAuthorityTrustAnchor → Prop :=
  Installed (firstKeyInstalled manifestPurposes) disablingIngest (firstKeyWorld manifestPurposes).dirs
    disabledWorld.dirs

/-- A manifest of the issuer ` a`, with a blank before it, and key `k1`. -/
def blankManifest : ReflexProviderManifest where
  manifestId := "m1"
  issuerId := " a"
  keyId := "k1"
  provider := "p"
  models := ["m"]
  adapterId := "x"
  adapterVersion := "1"
  issuedAtEpoch := 0
  effectiveEpoch := 0
  validUntilEpoch := none
  signatureB64 := zeroSignatureB64
  envelopeSha256 := commonSha256

/-- Its ingest, at an epoch at which the key is retired. -/
def blankManifestIngest : ReflexCall :=
  .ingestProviderManifest (blankManifest.body ++ [("envelope_sha256", .str commonSha256)]) 5

theorem disabling_read :
    trustTransitionFromPayload zeroKeyRuntime
      (disabling.body ++ [("envelope_sha256", .str commonSha256)]) = .ok disabling ∧
    providerManifestFromPayload zeroKeyRuntime
      (blankManifest.body ++ [("envelope_sha256", .str commonSha256)]) = .ok blankManifest ∧
    ReflexAuthorityPlane.anchorFile "a" "k1" = .ok "a__k1.json" ∧
    ReflexAuthorityPlane.anchorFile " a" "k1" = .ok "a__k1.json" := by
  decide +kernel

theorem disabledWorld_files :
    ((firstKeyWorld manifestPurposes).dirs .trust).get? "a__k1.json" =
      some (zeroKeyAnchor "a" "k1" manifestPurposes) ∧
    ReflexRecords.items disabledWorld.dirs .transitions = [disabling] ∧
    ((blankManifestIngest.program zeroKeyRuntime).run ReflexOp.act disabledWorld).1 = .ok () ∧
    (((ReflexCall.status 5 none).program zeroKeyRuntime).run ReflexOp.act disabledWorld).1 =
      .ok () := by
  decide +kernel

/-- The two calls name their signer. -/
theorem reached_disabledWorld :
    Reached zeroKeyRuntime (NamesSigners zeroKeyRuntime) disabledInstalled disabledWorld := by
  have hinstalls : NamesSigners zeroKeyRuntime .empty (firstKeyIngest manifestPurposes) := by
    intro issuerId keyId purpose payload signatureB64 signer hpresents
    cases hpresents
  apply reached_secondCall manifestPurposes disablingIngest hinstalls
  intro issuerId keyId purpose payload signatureB64 signer hpresents hsigner hverifies
  obtain ⟨hread, -, hfile, -⟩ := disabling_read
  have hfirst := disabledWorld_files.1
  cases hpresents with
  | transition hparse =>
      rw [hread] at hparse
      have hsame := Except.ok.inj hparse
      subst hsame
      have heq := AnchorOf.unique ⟨_, hfile, hfirst⟩ hsigner
      subst heq
      exact ⟨rfl, rfl⟩

theorem disabling_mem : disabling ∈ ReflexRecords.items disabledWorld.dirs .transitions := by
  rw [disabledWorld_files.2.1]
  exact List.mem_singleton_self _

end PhiOS
