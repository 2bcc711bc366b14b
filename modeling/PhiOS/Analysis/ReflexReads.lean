import PhiOS.Analysis.ReflexFootprints
import PhiOS.Model.ReflexCalls

/-!
# What the reflex planes read

`Observes D post p`: started on the records `D`, the program `p` leaves them as they are, and what
it returns satisfies `post`. One lemma for each reading function says what its answer tells about
the records: which anchor is stored under two identifiers, what a signature was verified under,
that no transition retires a key.
-/

set_option autoImplicit false

namespace PhiOS

open Interaction KeyOrder Reflex

/-- The records of a directory, in the order of their file names. -/
def ReflexRecords.items (D : ReflexRecords) (d : ReflexDir) : List d.Item :=
  (D d).entries.map (·.2)

theorem ReflexRecords.mem_items {D : ReflexRecords} {d : ReflexDir} {item : d.Item} :
    item ∈ D.items d ↔ ∃ file, (D d).get? file = some item := by
  constructor
  · intro h
    obtain ⟨entry, hentry, hitem⟩ := List.mem_map.mp h
    subst hitem
    exact ⟨entry.1, Dict.mem_entries_iff.mp hentry⟩
  · rintro ⟨file, hfound⟩
    exact List.mem_map.mpr ⟨(file, item), Dict.mem_entries_iff.mpr hfound, rfl⟩

/-- The anchor stored in the file that two identifiers name. -/
def AnchorOf (D : ReflexRecords) (issuerId keyId : String) (anchor : ReflexAuthorityTrustAnchor) :
    Prop :=
  ∃ file, ReflexAuthorityPlane.anchorFile issuerId keyId = .ok file ∧
    (D .trust).get? file = some anchor

/-- The anchor allows the purpose, and the signature verifies under its key. -/
def Verifies (rt : ReflexRuntime) (anchor : ReflexAuthorityTrustAnchor) (purpose : String)
    (payload : Row) (signatureB64 : String) : Prop :=
  purpose ∈ anchor.allowedPurposes ∧
    verifyEd25519 rt anchor.publicKeyB64 payload signatureB64 = .ok ()

/-- `Observes D post p`: started on the records `D`, `p` leaves them as they are and returns
something that satisfies `post`. -/
def Observes {α : Type} (D : ReflexRecords) (post : α → Prop) (p : ReflexProg α) : Prop :=
  ∀ w : ReflexWorld, w.dirs = D →
    p.Holds ReflexOp.effect (fun w => w.dirs = D) (fun _ a => post a) (fun _ _ => True) w

/-! ## Rules -/

theorem ReflexOp.dirs_of_quiet {w w' : ReflexWorld} {o : ReflexOp} {r : o.Reply} (ho : o.Quiet)
    (heffect : o.effect w r w') : w'.dirs = w.dirs := by
  cases o with
  | store d file item => exact ho.elim
  | load d file => cases r <;> simp_all [ReflexOp.effect]
  | list d => cases r <;> simp_all [ReflexOp.effect]
  | names d => cases r <;> simp_all [ReflexOp.effect]
  | read f => cases r <;> simp_all [ReflexOp.effect]
  | write f item => cases r <;> simp_all [ReflexOp.effect, ReflexWorld.setControl]
  | quarantine f => cases r <;> simp_all [ReflexOp.effect, ReflexWorld.setControl]
  | remove f => cases r <;> simp_all [ReflexOp.effect, ReflexWorld.setControl]
  | evaluate role input => cases r <;> simp_all [ReflexOp.effect]

namespace Observes

variable {α β : Type} {D : ReflexRecords}

theorem of_quiet {p : ReflexProg α} (hp : p.Issues ReflexOp.Quiet) :
    Observes D (fun _ => True) p := by
  intro w hw
  apply hp.holds
  · intro w o r w' ho hkeep heffect
    rw [ReflexOp.dirs_of_quiet ho heffect]
    exact hkeep
  · exact hw

theorem of_calm {p : ReflexProg α} (hp : p.IsCalm) : Observes D (fun _ => True) p :=
  of_quiet (hp.mono ReflexOp.quiet_of_calm)

theorem ret {post : α → Prop} {a : α} (h : post a) :
    Observes D post (.ret a) := fun _ hw => ⟨hw, h⟩

theorem raise {post : α → Prop} (e : PyError) :
    Observes D post (.raise e : ReflexProg α) := fun _ hw => ⟨hw, trivial⟩

theorem ofExcept {post : α → Prop} {x : Except PyError α} (h : ∀ a, x = .ok a → post a) :
    Observes D post (.ofExcept x : ReflexProg α) := by
  cases x with
  | ok a => exact ret (h a rfl)
  | error e => exact raise e

theorem bind {Q : α → Prop} {post : β → Prop} {p : ReflexProg α} {f : α → ReflexProg β}
    (hp : Observes D Q p) (hf : ∀ a, Q a → Observes D post (f a)) :
    Observes D post (p.bind f) :=
  fun w hw => (hp w hw).bind fun w' a hw' ha => hf a ha w' hw'

theorem mono {post post' : α → Prop} {p : ReflexProg α} (h : Observes D post p)
    (hpost : ∀ a, post a → post' a) : Observes D post' p :=
  fun w hw => (h w hw).mono (fun _ hcut => hcut) (fun _ a ha => hpost a ha) fun _ _ _ => trivial

theorem attempt {post : α → Prop} {p : ReflexProg α} (h : Observes D post p) :
    Observes D (fun outcome => ∀ a, outcome = .ok a → post a) p.attempt := by
  intro w hw
  apply Prog.Holds.attempt
  apply (h w hw).mono (fun _ hcut => hcut)
  · intro _ a ha b hb
    cases hb
    exact ha
  · intro _ e _ a ha
    cases ha

theorem call {o : ReflexOp} {f : o.Reply → Except PyError α} {post : α → Prop} (ho : o.Quiet)
    (h : ∀ w r w' a, w.dirs = D → o.effect w r w' → f r = .ok a → post a) :
    Observes D post ((Prog.call o).bind fun r => .ofExcept (f r)) := by
  intro w hw
  refine ⟨hw, fun r w' heffect => ?_⟩
  have hdirs : w'.dirs = D := by rw [ReflexOp.dirs_of_quiet ho heffect, hw]
  exact ofExcept (fun a ha => h w r w' a hw heffect ha) w' hdirs

end Observes

section Rules

variable {α β : Type} {D : ReflexRecords}

theorem observes_load (d : ReflexDir) (file : String) :
    Observes D (fun item => item = (D d).get? file) (ReflexProg.load d file) := by
  apply Observes.call (o := .load d file) (f := fun r => r) trivial
  intro w r w' item hw heffect hr
  subst hw
  cases r with
  | ok found =>
      cases hr
      exact heffect.2
  | error e => cases hr

theorem observes_list (d : ReflexDir) :
    Observes D (fun items => items = D.items d) (ReflexProg.list d) := by
  apply Observes.call (o := .list d) (f := fun r => r) trivial
  intro w r w' items hw heffect hr
  subst hw
  cases r with
  | ok found =>
      cases hr
      exact heffect.2
  | error e => cases hr

theorem observes_onAuthorityError {Q : α → Prop} {post : β → Prop} {p : ReflexProg α}
    {handler : PyError → ReflexProg β} {go : α → ReflexProg β} (hp : Observes D Q p)
    (hhandler : ∀ e, Observes D post (handler e)) (hgo : ∀ a, Q a → Observes D post (go a)) :
    Observes D post (ReflexAuthorityPlane.onAuthorityError p handler go) := by
  apply hp.attempt.bind
  intro outcome hok
  cases outcome with
  | ok a => exact hgo a (hok a rfl)
  | error e =>
      dsimp only
      split
      · exact hhandler e
      · exact .raise e

/-- A reading that observes, inside a larger bound on the records. -/
theorem Observes.holds {post : α → Prop} {p : ReflexProg α} {R : ReflexWorld → Prop}
    {w : ReflexWorld} (h : Observes w.dirs post p) (hR : ∀ w', w'.dirs = w.dirs → R w') :
    p.Holds ReflexOp.effect R (fun w' a => w'.dirs = w.dirs ∧ post a) (fun _ _ => True) w := by
  have hself : p.Holds ReflexOp.effect (fun w' => w'.dirs = w.dirs) (fun w' _ => w'.dirs = w.dirs)
      (fun _ _ => True) w := by
    have hcut := h w rfl
    clear h hR
    generalize hD : w.dirs = D at hcut
    clear hD
    induction p generalizing w with
    | ret a => exact ⟨hcut.1, hcut.1⟩
    | raise e => exact hcut
    | op o k ih => exact ⟨hcut.1, fun r w' heffect => ih r (hcut.2 r w' heffect)⟩
  apply (hself.and (h w rfl)).mono
  · exact fun w' hcut => hR w' hcut.1
  · exact fun _ _ hpost => hpost
  · exact fun _ _ _ => trivial

end Rules

-- What a program observes is found from its parts, not by running it.
attribute [irreducible] Observes

/-! ## Anchors and signatures -/

namespace ReflexAuthorityPlane

variable {rt : ReflexRuntime} {D : ReflexRecords}

theorem verifyUnder_eq_ok {anchor : ReflexAuthorityTrustAnchor}
    {purpose refusal signatureB64 : String} {payload : Row} {u : Unit} :
    verifyUnder rt anchor purpose refusal payload signatureB64 = .ok u ↔
      Verifies rt anchor purpose payload signatureB64 := by
  simp [verifyUnder, Verifies, bind_eq_ok]

theorem requireAnchor_observes (issuerId keyId : String) :
    Observes D (AnchorOf D issuerId keyId) (requireAnchor rt issuerId keyId) := by
  have hfile : Observes D (fun file => anchorFile issuerId keyId = .ok file)
      (.ofExcept (anchorFile issuerId keyId)) := Observes.ofExcept fun _ h => h
  unfold requireAnchor
  apply hfile.bind
  intro file hfile
  apply (observes_load .trust file).bind
  intro anchor hanchor
  cases anchor with
  | none => exact .raise _
  | some anchor =>
      apply (Observes.of_calm (Prog.issues_ofExcept _)).bind
      exact fun _ _ => .ret ⟨file, hfile, hanchor.symm⟩

/-- An accepted payload was signed under the stored anchor, for a purpose it allows. -/
theorem verifySignedPayload_observes (issuerId keyId purpose : String) (payload : Row)
    (signatureB64 : String) :
    Observes D (fun _ => ∃ anchor, AnchorOf D issuerId keyId anchor ∧
        Verifies rt anchor purpose payload signatureB64)
      (verifySignedPayload rt issuerId keyId purpose payload signatureB64) := by
  unfold verifySignedPayload
  apply (Observes.of_calm (Prog.issues_ofExcept _)).bind
  intro _ _
  apply (requireAnchor_observes issuerId keyId).bind
  intro anchor hanchor
  have hverify : Observes D (fun _ => Verifies rt anchor purpose payload signatureB64)
      (.ofExcept (verifyUnder rt anchor purpose
        "trusted key is not allowed for requested authority purpose" payload signatureB64)) :=
    Observes.ofExcept fun _ h => verifyUnder_eq_ok.mp h
  apply hverify.bind
  exact fun _ hverifies => .ret ⟨anchor, hanchor, hverifies⟩

/-- An accepted grant was signed under the stored anchor. -/
theorem verifySignedGrant_observes (envelope : SignedActivationGrantEnvelope) (epoch : ℕ) :
    Observes D (fun _ => ∃ anchor, AnchorOf D envelope.issuerId envelope.keyId anchor ∧
        Verifies rt anchor AuthorityPurpose.activationGrant.value envelope.signingPayload
          envelope.signatureB64)
      (verifySignedGrant rt envelope epoch) := by
  unfold verifySignedGrant
  apply (Observes.of_calm (Prog.issues_ofExcept _)).bind
  intro _ _
  apply (requireAnchor_observes envelope.issuerId envelope.keyId).bind
  intro anchor hanchor
  apply Observes.ofExcept
  intro u h
  obtain ⟨_, hpurpose, h⟩ := bind_eq_ok.mp h
  obtain ⟨_, _, h⟩ := ok_past_two h
  obtain ⟨_, -, hverify⟩ := bind_eq_ok.mp h
  have hallowed := raiseIf_eq_ok.mp hpurpose
  exact ⟨anchor, hanchor, not_not.mp hallowed, hverify⟩

theorem verifyRevocation_observes (revocation : ReflexGrantRevocation) :
    Observes D (fun _ => ∃ anchor, AnchorOf D revocation.issuerId revocation.keyId anchor ∧
        Verifies rt anchor AuthorityPurpose.grantRevocation.value revocation.signingPayload
          revocation.signatureB64)
      (verifyRevocation rt revocation) := by
  unfold verifyRevocation
  apply (Observes.of_calm (Prog.issues_ofExcept _)).bind
  intro _ _
  apply (requireAnchor_observes revocation.issuerId revocation.keyId).bind
  intro anchor hanchor
  exact Observes.ofExcept fun _ h => ⟨anchor, hanchor, verifyUnder_eq_ok.mp h⟩

theorem readTyped_observes (d : ReflexDir) (validator : d.Item → Except PyError Unit) :
    Observes D (fun items => items = D.items d) (readTyped d validator) := by
  apply (observes_list d).bind
  intro items hitems
  apply (Observes.of_calm (Prog.issues_ofExcept _)).bind
  exact fun _ _ => .ret hitems

theorem findSignedGrantBySha_observes (grantSha256 : String) :
    Observes D (fun found => found =
        (D.items .signedGrants).find? fun e => e.grant.grantSha256 rt = grantSha256)
      (findSignedGrantBySha rt grantSha256) := by
  apply (observes_list .signedGrants).bind
  intro envelopes henvelopes
  subst henvelopes
  exact .ret rfl

/-- A grant looked up by its identifier is the record of that file. -/
theorem findSignedGrantById_observes (grantId : String) :
    Observes D (fun found => ∃ name, authorityId grantId = .ok name ∧
        found = (D .signedGrants).get? (name ++ ".json"))
      (findSignedGrantById rt grantId) := by
  have hname : Observes D (fun name => authorityId grantId = .ok name)
      (.ofExcept (authorityId grantId)) := Observes.ofExcept fun _ h => h
  unfold findSignedGrantById
  apply hname.bind
  intro name hname
  apply (observes_load .signedGrants _).bind
  intro found hfound
  cases found with
  | none => exact .ret ⟨name, hname, hfound⟩
  | some envelope =>
      apply (Observes.of_calm (Prog.issues_ofExcept _)).bind
      exact fun _ _ => .ret ⟨name, hname, hfound⟩

end ReflexAuthorityPlane

/-! ## Live keys -/

namespace ReflexTrustLifecyclePlane

variable {rt : ReflexRuntime} {D : ReflexRecords}

/-- No stored transition retires exactly the key of these identifiers. -/
def NotRetired (D : ReflexRecords) (issuerId keyId : String) (epoch : ℕ) : Prop :=
  ∀ transition ∈ D.items .transitions, retires issuerId keyId epoch transition = false

/-- A live key has an anchor, and no transition retires it. -/
theorem keyIsLive_observes (issuerId keyId : String) (epoch : ℕ) :
    Observes D (fun live => live = true →
        (∃ anchor, AnchorOf D issuerId keyId anchor) ∧ NotRetired D issuerId keyId epoch)
      (keyIsLive rt issuerId keyId epoch) := by
  unfold keyIsLive
  apply observes_onAuthorityError (ReflexAuthorityPlane.requireAnchor_observes issuerId keyId)
  · exact fun _ => .ret (by simp)
  · intro anchor hanchor
    apply (ReflexAuthorityPlane.readTyped_observes .transitions _).bind
    intro transitions htransitions
    subst htransitions
    split
    · apply (Observes.of_calm (verifyTransitionSignature_calm rt _)).bind
      exact fun _ _ => .ret (by simp)
    · rename_i hnone
      apply Observes.ret
      intro _
      refine ⟨⟨anchor, hanchor⟩, fun transition hmem => ?_⟩
      have hfalse := List.find?_eq_none.mp hnone transition hmem
      simpa using hfalse

theorem requireLiveSigner_observes (issuerId keyId : String) (epoch : ℕ) :
    Observes D (fun _ => (∃ anchor, AnchorOf D issuerId keyId anchor) ∧
        NotRetired D issuerId keyId epoch)
      (requireLiveSigner rt issuerId keyId epoch) := by
  unfold requireLiveSigner
  apply (keyIsLive_observes issuerId keyId epoch).bind
  intro live hlive
  cases live with
  | true => exact .ret (hlive rfl)
  | false => exact .raise _

/-- A record accepted by the lifecycle plane is signed under a stored anchor whose key no
transition retires. -/
theorem requireSignedBy_observes (issuerId keyId : String) (purpose : AuthorityPurpose)
    (payload : Row) (signatureB64 : String) (epoch : ℕ) :
    Observes D (fun _ => (∃ anchor, AnchorOf D issuerId keyId anchor ∧
        Verifies rt anchor purpose.value payload signatureB64) ∧ NotRetired D issuerId keyId epoch)
      (requireSignedBy rt issuerId keyId purpose payload signatureB64 epoch) := by
  unfold requireSignedBy
  apply (requireLiveSigner_observes issuerId keyId epoch).bind
  intro _ hlive
  apply (ReflexAuthorityPlane.verifySignedPayload_observes issuerId keyId purpose.value payload
    signatureB64).bind
  exact fun _ hverifies => .ret ⟨hverifies, hlive.2⟩

theorem requireGrant_observes (grantSha256 : String) :
    Observes D (fun envelope => (D.items .signedGrants).find?
        (fun e => e.grant.grantSha256 rt = grantSha256) = some envelope)
      (requireGrant rt grantSha256) := by
  unfold requireGrant ReflexAuthorityPlane.findSignedGrantBySha256
  have hfind : Observes D (fun found => found =
      (D.items .signedGrants).find? fun e => e.grant.grantSha256 rt = grantSha256)
      (ReflexAuthorityPlane.findSignedGrantBySha256 rt grantSha256) := by
    apply (Observes.of_calm (Prog.issues_ofExcept _)).bind
    exact fun _ _ => ReflexAuthorityPlane.findSignedGrantBySha_observes grantSha256
  apply hfind.bind
  intro found hfound
  cases found with
  | none => exact .raise _
  | some envelope => exact .ret hfound.symm

theorem requireGrantById_observes (grantId : String) :
    Observes D (fun envelope => ∃ name, authorityId grantId = .ok name ∧
        (D .signedGrants).get? (name ++ ".json") = some envelope)
      (requireGrantById rt grantId) := by
  unfold requireGrantById
  apply (ReflexAuthorityPlane.findSignedGrantById_observes grantId).bind
  rintro found ⟨name, hname, hfound⟩
  cases found with
  | none => exact .raise _
  | some envelope => exact .ret ⟨name, hname, hfound.symm⟩

/-- The manifest that is found covers the adapter, and its signer is live. -/
theorem firstLiveManifest_observes (epoch : ℕ) (covers : ReflexProviderManifest → Bool)
    (manifests : List ReflexProviderManifest) :
    Observes D (fun manifest => manifest ∈ manifests ∧ covers manifest = true ∧
        (∃ anchor, AnchorOf D manifest.issuerId manifest.keyId anchor) ∧
        NotRetired D manifest.issuerId manifest.keyId epoch)
      (firstLiveManifest rt epoch covers manifests) := by
  induction manifests with
  | nil => exact .raise _
  | cons manifest rest ih =>
      have hrest := ih.mono fun found (hfound : found ∈ rest ∧ _) =>
        (⟨List.mem_cons_of_mem manifest hfound.1, hfound.2⟩ :
          found ∈ manifest :: rest ∧ _)
      unfold firstLiveManifest
      split
      · rename_i hcovers
        apply (keyIsLive_observes manifest.issuerId manifest.keyId epoch).bind
        intro live hlive
        cases live with
        | true =>
            apply (Observes.of_calm
              (ReflexAuthorityPlane.verifySignedPayload_calm rt _ _ _ _ _)).bind
            exact fun _ _ => .ret ⟨List.mem_cons_self, hcovers, hlive rfl⟩
        | false => exact hrest
      · exact hrest

theorem requireProviderManifest_observes (envelope : SignedActivationGrantEnvelope)
    (provider : String) (models : List String) (adapterId adapterVersion : String) (epoch : ℕ) :
    Observes D (fun manifest => manifest ∈ D.items .manifests ∧
        NotRetired D manifest.issuerId manifest.keyId epoch)
      (requireProviderManifest rt envelope provider models adapterId adapterVersion epoch) := by
  unfold requireProviderManifest
  apply (ReflexAuthorityPlane.readTyped_observes .manifests _).bind
  intro manifests hmanifests
  subst hmanifests
  apply (firstLiveManifest_observes epoch _ _).mono
  exact fun manifest h => ⟨h.1, h.2.2.2⟩

/-- The use policy that is required is the stored one, signed by a live key. -/
theorem requireUsePolicy_observes (grantSha256 : String) (epoch : ℕ) :
    Observes D (fun policy => (D .usePolicies).get? (grantSha256 ++ ".json") = some policy ∧
        NotRetired D policy.issuerId policy.keyId epoch)
      (requireUsePolicy rt grantSha256 epoch) := by
  unfold requireUsePolicy
  apply (observes_load .usePolicies _).bind
  intro found hfound
  cases found with
  | none => exact .raise _
  | some policy =>
      dsimp only
      apply (Observes.of_calm (Prog.issues_ofExcept _)).bind
      intro _ _
      apply (requireSignedBy_observes policy.issuerId policy.keyId .grantUsePolicy
        policy.signingPayload policy.signatureB64 epoch).bind
      exact fun _ hsigned => .ret ⟨hfound.symm, hsigned.2⟩

end ReflexTrustLifecyclePlane

end PhiOS
