import PhiOS.Analysis.ArtifactSearch
import PhiOS.Analysis.ControlCollapse
import PhiOS.Analysis.LeaseDeadlines
import PhiOS.Analysis.RetiredKeys

/-!
# What decides an attestation

`_require_provider_artifact` asks whether the adapter's source digest is attested, and
`evaluate_active` fails closed where it is not. The first stored artifact that passes the tests is
the only one whose signature is checked: where its key is not live, an attested adapter is refused,
and the error, one of a lower plane, is not caught, so that the activation stays active.
-/

set_option autoImplicit false

namespace PhiOS

open Interaction KeyOrder Reflex ReflexTrustLifecyclePlane ReflexRootAttestationPlane

/-- The world with other files of the lower planes. -/
def RootWorld.withReflex (v : ReflexWorld) (w : RootWorld) : RootWorld := { w with reflex := v }

/-- The operations as they go when nothing fails. -/
def RootOp.perform (digest : ReflexWorld → ControlFile → String) (w : RootWorld) :
    (o : RootOp) → o.Reply × RootWorld
  | .lower o => ((o.perform digest w.reflex).1, w.withReflex (o.perform digest w.reflex).2)
  | .load d file => (.ok ((w.dirs d).get? file), w)
  | .list d => (.ok ((w.dirs d).entries.map (·.2)), w)
  | .exists d file => (.ok ((w.dirs d).get? file).isSome, w)
  | .store d file item => (.ok (), w.store d file item)

/-- The records of a directory, in the order of their file names. -/
def RootWorld.items (w : RootWorld) (d : RootDir) : List d.Item := (w.dirs d).entries.map (·.2)

namespace RootWorld

variable (w : RootWorld) (adapter : ReflexAdapter) (epoch : ℕ)

/-- The artifact matches an effective manifest of the adapter, the adapter's source digest and the
epoch. -/
structure Matches (artifact : ReflexProviderArtifactAttestation) : Prop where
  manifest : ∃ manifest ∈ ReflexRecords.items w.reflex.dirs .manifests,
    manifest.adapterId = adapter.adapterId ∧ manifest.adapterVersion = adapter.adapterVersion ∧
      manifest.effectiveEpoch ≤ epoch ∧ (∀ last ∈ manifest.validUntilEpoch, epoch < last) ∧
      artifact.providerManifestSha256 = manifest.envelopeSha256
  adapterId : artifact.adapterId = adapter.adapterId
  adapterVersion : artifact.adapterVersion = adapter.adapterVersion
  source : artifact.adapterSourceSha256 = adapter.adapterSourceSha256
  effective : artifact.effectiveEpoch ≤ epoch
  lasting : ∀ last ∈ artifact.validUntilEpoch, epoch < last

/-- The artifact is signed by a live allowed key. -/
def Signed (rt : ReflexRuntime) (artifact : ReflexProviderArtifactAttestation) : Prop :=
  SignedByLiveKey rt w.reflex.dirs artifact.issuerId artifact.keyId .providerArtifact
    artifact.signingPayload artifact.signatureB64 epoch

/-- Some stored artifact matches and is signed by a live allowed key. -/
def Attested (rt : ReflexRuntime) : Prop :=
  ∃ artifact ∈ w.items .providerArtifacts, w.Matches adapter epoch artifact ∧
    w.Signed epoch rt artifact

/-- The stored artifacts that match, in the order of their file names. -/
def candidates : List ReflexProviderArtifactAttestation :=
  (w.items .providerArtifacts).filter (ReflexRootAttestationPlane.artifactMatches adapter epoch
    (ReflexRootAttestationPlane.activeManifestShas adapter epoch
      (ReflexRecords.items w.reflex.dirs .manifests)))

/-- Every stored manifest, transition and artifact passes the check that its ingest makes. -/
structure Checked (rt : ReflexRuntime) : Prop where
  manifests : ∀ manifest ∈ ReflexRecords.items w.reflex.dirs .manifests,
    validateProviderManifestShape rt manifest = .ok ()
  transitions : TransitionsChecked rt w.reflex.dirs
  artifacts : ∀ artifact ∈ w.items .providerArtifacts, validateProviderArtifact rt artifact = .ok ()

end RootWorld

namespace ReflexRootAttestationPlane

variable {rt : ReflexRuntime} {w w' : RootWorld} {digest : ReflexWorld → ControlFile → String}
  {adapter : ReflexAdapter} {epoch : ℕ} {rootPin : Option ReflexRootPin} {input : ReflexInput}

theorem run_lower {α : Type} (p : ReflexProg α) :
    p.lower.run (RootOp.perform digest) w = ((p.run (ReflexOp.perform digest) w.reflex).1,
      w.withReflex (p.run (ReflexOp.perform digest) w.reflex).2) := by
  unfold ReflexProg.lower
  have hget : ∀ (v : ReflexWorld) (w : RootWorld), (w.withReflex v).reflex = v := fun _ _ => rfl
  have hput : ∀ (v v' : ReflexWorld) (w : RootWorld), (w.withReflex v').withReflex v =
      w.withReflex v := fun _ _ _ => rfl
  have hreply : ∀ (w : RootWorld) (o : ReflexOp), (RootOp.perform digest w (.lower o)).1 =
      (o.perform digest w.reflex).1 := fun _ _ => rfl
  have hworld : ∀ (w : RootWorld) (o : ReflexOp), (RootOp.perform digest w (.lower o)).2 =
      w.withReflex (o.perform digest w.reflex).2 := fun _ _ => rfl
  exact Prog.run_hoist (fun _ => rfl) hget hput hreply hworld p w

theorem run_lower_same {α : Type} {p : ReflexProg α} {x : Except PyError α}
    (h : p.run (ReflexOp.perform digest) w.reflex = (x, w.reflex)) :
    p.lower.run (RootOp.perform digest) w = (x, w) := by
  rw [run_lower, h]
  rfl

/-! ## Candidates -/

/-- The tests of the search ask for a match. -/
theorem artifactMatches_iff {artifact : ReflexProviderArtifactAttestation} :
    artifactMatches adapter epoch (activeManifestShas adapter epoch
      (ReflexRecords.items w.reflex.dirs .manifests)) artifact = true ↔
        w.Matches adapter epoch artifact := by
  have hlasting : ∀ last : Option ℕ, (¬ last.any (· ≤ epoch) = true) ↔ ∀ n ∈ last, epoch < n := by
    intro last
    cases last <;> simp
  have hmanifest : artifact.providerManifestSha256 ∈ activeManifestShas adapter epoch
      (ReflexRecords.items w.reflex.dirs .manifests) ↔
      ∃ manifest ∈ ReflexRecords.items w.reflex.dirs .manifests,
        manifest.adapterId = adapter.adapterId ∧ manifest.adapterVersion = adapter.adapterVersion ∧
          manifest.effectiveEpoch ≤ epoch ∧ (∀ last ∈ manifest.validUntilEpoch, epoch < last) ∧
          artifact.providerManifestSha256 = manifest.envelopeSha256 := by
    unfold activeManifestShas manifestEffective
    simp only [List.mem_map, List.mem_filter, decide_eq_true_eq, hlasting]
    constructor
    · rintro ⟨manifest, ⟨hmem, hid, hversion, heffective, hlast⟩, hsha⟩
      exact ⟨manifest, hmem, hid, hversion, heffective, hlast, hsha.symm⟩
    · rintro ⟨manifest, hmem, hid, hversion, heffective, hlast, hsha⟩
      exact ⟨manifest, ⟨hmem, hid, hversion, heffective, hlast⟩, hsha.symm⟩
  unfold artifactMatches
  simp only [decide_eq_true_eq, hmanifest, hlasting]
  constructor
  · rintro ⟨h, hid, hversion, hsource, heffective, hlast⟩
    exact ⟨h, hid, hversion, hsource, heffective, hlast⟩
  · rintro ⟨h, hid, hversion, hsource, heffective, hlast⟩
    exact ⟨h, hid, hversion, hsource, heffective, hlast⟩

theorem attested_iff : w.Attested adapter epoch rt ↔
    ∃ artifact ∈ w.candidates adapter epoch, w.Signed epoch rt artifact := by
  unfold RootWorld.Attested RootWorld.candidates
  simp only [List.mem_filter, artifactMatches_iff, and_assoc]

/-! ## The search -/

/-- What `_require_live_signer` and `verify_signed_payload` give for an artifact. -/
def artifactSignedIn (rt : ReflexRuntime) (D : ReflexRecords) (epoch : ℕ)
    (artifact : ReflexProviderArtifactAttestation) : Except PyError Unit :=
  signedByIn rt D artifact.issuerId artifact.keyId .providerArtifact artifact.signingPayload
    artifact.signatureB64 epoch

/-- What the search gives where this is the first artifact that passes the tests. -/
def searchResult (rt : ReflexRuntime) (D : ReflexRecords) (epoch : ℕ) :
    Option ReflexProviderArtifactAttestation → Except PyError ReflexProviderArtifactAttestation
  | none => .error (reflexRootErr
      "no effective authenticated provider-artifact digest matches installed adapter")
  | some artifact => (artifactSignedIn rt D epoch artifact).map fun _ => artifact

theorem searchResult_some (rt : ReflexRuntime) (D : ReflexRecords) (epoch : ℕ)
    (artifact : ReflexProviderArtifactAttestation) : searchResult rt D epoch (some artifact) =
      (artifactSignedIn rt D epoch artifact).map fun _ => artifact := rfl

/-- The first artifact that passes the tests decides the search. -/
theorem run_firstArtifact (htransitions : TransitionsChecked rt w.reflex.dirs)
    (covers : ReflexProviderArtifactAttestation → Bool)
    (items : List ReflexProviderArtifactAttestation) :
    (firstArtifact rt epoch covers items).run (RootOp.perform digest) w =
      (searchResult rt w.reflex.dirs epoch (items.filter covers).head?, w) := by
  induction items with
  | nil => rfl
  | cons artifact items ih =>
      unfold firstArtifact
      by_cases hcovers : covers artifact = true
      · rw [if_pos hcovers, List.filter_cons_of_pos hcovers]
        have hsigned : (requireSignedBy rt artifact.issuerId artifact.keyId .providerArtifact
            artifact.signingPayload artifact.signatureB64 epoch).lower.run (RootOp.perform digest) w =
              (artifactSignedIn rt w.reflex.dirs epoch artifact, w) :=
          run_lower_same (run_requireSignedBy htransitions)
        rw [List.head?_cons, searchResult_some]
        cases hresult : artifactSignedIn rt w.reflex.dirs epoch artifact with
        | error e =>
            rw [hresult] at hsigned
            exact Prog.run_bind_of_error hsigned
        | ok u =>
            rw [hresult] at hsigned
            exact Prog.run_bind_of_ok hsigned
      · rw [if_neg hcovers, List.filter_cons_of_neg hcovers]
        exact ih

/-- The digest that is passed for the adapter's source has the shape of a digest. -/
def DigestShaped (adapter : ReflexAdapter) : Prop :=
  validateSha256 .reflexAuthorityContractError adapter.adapterSourceSha256 "adapter_source_sha256" =
    .ok ()

/-- What `_require_provider_artifact` gives on checked records. -/
theorem run_requireProviderArtifact (hchecked : w.Checked rt) (hshaped : DigestShaped adapter) :
    (requireProviderArtifact rt adapter epoch).run (RootOp.perform digest) w =
      (searchResult rt w.reflex.dirs epoch (w.candidates adapter epoch).head?, w) := by
  have hmanifests : (ReflexAuthorityPlane.readTyped .manifests (validateProviderManifestShape rt)).lower.run
      (RootOp.perform digest) w = (.ok (ReflexRecords.items w.reflex.dirs .manifests), w) :=
    run_lower_same (run_readTyped hchecked.manifests)
  have hartifacts : (readTypedDir .providerArtifacts (validateProviderArtifact rt)).run
      (RootOp.perform digest) w = (.ok (w.items .providerArtifacts), w) := by
    have hlist : (RootProg.list .providerArtifacts).run (RootOp.perform digest) w =
        (.ok (w.items .providerArtifacts), w) := rfl
    have hvalid : (w.items .providerArtifacts).forM (validateProviderArtifact rt) = .ok () :=
      forM_eq_ok.mpr hchecked.artifacts
    unfold readTypedDir
    apply (Prog.run_bind_of_ok hlist).trans
    rw [hvalid]
    rfl
  unfold requireProviderArtifact
  rw [hshaped]
  apply (Prog.run_bind_of_ok hmanifests).trans
  apply (Prog.run_bind_of_ok hartifacts).trans
  exact run_firstArtifact hchecked.transitions _ _

theorem run_requireProviderArtifact_of_unshaped (hshaped : ¬ DigestShaped adapter) :
    ∃ e : PyError, e.Lower ∧
      (requireProviderArtifact rt adapter epoch).run (RootOp.perform digest) w = (.error e, w) := by
  unfold requireProviderArtifact
  cases hresult : validateSha256 .reflexAuthorityContractError adapter.adapterSourceSha256
      "adapter_source_sha256" with
  | ok u => exact absurd hresult hshaped
  | error e =>
      exact ⟨e, (raisesOnly_validateSha256 _ _ _).lower (by decide) hresult, rfl⟩

/-- Where the search ends: its result is the first candidate, if that is signed. -/
theorem searchResult_isOk :
    (∃ artifact, searchResult rt w.reflex.dirs epoch (w.candidates adapter epoch).head? =
      .ok artifact) ↔ ∃ first, (w.candidates adapter epoch).head? = some first ∧
        w.Signed epoch rt first := by
  have hsigned : ∀ artifact : ReflexProviderArtifactAttestation,
      artifactSignedIn rt w.reflex.dirs epoch artifact = .ok () ↔ w.Signed epoch rt artifact :=
    fun _ => signedByIn_eq_ok
  constructor
  · rintro ⟨artifact, h⟩
    cases hfirst : (w.candidates adapter epoch).head? with
    | none =>
        rw [hfirst] at h
        cases h
    | some first =>
        rw [hfirst] at h
        refine ⟨first, rfl, (hsigned first).mp ?_⟩
        rw [searchResult_some] at h
        cases hresult : artifactSignedIn rt w.reflex.dirs epoch first with
        | ok u => rfl
        | error e =>
            rw [hresult] at h
            cases h
  · rintro ⟨first, hfirst, h⟩
    refine ⟨first, ?_⟩
    rw [hfirst]
    rw [searchResult_some, (hsigned first).mpr h]
    rfl

theorem searchResult_of_unsigned {first : ReflexProviderArtifactAttestation}
    (h : ¬ w.Signed epoch rt first) :
    ∃ e : PyError, e.Lower ∧ searchResult rt w.reflex.dirs epoch (some first) = .error e := by
  rw [searchResult_some]
  cases hresult : artifactSignedIn rt w.reflex.dirs epoch first with
  | ok u => exact absurd (signedByIn_eq_ok.mp hresult) h
  | error e => exact ⟨e, lower_of_signedByIn hresult, rfl⟩

/-- The search succeeds where the digest has its shape and the first candidate is
signed. -/
theorem succeeds_iff (hchecked : w.Checked rt) :
    (∃ artifact w', (requireProviderArtifact rt adapter epoch).run (RootOp.perform digest) w =
      (.ok artifact, w')) ↔ DigestShaped adapter ∧
        ∃ first, (w.candidates adapter epoch).head? = some first ∧ w.Signed epoch rt first := by
  by_cases hshaped : DigestShaped adapter
  · rw [run_requireProviderArtifact hchecked hshaped, ← searchResult_isOk]
    constructor
    · rintro ⟨artifact, w', hrun⟩
      exact ⟨hshaped, artifact, congrArg Prod.fst hrun⟩
    · rintro ⟨-, artifact, hresult⟩
      exact ⟨artifact, w, by rw [hresult]⟩
  · obtain ⟨e, -, hrun⟩ := @run_requireProviderArtifact_of_unshaped rt w digest adapter epoch hshaped
    rw [hrun]
    constructor
    · rintro ⟨artifact, w', hok⟩
      cases hok
    · exact fun h => absurd h.1 hshaped

/-! ## The root pin -/

/-- The external root pin is configured and names the digest of the stored anchor. -/
def PinMatches (rt : ReflexRuntime) (rootPin : Option ReflexRootPin) (w : RootWorld) : Prop :=
  ∃ pin anchor, rootPin = some pin ∧ AnchorOf w.reflex.dirs pin.issuerId pin.keyId anchor ∧
    validateTrustAnchor rt anchor = .ok () ∧ anchor.anchorSha256 = pin.anchorSha256

/-- The status of the root pin where nothing fails.
SOURCE: reflex/root_attestation.py:585-603 -/
theorem run_rootPinStatus : ∃ ok reason, (rootPinStatus rt rootPin).run (RootOp.perform digest) w =
    (.ok (ok, reason), w) ∧ (ok = true ↔ PinMatches rt rootPin w) := by
  cases rootPin with
  | none =>
      refine ⟨false, _, rfl, ?_⟩
      simp [PinMatches]
  | some pin =>
      have hmatches : PinMatches rt (some pin) w ↔
          ∃ anchor, anchorIn rt w.reflex.dirs pin.issuerId pin.keyId = .ok anchor ∧
            anchor.anchorSha256 = pin.anchorSha256 := by
        unfold PinMatches
        simp only [anchorIn_eq_ok]
        constructor
        · rintro ⟨_, anchor, ⟨⟩, hstored, hvalid, hsha⟩
          exact ⟨anchor, ⟨hstored, hvalid⟩, hsha⟩
        · rintro ⟨anchor, ⟨hstored, hvalid⟩, hsha⟩
          exact ⟨pin, anchor, rfl, hstored, hvalid, hsha⟩
      rw [hmatches]
      unfold rootPinStatus
      dsimp only
      rw [run_lower, run_onAuthorityError_anchor]
      cases hanchor : anchorIn rt w.reflex.dirs pin.issuerId pin.keyId with
      | error e =>
          refine ⟨false, _, rfl, ?_⟩
          simp
      | ok anchor =>
          by_cases hsha : anchor.anchorSha256 = pin.anchorSha256
          · refine ⟨true, "exact external root pin matched", ?_, ?_⟩
            · dsimp only
              rw [if_neg (not_not_intro hsha)]
              rfl
            · simp [hsha]
          · refine ⟨false, "pinned trust-anchor digest mismatch", ?_, ?_⟩
            · dsimp only
              rw [if_pos hsha]
              rfl
            · simp [hsha]

theorem run_requireRootPin (h : PinMatches rt rootPin w) :
    (requireRootPin rt rootPin).run (RootOp.perform digest) w = (.ok (), w) := by
  obtain ⟨ok, reason, hrun, hok⟩ := @run_rootPinStatus rt w digest rootPin
  unfold requireRootPin
  apply (Prog.run_bind_of_ok hrun).trans
  rw [hok.mpr h]
  rfl

theorem run_requireRootPin_of_mismatch (h : ¬ PinMatches rt rootPin w) :
    ∃ e : PyError, e.cls = .reflexRootAttestationContractError ∧
      (requireRootPin rt rootPin).run (RootOp.perform digest) w = (.error e, w) := by
  obtain ⟨ok, reason, hrun, hok⟩ := @run_rootPinStatus rt w digest rootPin
  refine ⟨reflexRootErr reason, rfl, ?_⟩
  unfold requireRootPin
  apply (Prog.run_bind_of_ok hrun).trans
  cases ok with
  | true => exact absurd (hok.mp rfl) h
  | false => rfl

/-! ## Evaluation -/

theorem run_evaluateActive_of_root {e : PyError}
    (h : (requireAttested rt rootPin adapter epoch).run (RootOp.perform digest) w = (.error e, w))
    (hroot : e.cls = .reflexRootAttestationContractError) :
    (evaluateActive rt rootPin input adapter epoch).run (RootOp.perform digest) w =
      (failClosed rt epoch).run (RootOp.perform digest) w := by
  unfold evaluateActive
  rw [Prog.run_bind, Prog.run_attempt, h]
  dsimp only
  rw [if_pos hroot]

theorem run_evaluateActive_of_lower {e : PyError}
    (h : (requireAttested rt rootPin adapter epoch).run (RootOp.perform digest) w = (.error e, w))
    (hlower : e.Lower) :
    (evaluateActive rt rootPin input adapter epoch).run (RootOp.perform digest) w =
      (.error e, w) := by
  unfold evaluateActive
  rw [Prog.run_bind, Prog.run_attempt, h]
  dsimp only
  rw [if_neg hlower]
  rfl

/-- The evaluation returns no signal and leaves no activation active. -/
def FailsClosed (digest : ReflexWorld → ControlFile → String)
    (p : RootProg (Option ReflexRoutingInfluenceSignal × RootEvaluation)) (w : RootWorld) : Prop :=
  ∃ outcome w', p.run (RootOp.perform digest) w = (.ok (none, outcome), w') ∧ w'.reflex.Collapsed

/-- The handler fails closed where the control plane can take back what is active. -/
theorem failsClosed_iff (hrt : rt.LawfulDigest) :
    FailsClosed digest (failClosed rt epoch) w ↔ w.reflex.Collapsible rt epoch := by
  have hreason : strip "v0_10_root_or_provider_artifact_invalid" ≠ "" := by decide +kernel
  rcases @collapseIfActive_cases rt w.reflex epoch digest _ hrt hreason with
    ⟨hcollapsible, result, w₁, hrun, hcollapsed⟩ | ⟨hnot, e, w₁, hrun⟩
  · have hlower : (collapseIfActive rt "v0_10_root_or_provider_artifact_invalid" epoch).lower.run
        (RootOp.perform digest) w = (.ok result, w.withReflex w₁) := by
      rw [run_lower, hrun]
    refine iff_of_true ?_ hcollapsible
    unfold FailsClosed failClosed
    cases result with
    | none => exact ⟨.inactive, _, Prog.run_bind_of_ok hlower, hcollapsed⟩
    | some deactivation => exact ⟨.collapsed deactivation, _, Prog.run_bind_of_ok hlower, hcollapsed⟩
  · have hlower : (collapseIfActive rt "v0_10_root_or_provider_artifact_invalid" epoch).lower.run
        (RootOp.perform digest) w = (.error e, w.withReflex w₁) := by
      rw [run_lower, hrun]
    refine iff_of_false ?_ hnot
    rintro ⟨outcome, w', hclosed, -⟩
    unfold failClosed at hclosed
    rw [Prog.bind_eq, Prog.run_bind_of_error hlower] at hclosed
    cases hclosed

/-- Where no candidate is signed, the evaluation fails closed if the error is one of the
plane itself: the root pin does not match, or there is no candidate. -/
theorem evaluateActive_failsClosed_iff (hrt : rt.LawfulDigest) (hchecked : w.Checked rt)
    (hunsigned : ¬ w.Attested adapter epoch rt) :
    FailsClosed digest (evaluateActive rt rootPin input adapter epoch) w ↔
      (¬ PinMatches rt rootPin w ∨ DigestShaped adapter ∧ w.candidates adapter epoch = []) ∧
        w.reflex.Collapsible rt epoch := by
  have hclosed : ∀ e : PyError, e.cls = .reflexRootAttestationContractError →
      (requireAttested rt rootPin adapter epoch).run (RootOp.perform digest) w = (.error e, w) →
        (FailsClosed digest (evaluateActive rt rootPin input adapter epoch) w ↔
          w.reflex.Collapsible rt epoch) := by
    intro e hroot hrun
    rw [← failsClosed_iff hrt]
    unfold FailsClosed
    rw [run_evaluateActive_of_root hrun hroot]
  have hraised : ∀ e : PyError, e.Lower →
      (requireAttested rt rootPin adapter epoch).run (RootOp.perform digest) w = (.error e, w) →
        ¬ FailsClosed digest (evaluateActive rt rootPin input adapter epoch) w := by
    rintro e hlower hrun ⟨outcome, w', hok, -⟩
    rw [run_evaluateActive_of_lower hrun hlower] at hok
    cases hok
  by_cases hpin : PinMatches rt rootPin w
  · have hpassed : ∀ e : PyError, (requireProviderArtifact rt adapter epoch).run
        (RootOp.perform digest) w = (.error e, w) →
          (requireAttested rt rootPin adapter epoch).run (RootOp.perform digest) w =
            (.error e, w) := by
      intro e hrun
      unfold requireAttested
      apply (Prog.run_bind_of_ok (run_requireRootPin hpin)).trans
      exact Prog.run_bind_of_error hrun
    by_cases hshaped : DigestShaped adapter
    · have hsearch := @run_requireProviderArtifact rt w digest adapter epoch hchecked hshaped
      cases hcandidates : w.candidates adapter epoch with
      | nil =>
          rw [hcandidates] at hsearch
          rw [hclosed _ rfl (hpassed _ hsearch)]
          simp [hshaped]
      | cons first rest =>
          have hfirst : ¬ w.Signed epoch rt first := by
            intro hsigned
            apply hunsigned
            rw [attested_iff, hcandidates]
            exact ⟨first, List.mem_cons_self, hsigned⟩
          obtain ⟨e, hlower, hresult⟩ := searchResult_of_unsigned hfirst
          rw [hcandidates, List.head?_cons, hresult] at hsearch
          apply iff_of_false (hraised e hlower (hpassed e hsearch))
          simp [hpin]
    · obtain ⟨e, hlower, hrun⟩ :=
        @run_requireProviderArtifact_of_unshaped rt w digest adapter epoch hshaped
      apply iff_of_false (hraised e hlower (hpassed e hrun))
      simp [hpin, hshaped]
  · obtain ⟨e, hroot, hrun⟩ := @run_requireRootPin_of_mismatch rt w digest rootPin hpin
    have hfirst : (requireAttested rt rootPin adapter epoch).run (RootOp.perform digest) w =
        (.error e, w) := by
      unfold requireAttested
      exact Prog.run_bind_of_error hrun
    rw [hclosed e hroot hfirst]
    simp [hpin]

/-! ## The claim -/

/-- Attestation is decided by existence and fails closed: the search succeeds exactly if some stored
artifact matches and is signed by a live allowed key, and otherwise the evaluation returns no signal
and leaves no activation active. -/
structure DecidedByExistence (rt : ReflexRuntime) (digest : ReflexWorld → ControlFile → String)
    (rootPin : Option ReflexRootPin) (input : ReflexInput) (adapter : ReflexAdapter) (epoch : ℕ)
    (w : RootWorld) : Prop where
  succeeds : (∃ artifact w', (requireProviderArtifact rt adapter epoch).run (RootOp.perform digest)
    w = (.ok artifact, w')) ↔ w.Attested adapter epoch rt
  closed : ¬ w.Attested adapter epoch rt →
    FailsClosed digest (evaluateActive rt rootPin input adapter epoch) w

/-- The first stored artifact that matches, if there is one, is signed by a live allowed key, and
the digest that is asked for has the shape of a digest; or none that matches is so signed, and the
root pin is refused before the search. Where none is so signed, the control plane can take back what
is active. -/
def FirstDecides (rt : ReflexRuntime) (rootPin : Option ReflexRootPin) (adapter : ReflexAdapter)
    (epoch : ℕ) (w : RootWorld) : Prop :=
  (DigestShaped adapter ∧ (∀ first, (w.candidates adapter epoch).head? = some first →
      w.Signed epoch rt first) ∨
    ¬ PinMatches rt rootPin w ∧ ¬ w.Attested adapter epoch rt) ∧
  (¬ w.Attested adapter epoch rt → w.reflex.Collapsible rt epoch)

/-- MAIN: **the first match decides.** On checked records, an attestation is decided by existence and
fails closed if and only if the first stored artifact that matches, if there is one, is signed by a
live allowed key (or none is and the root pin is refused before the search), and the control plane
can take back what is active. SOURCE: root_attestation.py:473-509, 605-657; lifecycle.py:768-772 -/
theorem decidedByExistence_iff (hrt : rt.LawfulDigest) (hchecked : w.Checked rt) :
    DecidedByExistence rt digest rootPin input adapter epoch w ↔
      FirstDecides rt rootPin adapter epoch w := by
  have hclosed := @evaluateActive_failsClosed_iff rt w digest adapter epoch rootPin input hrt hchecked
  by_cases hattested : w.Attested adapter epoch rt
  · have hcandidate : w.candidates adapter epoch ≠ [] := by
      intro hnone
      rw [attested_iff, hnone] at hattested
      obtain ⟨artifact, hmem, -⟩ := hattested
      cases hmem
    obtain ⟨first, rest, hcandidates⟩ := List.exists_cons_of_ne_nil hcandidate
    constructor
    · intro h
      obtain ⟨hshaped, hfirst⟩ := (succeeds_iff hchecked).mp (h.succeeds.mpr hattested)
      refine ⟨Or.inl ⟨hshaped, ?_⟩, fun hnot => absurd hattested hnot⟩
      intro artifact hhead
      obtain ⟨found, hfound, hsigned⟩ := hfirst
      rw [hhead] at hfound
      cases hfound
      exact hsigned
    · rintro ⟨hdecides, -⟩
      rcases hdecides with ⟨hshaped, hfirst⟩ | ⟨-, hnot⟩
      · have hhead : (w.candidates adapter epoch).head? = some first := by rw [hcandidates]; rfl
        refine ⟨iff_of_true ?_ hattested, fun hnot => absurd hattested hnot⟩
        exact (succeeds_iff hchecked).mpr ⟨hshaped, first, hhead, hfirst first hhead⟩
      · exact absurd hattested hnot
  · have hfails : ¬ ∃ artifact w', (requireProviderArtifact rt adapter epoch).run
        (RootOp.perform digest) w = (.ok artifact, w') := by
      intro hsucceeds
      obtain ⟨-, first, hhead, hsigned⟩ := (succeeds_iff hchecked).mp hsucceeds
      exact hattested (attested_iff.mpr ⟨first, List.mem_of_mem_head? hhead, hsigned⟩)
    have hnone : (∀ first, (w.candidates adapter epoch).head? = some first →
        w.Signed epoch rt first) ↔ w.candidates adapter epoch = [] := by
      constructor
      · intro hfirst
        cases hcandidates : w.candidates adapter epoch with
        | nil => rfl
        | cons first rest =>
            have hsigned := hfirst first (by rw [hcandidates]; rfl)
            rw [attested_iff, hcandidates] at hattested
            exact absurd ⟨first, List.mem_cons_self, hsigned⟩ hattested
      · intro hempty first hhead
        rw [hempty] at hhead
        cases hhead
    constructor
    · intro h
      obtain ⟨hwhere, hcollapsible⟩ := (hclosed hattested).mp (h.closed hattested)
      refine ⟨?_, fun _ => hcollapsible⟩
      rcases hwhere with hpin | ⟨hshaped, hempty⟩
      · exact Or.inr ⟨hpin, hattested⟩
      · exact Or.inl ⟨hshaped, hnone.mpr hempty⟩
    · rintro ⟨hdecides, hcollapsible⟩
      refine ⟨iff_of_false hfails hattested, fun _ => (hclosed hattested).mpr ⟨?_, hcollapsible hattested⟩⟩
      rcases hdecides with ⟨hshaped, hfirst⟩ | ⟨hpin, -⟩
      · exact Or.inr ⟨hshaped, hnone.mp hfirst⟩
      · exact Or.inl hpin

/-! ### An artifact under a retired key -/

/-- An artifact of the adapter `x` in version `1`, signed by a key of the issuer `a`. -/
def sourceArtifact (attestationId keyId : String) : ReflexProviderArtifactAttestation where
  attestationId := attestationId
  issuerId := "a"
  keyId := keyId
  providerManifestSha256 := commonSha256
  adapterId := "x"
  adapterVersion := "1"
  adapterSourceSha256 := commonSha256
  issuedAtEpoch := 0
  effectiveEpoch := 0
  validUntilEpoch := none
  signatureB64 := zeroSignatureB64
  envelopeSha256 := commonSha256

/-- The manifest of that adapter, signed by `k2`. -/
def adapterManifest : ReflexProviderManifest where
  manifestId := "m1"
  issuerId := "a"
  keyId := "k2"
  provider := "p"
  models := ["m"]
  adapterId := "x"
  adapterVersion := "1"
  issuedAtEpoch := 0
  effectiveEpoch := 0
  validUntilEpoch := none
  signatureB64 := zeroSignatureB64
  envelopeSha256 := commonSha256

/-- The key of the issuer `a`, for artifacts and transitions. -/
def artifactAnchor (keyId : String) : ReflexAuthorityTrustAnchor :=
  zeroKeyAnchor "a" keyId ["provider_artifact", "trust_transition"]

/-- The router is active; the issuer `a` has the keys `k1`, which is retired, and `k2`. -/
def attestedWorld (artifacts : Dict String ReflexProviderArtifactAttestation) : RootWorld where
  reflex := {
    dirs := fun
      | .trust => (Dict.empty.set "a__k1.json" (artifactAnchor "k1")).set "a__k2.json"
          (artifactAnchor "k2")
      | .transitions => Dict.empty.set "t1.json" disabling
      | .manifests => Dict.empty.set "m1.json" adapterManifest
      | _ => .empty
    control := (grantedWorld (some routerActivation) none).control }
  dirs := fun
    | .providerArtifacts => artifacts
    | _ => .empty

/-- An artifact of the retired key. -/
def retiredArtifact : ReflexProviderArtifactAttestation := sourceArtifact "r1" "k1"

/-- An artifact of the live key. -/
def liveArtifact : ReflexProviderArtifactAttestation := sourceArtifact "r2" "k2"

/-- The retired key's alone. -/
def retiredOnly : RootWorld := attestedWorld (Dict.empty.set "r1.json" retiredArtifact)

/-- The live key's alone. -/
def liveOnly : RootWorld := attestedWorld (Dict.empty.set "r2.json" liveArtifact)

/-- The retired key's, and behind it the live key's. -/
def retiredFirst : RootWorld :=
  attestedWorld ((Dict.empty.set "r1.json" retiredArtifact).set "r2.json" liveArtifact)

/-- The adapter that is asked for. -/
def sourceAdapter : ReflexAdapter := ⟨"x", "1", commonSha256⟩

theorem checked_examples : validateProviderManifestShape zeroKeyRuntime adapterManifest = .ok () ∧
    validateTrustTransitionShape zeroKeyRuntime disabling = .ok () ∧
    validateProviderArtifact zeroKeyRuntime retiredArtifact = .ok () ∧
    validateProviderArtifact zeroKeyRuntime liveArtifact = .ok () ∧
    validateSha256 .reflexAuthorityContractError sourceAdapter.adapterSourceSha256
      "adapter_source_sha256" = .ok () := by
  decide +kernel

theorem listed_examples :
    (retiredFirst.items .providerArtifacts = [retiredArtifact, liveArtifact] ∧
      retiredOnly.items .providerArtifacts = [retiredArtifact] ∧
      liveOnly.items .providerArtifacts = [liveArtifact]) ∧
    retiredFirst.candidates sourceAdapter 5 = [retiredArtifact, liveArtifact] ∧
    retiredOnly.candidates sourceAdapter 5 = [retiredArtifact] ∧
    liveOnly.candidates sourceAdapter 5 = [liveArtifact] := by
  decide +kernel

/-- The live key is allowed to sign artifacts and has signed its own, and the transition
retires the other key only. -/
theorem liveKey_signs : ReflexAuthorityPlane.anchorFile "a" "k2" = .ok "a__k2.json" ∧
    ((Dict.empty.set "a__k1.json" (artifactAnchor "k1")).set "a__k2.json"
      (artifactAnchor "k2")).get? "a__k2.json" = some (artifactAnchor "k2") ∧
    validateTrustAnchor zeroKeyRuntime (artifactAnchor "k2") = .ok () ∧
    (AuthorityPurpose.providerArtifact.value ∈ (artifactAnchor "k2").allowedPurposes ∧
      verifyEd25519 zeroKeyRuntime (artifactAnchor "k2").publicKeyB64 liveArtifact.signingPayload
        liveArtifact.signatureB64 = .ok ()) ∧
    retires "a" "k1" 5 disabling = true ∧ retires "a" "k2" 5 disabling = false := by
  decide +kernel

section Examples

variable {artifacts : Dict String ReflexProviderArtifactAttestation}

theorem attestedWorld_transitions :
    ReflexRecords.items (attestedWorld artifacts).reflex.dirs .transitions = [disabling] := rfl

/-- The records pass their checks. -/
theorem attestedWorld_checked
    (hartifacts : ∀ artifact ∈ (attestedWorld artifacts).items .providerArtifacts,
      artifact = retiredArtifact ∨ artifact = liveArtifact) :
    (attestedWorld artifacts).Checked zeroKeyRuntime where
  manifests := by
    have hitems : ReflexRecords.items (attestedWorld artifacts).reflex.dirs .manifests =
        [adapterManifest] := rfl
    intro manifest hmem
    rw [hitems] at hmem
    rw [List.mem_singleton.mp hmem]
    exact checked_examples.1
  transitions := by
    intro transition hmem
    rw [attestedWorld_transitions] at hmem
    rw [List.mem_singleton.mp hmem]
    exact checked_examples.2.1
  artifacts := by
    intro artifact hmem
    rcases hartifacts artifact hmem with rfl | rfl
    · exact checked_examples.2.2.1
    · exact checked_examples.2.2.2.1

theorem liveArtifact_signed : (attestedWorld artifacts).Signed 5 zeroKeyRuntime liveArtifact := by
  obtain ⟨hfile, hanchor, hvalid, hverifies, -, hkept⟩ := liveKey_signs
  refine ⟨⟨artifactAnchor "k2", ⟨"a__k2.json", hfile, hanchor⟩, hvalid, hverifies⟩, ?_⟩
  intro transition hmem
  rw [attestedWorld_transitions] at hmem
  rw [List.mem_singleton.mp hmem]
  exact hkept

theorem retiredArtifact_unsigned :
    ¬ (attestedWorld artifacts).Signed 5 zeroKeyRuntime retiredArtifact := by
  rintro ⟨-, hnotRetired⟩
  have hmem : disabling ∈ ReflexRecords.items (attestedWorld artifacts).reflex.dirs .transitions := by
    rw [attestedWorld_transitions]
    exact List.mem_singleton_self _
  have hfalse := hnotRetired disabling hmem
  obtain ⟨-, -, -, -, htrue, -⟩ := liveKey_signs
  exact absurd (htrue.symm.trans hfalse) (by decide)

theorem attestedWorld_pin :
    PinMatches zeroKeyRuntime (some ⟨"a", "k2", commonSha256⟩) (attestedWorld artifacts) := by
  obtain ⟨hfile, hanchor, hvalid, -⟩ := liveKey_signs
  exact ⟨_, artifactAnchor "k2", rfl, ⟨"a__k2.json", hfile, hanchor⟩, hvalid, rfl⟩

end Examples

theorem sourceAdapter_shaped : DigestShaped sourceAdapter := checked_examples.2.2.2.2

theorem retiredFirst_checked : retiredFirst.Checked zeroKeyRuntime := by
  apply attestedWorld_checked
  show ∀ artifact ∈ retiredFirst.items .providerArtifacts, _
  rw [listed_examples.1.1]
  simp

theorem retiredOnly_checked : retiredOnly.Checked zeroKeyRuntime := by
  apply attestedWorld_checked
  show ∀ artifact ∈ retiredOnly.items .providerArtifacts, _
  rw [listed_examples.1.2.1]
  simp

theorem liveOnly_checked : liveOnly.Checked zeroKeyRuntime := by
  apply attestedWorld_checked
  show ∀ artifact ∈ liveOnly.items .providerArtifacts, _
  rw [listed_examples.1.2.2]
  simp

/-- COUNTEREXAMPLE: An artifact of a retired key hides the live key's artifact behind it; and where it
is the only one, the evaluation raises and the router stays active. -/
theorem retired_artifact_decides :
    ¬ DecidedByExistence zeroKeyRuntime (fun _ _ => "") (some ⟨"a", "k2", commonSha256⟩) ⟨"t", true, true⟩
        sourceAdapter 5 retiredFirst ∧
      ¬ DecidedByExistence zeroKeyRuntime (fun _ _ => "") (some ⟨"a", "k2", commonSha256⟩)
        ⟨"t", true, true⟩ sourceAdapter 5 retiredOnly := by
  constructor
  · intro h
    have hcandidates := listed_examples.2.1
    have hattested : retiredFirst.Attested sourceAdapter 5 zeroKeyRuntime := by
      rw [attested_iff, hcandidates]
      exact ⟨liveArtifact, by simp, liveArtifact_signed⟩
    obtain ⟨-, first, hfirst, hsigned⟩ :=
      (succeeds_iff retiredFirst_checked).mp (h.succeeds.mpr hattested)
    rw [hcandidates] at hfirst
    cases hfirst
    exact retiredArtifact_unsigned hsigned
  · intro h
    have hcandidates := listed_examples.2.2.1
    have hunsigned : ¬ retiredOnly.Attested sourceAdapter 5 zeroKeyRuntime := by
      rw [attested_iff, hcandidates]
      rintro ⟨artifact, hmem, hsigned⟩
      rw [List.mem_singleton.mp hmem] at hsigned
      exact retiredArtifact_unsigned hsigned
    have hclosed := (evaluateActive_failsClosed_iff zeroKeyRuntime_lawfulDigest retiredOnly_checked
      hunsigned).mp (h.closed hunsigned)
    rcases hclosed.1 with hpin | ⟨-, hempty⟩
    · exact hpin attestedWorld_pin
    · rw [hcandidates] at hempty
      cases hempty

/-- WITNESS: With the live key's artifact alone the attestation is decided as it should be. -/
theorem liveOnly_decided : zeroKeyRuntime.LawfulDigest ∧ liveOnly.Checked zeroKeyRuntime ∧
    DecidedByExistence zeroKeyRuntime (fun _ _ => "") (some ⟨"a", "k2", commonSha256⟩) ⟨"t", true, true⟩
      sourceAdapter 5 liveOnly := by
  have hchecked := liveOnly_checked
  have hcandidates := listed_examples.2.2.2
  have hattested : liveOnly.Attested sourceAdapter 5 zeroKeyRuntime := by
    rw [attested_iff, hcandidates]
    exact ⟨liveArtifact, by simp, liveArtifact_signed⟩
  refine ⟨zeroKeyRuntime_lawfulDigest, hchecked,
    (decidedByExistence_iff zeroKeyRuntime_lawfulDigest hchecked).mpr ⟨Or.inl ⟨sourceAdapter_shaped, ?_⟩,
      fun hnot => absurd hattested hnot⟩⟩
  intro first hfirst
  rw [hcandidates] at hfirst
  cases hfirst
  exact liveArtifact_signed

end ReflexRootAttestationPlane

end PhiOS
