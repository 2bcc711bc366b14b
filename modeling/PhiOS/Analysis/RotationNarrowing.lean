import PhiOS.Analysis.AnchorNames

/-!
# What a rotation may hand on

A rotation installs the anchor that the transition carries, and the shape check asks that anchor for
the issuer and for the purpose of signing transitions only. Where every rotation that is ingested
hands on no more purposes than its signer's anchor has, each stored anchor descends from an
explicitly installed one of the same issuer, with at least its purposes.
-/

set_option autoImplicit false

namespace PhiOS

open Interaction KeyOrder Reflex Relation

/-- A stored rotation, signed under the first anchor, carries the second. -/
def Rotates (rt : ReflexRuntime) (D : ReflexRecords)
    (signer replacement : ReflexAuthorityTrustAnchor) : Prop :=
  ∃ transition ∈ D.items .transitions, SignedTransition rt D transition signer ∧
    transition.action = "ROTATE" ∧ transition.replacementAnchor = some replacement

/-- The anchor is reached by rotations from an explicitly installed one of the same issuer that has
all its purposes. -/
def FromRoot (rt : ReflexRuntime) (S : ReflexAuthorityTrustAnchor → Prop) (D : ReflexRecords)
    (anchor : ReflexAuthorityTrustAnchor) : Prop :=
  ∃ root, S root ∧ root.issuerId = anchor.issuerId ∧
    anchor.allowedPurposes ⊆ root.allowedPurposes ∧ ReflTransGen (Rotates rt D) root anchor

/-- No rotation has widened an authority: the stored anchors descend from installed ones, and what
is accepted for a purpose is accepted under an anchor whose root allows the purpose. -/
structure AuthorityNotWidened (rt : ReflexRuntime) (S : ReflexAuthorityTrustAnchor → Prop)
    (w : ReflexWorld) : Prop where
  anchors : ∀ file anchor, (w.dirs .trust).get? file = some anchor → FromRoot rt S w.dirs anchor
  payloads : ∀ issuerId keyId purpose payload signatureB64,
    Accepts (ReflexAuthorityPlane.verifySignedPayload rt issuerId keyId purpose payload
      signatureB64) w →
    ∃ root anchor, S root ∧ purpose ∈ root.allowedPurposes ∧
      ReflTransGen (Rotates rt w.dirs) root anchor ∧ AnchorOf w.dirs issuerId keyId anchor ∧
      Verifies rt anchor purpose payload signatureB64

/-- Every rotation that the call ingests, signed under a stored anchor, names that anchor's issuer
and hands on purposes of that anchor only. -/
def NarrowRotations (rt : ReflexRuntime) (w : ReflexWorld) (c : ReflexCall) : Prop :=
  ∀ transition signer replacement, c.IngestsTransition rt transition →
    transition.action = "ROTATE" → transition.replacementAnchor = some replacement →
    SignedTransition rt w.dirs transition signer →
    signer.issuerId = transition.issuerId ∧
      replacement.allowedPurposes ⊆ signer.allowedPurposes

section Extends

variable {rt : ReflexRuntime} {S S' : ReflexAuthorityTrustAnchor → Prop} {D D' : ReflexRecords}

theorem Extends.rotates (h : Extends D D') {signer replacement : ReflexAuthorityTrustAnchor}
    (hrotates : Rotates rt D signer replacement) : Rotates rt D' signer replacement := by
  obtain ⟨transition, hmem, ⟨hanchor, hverifies⟩, haction, hreplacement⟩ := hrotates
  exact ⟨transition, h.mem_transitions hmem, ⟨h.anchorOf hanchor, hverifies⟩, haction, hreplacement⟩

theorem FromRoot.extend {anchor : ReflexAuthorityTrustAnchor} (hroot : FromRoot rt S D anchor)
    (h : Extends D D') (hS : ∀ a, S a → S' a) : FromRoot rt S' D' anchor := by
  obtain ⟨root, hinstalled, hissuer, hpurposes, hchain⟩ := hroot
  refine ⟨root, hS root hinstalled, hissuer, hpurposes, ?_⟩
  apply ReflTransGen.mono _ root anchor hchain
  exact fun _ _ hrotates => h.rotates hrotates

end Extends

/-! ## The invariant -/

/-- What holds of the records of a run whose rotations are narrow: a stored rotation hands on the
issuer and some of the purposes of the anchor it is signed under, and every stored anchor has its
root. -/
structure Descends (rt : ReflexRuntime) (S : ReflexAuthorityTrustAnchor → Prop)
    (D : ReflexRecords) : Prop where
  narrow : ∀ transition ∈ D.items .transitions, transition.action = "ROTATE" →
    ∀ replacement, transition.replacementAnchor = some replacement →
    ∃ signer, AnchorOf D transition.issuerId transition.keyId signer ∧
      signer.issuerId = replacement.issuerId ∧
      replacement.allowedPurposes ⊆ signer.allowedPurposes
  rooted : ∀ file anchor, (D .trust).get? file = some anchor → FromRoot rt S D anchor

/-- The anchors that are installed when a call has come from `D₀` to `D`. -/
def Installed (S : ReflexAuthorityTrustAnchor → Prop) (c : ReflexCall) (D₀ D : ReflexRecords)
    (anchor : ReflexAuthorityTrustAnchor) : Prop :=
  S anchor ∨ c.IngestsAnchor ∧ ∃ file, (D₀ .trust).get? file = none ∧
    (D .trust).get? file = some anchor

section Invariant

variable {rt : ReflexRuntime} {S : ReflexAuthorityTrustAnchor → Prop} {c : ReflexCall}
  {D₀ D D' : ReflexRecords}

theorem Installed.extend {anchor : ReflexAuthorityTrustAnchor} (h : Installed S c D₀ D anchor)
    (hext : Extends D D') : Installed S c D₀ D' anchor := by
  rcases h with hold | ⟨hcall, file, habsent, hfound⟩
  · exact Or.inl hold
  · exact Or.inr ⟨hcall, file, habsent, hext.anchors file anchor hfound⟩

theorem issuerId_of_validateReplacement {transition : ReflexTrustTransition}
    {replacement : ReflexAuthorityTrustAnchor} (h : validateReplacement transition = .ok ())
    (haction : transition.action = "ROTATE")
    (hreplacement : transition.replacementAnchor = some replacement) :
    replacement.issuerId = transition.issuerId := by
  unfold validateReplacement at h
  rw [if_pos haction, hreplacement] at h
  obtain ⟨_, hissuer, -⟩ := bind_eq_ok.mp h
  exact not_not.mp (raiseIf_eq_ok.mp hissuer)

/-- Where the transitions come from that are stored after a move. -/
theorem ReflexMove.transition_cases (h : ReflexMove rt c D₀ D D')
    {transition : ReflexTrustTransition} (hmem : transition ∈ D'.items .transitions) :
    transition ∈ D.items .transitions ∨ c.IngestsTransition rt transition ∧
      validateReplacement transition = .ok () ∧
      ∃ signer, SignedTransition rt D₀ transition signer := by
  obtain ⟨file, hfound⟩ := ReflexRecords.mem_items.mp hmem
  have hother : ∀ (d : ReflexDir) (newFile : String) (item : d.Item), d ≠ .transitions →
      (D.store d newFile item .transitions).get? file = some transition →
      transition ∈ D.items .transitions := by
    intro d newFile item hd hnew
    have hold := (get?_store hnew).resolve_right fun hdir => hd hdir.1.symm
    exact ReflexRecords.mem_items.mpr ⟨file, hold⟩
  cases h with
  | @transition new newFile signer hcall hshape hsigned habsent =>
      rcases get?_store hfound with hold | ⟨-, hsame⟩
      · exact Or.inl (ReflexRecords.mem_items.mpr ⟨file, hold⟩)
      · rw [hsame, get?_store_self] at hfound
        have heq := Option.some.inj hfound
        subst heq
        exact Or.inr ⟨hcall, hshape, signer, hsigned⟩
  | install hcall hvalid hfile habsent => exact Or.inl (hother _ _ _ (by decide) hfound)
  | rotate hstored hsigned haction hreplacement hvalid hfile habsent =>
      exact Or.inl (hother _ _ _ (by decide) hfound)
  | signedGrant hcall hsigned => exact Or.inl (hother _ _ _ (by decide) hfound)
  | usePolicy hcall hsigned => exact Or.inl (hother _ _ _ (by decide) hfound)
  | manifest hcall hsigned => exact Or.inl (hother _ _ _ (by decide) hfound)
  | other hdir =>
      refine Or.inl (hother _ _ _ ?_ hfound)
      rintro rfl
      simp at hdir

/-- One move keeps the invariant. -/
theorem Descends.move (h : Descends rt (Installed S c D₀ D) D) (hext₀ : Extends D₀ D)
    (hnarrow : NarrowRotations rt ⟨D₀, fun _ => none⟩ c) (hmove : ReflexMove rt c D₀ D D') :
    Descends rt (Installed S c D₀ D') D' := by
  have hext : Extends D D' := .of_moves (.single hmove)
  constructor
  · intro transition hmem haction replacement hreplacement
    rcases hmove.transition_cases hmem with hold | ⟨hcall, hshape, signer, hsigned⟩
    · obtain ⟨signer, hanchor, hissuer, hpurposes⟩ :=
        h.narrow transition hold haction replacement hreplacement
      exact ⟨signer, hext.anchorOf hanchor, hissuer, hpurposes⟩
    · obtain ⟨hissuer, hpurposes⟩ :=
        hnarrow transition signer replacement hcall haction hreplacement hsigned
      have hkeeps := issuerId_of_validateReplacement hshape haction hreplacement
      exact ⟨signer, hext.anchorOf (hext₀.anchorOf hsigned.1), hissuer.trans hkeeps.symm, hpurposes⟩
  · intro file anchor hfound
    rcases hmove.anchor_cases hfound with hold | ⟨habsent, -, -, hinstalled | hrotated⟩
    · exact (h.rooted file anchor hold).extend hext fun _ ha => ha.extend hext
    · have habsent₀ : (D₀ .trust).get? file = none := by
        cases hfirst : (D₀ .trust).get? file with
        | none => rfl
        | some first =>
            rw [hext₀.anchors file first hfirst] at habsent
            cases habsent
      exact ⟨anchor, Or.inr ⟨hinstalled, file, habsent₀, hfound⟩, rfl, fun _ hp => hp, .refl⟩
    · obtain ⟨transition, signer, hstored, hsigned, haction, hreplacement⟩ := hrotated
      obtain ⟨narrowed, hnamed, hissuer, hpurposes⟩ :=
        h.narrow transition hstored haction anchor hreplacement
      have heq := hnamed.unique hsigned.1
      subst heq
      obtain ⟨signerFile, -, hsignerFound⟩ := hsigned.1
      obtain ⟨root, hroot, hrootIssuer, hrootPurposes, hchain⟩ :=
        (h.rooted signerFile signer hsignerFound).extend hext fun _ ha => ha.extend hext
      have hlast : Rotates rt D' signer anchor :=
        hext.rotates ⟨transition, hstored, hsigned, haction, hreplacement⟩
      exact ⟨root, hroot, hrootIssuer.trans hissuer, fun _ hp => hrootPurposes (hpurposes hp),
        hchain.tail hlast⟩

theorem Descends.moves (h : Descends rt S D₀)
    (hnarrow : NarrowRotations rt ⟨D₀, fun _ => none⟩ c)
    (hmoves : ReflTransGen (ReflexMove rt c D₀) D₀ D) : Descends rt (Installed S c D₀ D) D := by
  induction hmoves with
  | refl =>
      constructor
      · exact h.narrow
      · intro file anchor hfound
        exact (h.rooted file anchor hfound).extend (.of_eq rfl rfl) fun _ => Or.inl
  | tail hbefore hmove ih => exact ih.move (.of_moves hbefore) hnarrow hmove

end Invariant

/-- The invariant holds in every reached state. -/
theorem Reached.descends {rt : ReflexRuntime} {S : ReflexAuthorityTrustAnchor → Prop}
    {w : ReflexWorld} (hrun : Reached rt (NarrowRotations rt) S w) : Descends rt S w.dirs := by
  induction hrun with
  | start control =>
      constructor
      · intro transition hmem
        cases hmem
      · intro file anchor hfound
        cases hfound
  | call c run hallowed hrun ih => exact ih.moves hallowed hrun.moves
  | @control S w w' run hdirs ih =>
      have htrust := hdirs .trust (by decide)
      have htransitions := hdirs .transitions (by decide)
      have hext : Extends w.dirs w'.dirs := .of_eq htrust htransitions
      constructor
      · intro transition hmem haction replacement hreplacement
        unfold ReflexRecords.items at hmem
        rw [htransitions] at hmem
        obtain ⟨signer, hanchor, hnarrow⟩ := ih.narrow transition hmem haction replacement
          hreplacement
        exact ⟨signer, hext.anchorOf hanchor, hnarrow⟩
      · intro file anchor hfound
        rw [htrust] at hfound
        exact (ih.rooted file anchor hfound).extend hext fun _ ha => ha

/-- MAIN: **Rotations hand on no more than they have, while every ingested one is narrow.** In every
state that a run of the planes reaches, with calls in any order that may stop anywhere, in which
each rotation that is ingested, signed under a stored anchor, names that anchor's issuer and hands
on purposes of that anchor only: every stored anchor is reached by a chain of stored rotations from
an explicitly installed anchor of its issuer that has all its purposes, and a payload is accepted
only for a purpose of such a root.
SOURCE: reflex/lifecycle.py:322-382,717-739,1458-1481 -/
theorem authorityNotWidened_of_narrowRotations {rt : ReflexRuntime}
    {S : ReflexAuthorityTrustAnchor → Prop} {w : ReflexWorld}
    (hrun : Reached rt (NarrowRotations rt) S w) : AuthorityNotWidened rt S w := by
  have hrooted := hrun.descends.rooted
  constructor
  · exact hrooted
  · intro issuerId keyId purpose payload signatureB64 haccepts
    obtain ⟨_, anchor, hanchor, hverifies⟩ :=
      (ReflexAuthorityPlane.verifySignedPayload_observes issuerId keyId purpose payload
        signatureB64).accepted haccepts
    obtain ⟨file, hfile, hfound⟩ := hanchor
    obtain ⟨root, hroot, -, hpurposes, hchain⟩ := hrooted file anchor hfound
    exact ⟨root, anchor, hroot, hpurposes hverifies.1, hchain, ⟨file, hfile, hfound⟩, hverifies⟩

/-! ### A rotation that widens, and one that narrows -/

/-- The explicit ingest of the key `k1` of issuer `a` for these purposes. -/
def firstKeyIngest (purposes : List String) : ReflexCall :=
  .ingestTrustAnchor (zeroKeyAnchor "a" "k1" purposes).toDict 0 none

/-- The store after it. -/
def firstKeyWorld (purposes : List String) : ReflexWorld :=
  (firstKeyIngest purposes).end zeroKeyRuntime .empty

/-- The anchors that it installs. -/
def firstKeyInstalled (purposes : List String) : ReflexAuthorityTrustAnchor → Prop :=
  Installed (fun _ => False) (firstKeyIngest purposes) ReflexWorld.empty.dirs
    (firstKeyWorld purposes).dirs

/-- The rotation of this key to `k2` with these purposes. -/
def rotationTo (purposes : List String) : ReflexTrustTransition where
  transitionId := "t1"
  issuerId := "a"
  keyId := "k1"
  action := "ROTATE"
  issuedAtEpoch := 0
  effectiveEpoch := 0
  reason := "scheduled rotation"
  replacementAnchor := some (zeroKeyAnchor "a" "k2" purposes)
  signatureB64 := zeroSignatureB64
  envelopeSha256 := commonSha256

/-- Its ingest. -/
def rotationIngest (purposes : List String) : ReflexCall :=
  .ingestTrustTransition
    ((rotationTo purposes).body ++ [("envelope_sha256", .str commonSha256)]) 0

/-- The store after the key was ingested for `purposes` and rotated to a key for `next`. -/
def rotatedWorld (purposes next : List String) : ReflexWorld :=
  (rotationIngest next).end zeroKeyRuntime (firstKeyWorld purposes)

/-- The anchors that are explicitly installed then. -/
def rotatedInstalled (purposes next : List String) : ReflexAuthorityTrustAnchor → Prop :=
  Installed (firstKeyInstalled purposes) (rotationIngest next) (firstKeyWorld purposes).dirs
    (rotatedWorld purposes next).dirs

theorem reached_secondCall {allowed : ReflexWorld → ReflexCall → Prop} (purposes : List String)
    (call : ReflexCall) (hfirst : allowed .empty (firstKeyIngest purposes))
    (hsecond : allowed (firstKeyWorld purposes) call) :
    Reached zeroKeyRuntime allowed
      (Installed (firstKeyInstalled purposes) call (firstKeyWorld purposes).dirs
        (call.end zeroKeyRuntime (firstKeyWorld purposes)).dirs)
      (call.end zeroKeyRuntime (firstKeyWorld purposes)) := by
  have hingested : Reached zeroKeyRuntime allowed (firstKeyInstalled purposes)
      (firstKeyWorld purposes) :=
    .call (firstKeyIngest purposes) (.start _) hfirst (ReflexCall.runsTo_end _ _ _)
  exact .call call hingested hsecond (ReflexCall.runsTo_end _ _ _)

theorem reached_rotatedWorld {allowed : ReflexWorld → ReflexCall → Prop} (purposes next : List String)
    (hfirst : allowed .empty (firstKeyIngest purposes))
    (hsecond : allowed (firstKeyWorld purposes) (rotationIngest next)) :
    Reached zeroKeyRuntime allowed (rotatedInstalled purposes next) (rotatedWorld purposes next) :=
  reached_secondCall purposes (rotationIngest next) hfirst hsecond

/-- A key that is trusted for signing transitions only is rotated to one that is also trusted for
signing activation grants. -/
theorem rotation_widens_authority :
    Reached zeroKeyRuntime (fun _ _ => True)
        (rotatedInstalled ["trust_transition"] ["activation_grant", "trust_transition"])
        (rotatedWorld ["trust_transition"] ["activation_grant", "trust_transition"]) ∧
      ¬ AuthorityNotWidened zeroKeyRuntime
        (rotatedInstalled ["trust_transition"] ["activation_grant", "trust_transition"])
        (rotatedWorld ["trust_transition"] ["activation_grant", "trust_transition"]) := by
  refine ⟨reached_rotatedWorld _ _ trivial trivial, fun hnarrow => ?_⟩
  have hstored : ((rotatedWorld ["trust_transition"]
      ["activation_grant", "trust_transition"]).dirs .trust).get? "a__k2.json" =
        some (zeroKeyAnchor "a" "k2" ["activation_grant", "trust_transition"]) := by
    decide +kernel
  have hfirst : ((firstKeyWorld ["trust_transition"]).dirs .trust).entries =
      [("a__k1.json", zeroKeyAnchor "a" "k1" ["trust_transition"])] := by
    decide +kernel
  obtain ⟨root, hroot, -, hpurposes, -⟩ := hnarrow.anchors _ _ hstored
  have hinstalled : firstKeyInstalled ["trust_transition"] root :=
    hroot.resolve_right fun hsecond => hsecond.1
  obtain ⟨-, file, -, hfound⟩ := hinstalled.resolve_left id
  have hmem := Dict.mem_entries_iff.mpr hfound
  rw [hfirst] at hmem
  have hsame := congrArg Prod.snd (List.mem_singleton.mp hmem)
  subst hsame
  have hgrant : "activation_grant" ∈ ["trust_transition"] := hpurposes List.mem_cons_self
  exact absurd hgrant (by decide)

/-- A rotation to a key for fewer purposes is narrow, and its run keeps the authority. -/
theorem rotation_keeps_authority :
    AuthorityNotWidened zeroKeyRuntime
      (rotatedInstalled ["activation_grant", "trust_transition"] ["trust_transition"])
      (rotatedWorld ["activation_grant", "trust_transition"] ["trust_transition"]) := by
  apply authorityNotWidened_of_narrowRotations
  apply reached_rotatedWorld
  · rintro transition signer replacement ⟨payload, epoch, hcall, -⟩
    cases hcall
  · rintro transition signer replacement ⟨payload, epoch, hcall, hparse⟩ - hreplacement hsigned
    have hread : trustTransitionFromPayload zeroKeyRuntime
        ((rotationTo ["trust_transition"]).body ++ [("envelope_sha256", .str commonSha256)]) =
          .ok (rotationTo ["trust_transition"]) := by
      decide +kernel
    have hpayload := (ReflexCall.ingestTrustTransition.inj hcall).1
    rw [← hpayload, hread] at hparse
    have htransition := Except.ok.inj hparse
    subst htransition
    have hfile : ReflexAuthorityPlane.anchorFile "a" "k1" = .ok "a__k1.json" := by decide +kernel
    have hfirst : ((firstKeyWorld ["activation_grant", "trust_transition"]).dirs .trust).get?
        "a__k1.json" = some (zeroKeyAnchor "a" "k1" ["activation_grant", "trust_transition"]) := by
      decide +kernel
    have hsigner := AnchorOf.unique ⟨_, hfile, hfirst⟩ hsigned.1
    subst hsigner
    have hnext := Option.some.inj hreplacement
    subst hnext
    exact ⟨rfl, fun purpose hpurpose => List.mem_cons_of_mem _ hpurpose⟩

end PhiOS
