import PhiOS.Analysis.ReflexMoves

/-!
# Whose signature is accepted

A signature is checked under the anchor that is stored in the file named after the two identifiers
of the signed record. The name joins the identifiers, stripped, with two underscores, which
identifiers may contain; the anchor that is read is not asked for its own identifiers. So a
signature is accepted under the named key exactly when the anchor of that file name bears the two
identifiers itself.
-/

set_option autoImplicit false

namespace PhiOS

open Interaction KeyOrder Reflex Relation

/-! ## Stored anchors -/

theorem get?_store {D : ReflexRecords} {d d' : ReflexDir} {file file' : String} {item : d.Item}
    {found : d'.Item} (h : (D.store d file item d').get? file' = some found) :
    (D d').get? file' = some found ∨ d' = d ∧ file' = file := by
  by_cases hdir : d' = d
  · subst hdir
    have hset : D.store d' file item d' = (D d').set file item := Function.update_self _ _ _
    rw [hset, Dict.get?_set] at h
    by_cases hfile : file' = file
    · exact Or.inr ⟨rfl, hfile⟩
    · rw [if_neg hfile] at h
      exact Or.inl h
  · have hset : D.store d file item d' = D d' := Function.update_of_ne hdir _ _
    rw [hset] at h
    exact Or.inl h

theorem get?_store_self {D : ReflexRecords} {d : ReflexDir} {file : String} {item : d.Item} :
    (D.store d file item d).get? file = some item := by
  have hset : D.store d file item d = (D d).set file item := Function.update_self _ _ _
  rw [hset, Dict.get?_set, if_pos rfl]

theorem get?_store_of_ne {D : ReflexRecords} {d d' : ReflexDir} {file file' : String} {item : d.Item}
    {found : d'.Item} (h : (D d').get? file' = some found)
    (hne : d' = d → (D d).get? file = none) : (D.store d file item d').get? file' = some found := by
  by_cases hdir : d' = d
  · subst hdir
    have hset : D.store d' file item d' = (D d').set file item := Function.update_self _ _ _
    have hfile : file' ≠ file := by
      intro heq
      rw [heq, hne rfl] at h
      cases h
    rw [hset, Dict.get?_set, if_neg hfile]
    exact h
  · have hset : D.store d file item d' = D d' := Function.update_of_ne hdir _ _
    rw [hset]
    exact h

/-- Every stored anchor is valid and in the file that its own identifiers name. -/
def AnchorsInPlace (rt : ReflexRuntime) (D : ReflexRecords) : Prop :=
  ∀ file anchor, (D .trust).get? file = some anchor →
    validateTrustAnchor rt anchor = .ok () ∧
      ReflexAuthorityPlane.anchorFile anchor.issuerId anchor.keyId = .ok file

section Moves

variable {rt : ReflexRuntime} {c : ReflexCall} {D₀ D D' : ReflexRecords}

/-- A move leaves the stored anchors and transitions where they are. -/
theorem ReflexMove.keeps (h : ReflexMove rt c D₀ D D') {d : ReflexDir}
    (hd : d = .trust ∨ d = .transitions) {file : String} {item : d.Item}
    (hfound : (D d).get? file = some item) : (D' d).get? file = some item := by
  cases h with
  | install hcall hvalid hfile habsent => exact get?_store_of_ne hfound fun _ => habsent
  | rotate hstored hsigned haction hreplacement hvalid hfile habsent =>
      exact get?_store_of_ne hfound fun _ => habsent
  | transition hcall hshape hsigned habsent => exact get?_store_of_ne hfound fun _ => habsent
  | signedGrant hcall hsigned =>
      exact get?_store_of_ne hfound (by rcases hd with rfl | rfl <;> simp)
  | usePolicy hcall hsigned => exact get?_store_of_ne hfound (by rcases hd with rfl | rfl <;> simp)
  | manifest hcall hsigned => exact get?_store_of_ne hfound (by rcases hd with rfl | rfl <;> simp)
  | other hother =>
      apply get?_store_of_ne hfound
      rintro rfl
      rcases hd with rfl | rfl <;> simp at hother

/-- A stored rotation, signed under a stored anchor, carries this replacement. -/
def Rotated (rt : ReflexRuntime) (D : ReflexRecords) (anchor : ReflexAuthorityTrustAnchor) : Prop :=
  ∃ transition signer, transition ∈ D.items .transitions ∧ SignedTransition rt D transition signer ∧
    transition.action = "ROTATE" ∧ transition.replacementAnchor = some anchor

/-- Where the anchors come from that are stored after a move. -/
theorem ReflexMove.anchor_cases (h : ReflexMove rt c D₀ D D') {file : String}
    {anchor : ReflexAuthorityTrustAnchor} (hfound : (D' .trust).get? file = some anchor) :
    (D .trust).get? file = some anchor ∨
      (D .trust).get? file = none ∧ validateTrustAnchor rt anchor = .ok () ∧
        ReflexAuthorityPlane.anchorFile anchor.issuerId anchor.keyId = .ok file ∧
        (c.IngestsAnchor ∨ Rotated rt D anchor) := by
  cases h with
  | @install new newFile hcall hvalid hfile habsent =>
      rcases get?_store hfound with hold | ⟨-, hsame⟩
      · exact Or.inl hold
      · rw [hsame, get?_store_self] at hfound
        have heq := Option.some.inj hfound
        subst heq hsame
        exact Or.inr ⟨habsent, hvalid, hfile, Or.inl hcall⟩
  | @rotate transition signer new newFile hstored hsigned haction hreplacement hvalid hfile habsent =>
      rcases get?_store hfound with hold | ⟨-, hsame⟩
      · exact Or.inl hold
      · rw [hsame, get?_store_self] at hfound
        have heq := Option.some.inj hfound
        subst heq hsame
        exact Or.inr ⟨habsent, hvalid, hfile,
          Or.inr ⟨transition, signer, hstored, hsigned, haction, hreplacement⟩⟩
  | transition hcall hshape hsigned habsent =>
      exact Or.inl ((get?_store hfound).resolve_right fun hdir => nomatch hdir.1)
  | signedGrant hcall hsigned =>
      exact Or.inl ((get?_store hfound).resolve_right fun hdir => nomatch hdir.1)
  | usePolicy hcall hsigned =>
      exact Or.inl ((get?_store hfound).resolve_right fun hdir => nomatch hdir.1)
  | manifest hcall hsigned =>
      exact Or.inl ((get?_store hfound).resolve_right fun hdir => nomatch hdir.1)
  | other hother =>
      refine Or.inl ((get?_store hfound).resolve_right ?_)
      rintro ⟨rfl, -⟩
      simp at hother

theorem ReflexMove.anchorsInPlace (h : ReflexMove rt c D₀ D D') (hplace : AnchorsInPlace rt D) :
    AnchorsInPlace rt D' := by
  intro file anchor hfound
  rcases h.anchor_cases hfound with hold | ⟨-, hvalid, hfile, -⟩
  · exact hplace file anchor hold
  · exact ⟨hvalid, hfile⟩

theorem anchorsInPlace_of_moves (h : ReflTransGen (ReflexMove rt c D₀) D D')
    (hplace : AnchorsInPlace rt D) : AnchorsInPlace rt D' := by
  induction h with
  | refl => exact hplace
  | tail _ hmove ih => exact hmove.anchorsInPlace ih

theorem keeps_of_moves (h : ReflTransGen (ReflexMove rt c D₀) D D') {d : ReflexDir}
    (hd : d = .trust ∨ d = .transitions) {file : String} {item : d.Item}
    (hfound : (D d).get? file = some item) : (D' d).get? file = some item := by
  induction h with
  | refl => exact hfound
  | tail _ hmove ih => exact hmove.keeps hd ih

theorem keeps_anchor_of_moves (h : ReflTransGen (ReflexMove rt c D₀) D D') {file : String}
    {anchor : ReflexAuthorityTrustAnchor} (hfound : (D .trust).get? file = some anchor) :
    (D' .trust).get? file = some anchor :=
  keeps_of_moves (d := .trust) h (Or.inl rfl) hfound

end Moves

/-! ## Records only grow -/

/-- The anchors and transitions of `D` are those of `D'` too. -/
structure Extends (D D' : ReflexRecords) : Prop where
  anchors : ∀ file anchor, (D .trust).get? file = some anchor →
    (D' .trust).get? file = some anchor
  transitions : ∀ file transition, (D .transitions).get? file = some transition →
    (D' .transitions).get? file = some transition

section Extends

variable {rt : ReflexRuntime} {D D' : ReflexRecords}

theorem Extends.of_moves {c : ReflexCall} {D₀ : ReflexRecords}
    (h : ReflTransGen (ReflexMove rt c D₀) D D') : Extends D D' where
  anchors := fun _ _ hfound => keeps_anchor_of_moves h hfound
  transitions := fun _ _ hfound => keeps_of_moves (d := .transitions) h (Or.inr rfl) hfound

theorem Extends.of_eq (htrust : D' .trust = D .trust)
    (htransitions : D' .transitions = D .transitions) : Extends D D' where
  anchors := fun _ _ hfound => htrust ▸ hfound
  transitions := fun _ _ hfound => htransitions ▸ hfound

theorem Extends.anchorOf (h : Extends D D') {issuerId keyId : String}
    {anchor : ReflexAuthorityTrustAnchor} (hanchor : AnchorOf D issuerId keyId anchor) :
    AnchorOf D' issuerId keyId anchor := by
  obtain ⟨file, hfile, hfound⟩ := hanchor
  exact ⟨file, hfile, h.anchors file anchor hfound⟩

theorem Extends.mem_transitions (h : Extends D D') {transition : ReflexTrustTransition}
    (hmem : transition ∈ D.items .transitions) : transition ∈ D'.items .transitions := by
  obtain ⟨file, hfound⟩ := ReflexRecords.mem_items.mp hmem
  exact ReflexRecords.mem_items.mpr ⟨file, h.transitions file transition hfound⟩

end Extends

theorem AnchorOf.unique {D : ReflexRecords} {issuerId keyId : String}
    {anchor other : ReflexAuthorityTrustAnchor} (h : AnchorOf D issuerId keyId anchor)
    (h' : AnchorOf D issuerId keyId other) : other = anchor := by
  obtain ⟨file, hfile, hfound⟩ := h
  obtain ⟨file', hfile', hfound'⟩ := h'
  rw [hfile] at hfile'
  have hsame := Except.ok.inj hfile'
  subst hsame
  rw [hfound] at hfound'
  exact (Option.some.inj hfound').symm

theorem Reached.anchorsInPlace {rt : ReflexRuntime} {allowed : ReflexWorld → ReflexCall → Prop}
    {S : ReflexAuthorityTrustAnchor → Prop} {w : ReflexWorld} (h : Reached rt allowed S w) :
    AnchorsInPlace rt w.dirs := by
  induction h with
  | start control =>
      intro file anchor hfound
      cases hfound
  | call c run hallowed hrun ih => exact anchorsInPlace_of_moves hrun.moves ih
  | control run hdirs ih =>
      intro file anchor hfound
      rw [hdirs .trust (by decide)] at hfound
      exact ih file anchor hfound

/-! ## Runs of anchor ingests -/

/-- After any sequence of anchor ingests the stored anchors are those that were
ingested. -/
theorem Reached.installed_iff {rt : ReflexRuntime} {S : ReflexAuthorityTrustAnchor → Prop}
    {w : ReflexWorld} (h : Reached rt (fun _ c => c.IngestsAnchor) S w)
    (anchor : ReflexAuthorityTrustAnchor) :
    S anchor ↔ ∃ file, (w.dirs .trust).get? file = some anchor := by
  induction h with
  | start control =>
      constructor
      · exact False.elim
      · rintro ⟨file, hfound⟩
        cases hfound
  | @call S w w' q c run hingest hrun ih =>
      constructor
      · rintro (hold | ⟨-, file, -, hfound⟩)
        · obtain ⟨file, hfound⟩ := ih.mp hold
          exact ⟨file, keeps_anchor_of_moves hrun.moves hfound⟩
        · exact ⟨file, hfound⟩
      · rintro ⟨file, hfound⟩
        cases hold : (w.dirs .trust).get? file with
        | none => exact Or.inr ⟨hingest, file, hold, hfound⟩
        | some other =>
            have hkept := keeps_anchor_of_moves hrun.moves hold
            rw [hfound] at hkept
            have heq := Option.some.inj hkept
            subst heq
            exact Or.inl (ih.mpr ⟨file, hold⟩)
  | control run hdirs ih =>
      rw [hdirs .trust (by decide)]
      exact ih

/-! ## Which signatures are accepted -/

theorem Observes.accepted {α : Type} {w : ReflexWorld} {post : α → Prop} {p : ReflexProg α}
    (h : Observes w.dirs post p) (haccepts : Accepts p w) : ∃ a, post a := by
  obtain ⟨t, a, w', hsteps, hcarries⟩ := haccepts
  have hpost := (h.holds (R := fun _ => True) fun _ _ => trivial).returned hsteps hcarries
  exact ⟨a, hpost.2⟩

theorem mem_allowedPurposes_of_valid {rt : ReflexRuntime} {anchor : ReflexAuthorityTrustAnchor}
    {purpose : String} (hvalid : validateTrustAnchor rt anchor = .ok ())
    (hpurpose : purpose ∈ anchor.allowedPurposes) : purpose ∈ allowedPurposes := by
  unfold validateTrustAnchor at hvalid
  obtain ⟨_, _, _, hvalid⟩ := ok_past_three hvalid
  obtain ⟨_, hcanonical, hvalid⟩ := bind_eq_ok.mp hvalid
  obtain ⟨_, hknown, hvalid⟩ := bind_eq_ok.mp hvalid
  have hsorted := not_or.mp (raiseIf_eq_ok.mp hcanonical)
  have hall := raiseIf_eq_ok.mp hknown
  rw [not_not.mp hsorted.2] at hall
  by_contra hunknown
  apply hall
  exact List.any_eq_true.mpr ⟨purpose, hpurpose, by simpa using hunknown⟩

/-- A payload is accepted where the anchor of its file verifies it. -/
theorem accepts_verifySignedPayload {rt : ReflexRuntime} {w : ReflexWorld}
    {issuerId keyId purpose signatureB64 : String} {payload : Row}
    {anchor : ReflexAuthorityTrustAnchor} (hanchor : AnchorOf w.dirs issuerId keyId anchor)
    (hvalid : validateTrustAnchor rt anchor = .ok ())
    (hverifies : Verifies rt anchor purpose payload signatureB64) :
    Accepts (ReflexAuthorityPlane.verifySignedPayload rt issuerId keyId purpose payload
      signatureB64) w := by
  obtain ⟨file, hfile, hfound⟩ := hanchor
  have hknown : raiseIf (purpose ∉ allowedPurposes)
      (reflexAuthorityErr "unsupported authenticated authority purpose") = .ok () :=
    raiseIf_eq_ok.mpr (not_not.mpr (mem_allowedPurposes_of_valid hvalid hverifies.1))
  have hunder : ReflexAuthorityPlane.verifyUnder rt anchor purpose
      "trusted key is not allowed for requested authority purpose" payload signatureB64 = .ok () :=
    ReflexAuthorityPlane.verifyUnder_eq_ok.mpr hverifies
  have hload : (ReflexOp.load .trust file).effect w (.ok (some anchor)) w := ⟨rfl, hfound.symm⟩
  refine ⟨[⟨.load .trust file, .ok (some anchor)⟩], anchor.anchorSha256, w, ?_, .cons hload (.nil w)⟩
  unfold ReflexAuthorityPlane.verifySignedPayload ReflexAuthorityPlane.requireAnchor
  rw [hknown, hfile]
  apply Prog.Steps.op
  dsimp only [Prog.bind, Prog.ofExcept]
  rw [hvalid]
  change Prog.Steps (Prog.bind (.ofExcept (ReflexAuthorityPlane.verifyUnder rt anchor purpose
    "trusted key is not allowed for requested authority purpose" payload signatureB64)) fun _ =>
      .ret anchor.anchorSha256) [] (.ret anchor.anchorSha256)
  rw [hunder]
  exact .refl _

/-- The checks of the authority plane authenticate exactly the key of these two identifiers: what
they accept under it is signed under an ingested anchor that bears both, for a purpose that it
allows. -/
structure AuthenticatesKey (rt : ReflexRuntime) (S : ReflexAuthorityTrustAnchor → Prop)
    (w : ReflexWorld) (issuerId keyId : String) : Prop where
  payloads : ∀ purpose payload signatureB64,
    Accepts (ReflexAuthorityPlane.verifySignedPayload rt issuerId keyId purpose payload
      signatureB64) w →
    ∃ anchor, S anchor ∧ anchor.issuerId = issuerId ∧ anchor.keyId = keyId ∧
      Verifies rt anchor purpose payload signatureB64
  grants : ∀ (envelope : SignedActivationGrantEnvelope) (epoch : ℕ), envelope.issuerId = issuerId →
    envelope.keyId = keyId → Accepts (ReflexAuthorityPlane.verifySignedGrant rt envelope epoch) w →
    ∃ anchor, S anchor ∧ anchor.issuerId = issuerId ∧ anchor.keyId = keyId ∧
      Verifies rt anchor AuthorityPurpose.activationGrant.value envelope.signingPayload
        envelope.signatureB64
  revocations : ∀ revocation : ReflexGrantRevocation, revocation.issuerId = issuerId →
    revocation.keyId = keyId → Accepts (ReflexAuthorityPlane.verifyRevocation rt revocation) w →
    ∃ anchor, S anchor ∧ anchor.issuerId = issuerId ∧ anchor.keyId = keyId ∧
      Verifies rt anchor AuthorityPurpose.grantRevocation.value revocation.signingPayload
        revocation.signatureB64

/-- The ingested anchor whose file name is the one of these two identifiers bears both, or no
signature verifies under it. -/
def NamesItsKey (rt : ReflexRuntime) (S : ReflexAuthorityTrustAnchor → Prop)
    (issuerId keyId : String) : Prop :=
  ∀ anchor, S anchor →
    ReflexAuthorityPlane.anchorFile anchor.issuerId anchor.keyId =
      ReflexAuthorityPlane.anchorFile issuerId keyId →
    (anchor.issuerId = issuerId ∧ anchor.keyId = keyId) ∨
      ∀ purpose payload signatureB64, ¬ Verifies rt anchor purpose payload signatureB64

section Authenticates

variable {rt : ReflexRuntime} {S : ReflexAuthorityTrustAnchor → Prop} {w : ReflexWorld}
  {issuerId keyId : String}

theorem NamesItsKey.bears (hnames : NamesItsKey rt S issuerId keyId)
    (hrun : Reached rt (fun _ c => c.IngestsAnchor) S w) {anchor : ReflexAuthorityTrustAnchor}
    {purpose signatureB64 : String} {payload : Row}
    (hanchor : AnchorOf w.dirs issuerId keyId anchor)
    (hverifies : Verifies rt anchor purpose payload signatureB64) :
    ∃ anchor, S anchor ∧ anchor.issuerId = issuerId ∧ anchor.keyId = keyId ∧
      Verifies rt anchor purpose payload signatureB64 := by
  obtain ⟨file, hfile, hfound⟩ := hanchor
  have hS : S anchor := (hrun.installed_iff anchor).mpr ⟨file, hfound⟩
  have hplace := (hrun.anchorsInPlace file anchor hfound).2
  rcases hnames anchor hS (hplace.trans hfile.symm) with ⟨hissuer, hkey⟩ | hnone
  · exact ⟨anchor, hS, hissuer, hkey, hverifies⟩
  · exact absurd hverifies (hnone purpose payload signatureB64)

/-- MAIN: **Signatures authenticate the key that the anchor's file name names.** After any sequence
of trust-anchor ingests, and for all identifiers, the payload, grant and revocation checks accept
only what is signed under an ingested anchor with exactly these identifiers, if and only if the
anchor of that file name bears them or verifies nothing.
SOURCE: reflex/authority.py:202-228,635-690,708-720,775-778,1277-1283 -/
theorem authenticates_iff_namesItsKey (hrun : Reached rt (fun _ c => c.IngestsAnchor) S w)
    (issuerId keyId : String) :
    AuthenticatesKey rt S w issuerId keyId ↔ NamesItsKey rt S issuerId keyId := by
  constructor
  · intro hauth anchor hS hsame
    obtain ⟨file, hfound⟩ := (hrun.installed_iff anchor).mp hS
    obtain ⟨hvalid, hfile⟩ := hrun.anchorsInPlace file anchor hfound
    by_cases hany : ∃ purpose payload signatureB64, Verifies rt anchor purpose payload signatureB64
    · obtain ⟨purpose, payload, signatureB64, hverifies⟩ := hany
      have hnamed : ReflexAuthorityPlane.anchorFile issuerId keyId = .ok file := hsame ▸ hfile
      obtain ⟨other, hother, hissuer, hkey, -⟩ := hauth.payloads purpose payload signatureB64
        (accepts_verifySignedPayload ⟨file, hnamed, hfound⟩ hvalid hverifies)
      -- The anchor that bears the identifiers is in the same file.
      obtain ⟨file', hfound'⟩ := (hrun.installed_iff other).mp hother
      have hfile' := (hrun.anchorsInPlace file' other hfound').2
      rw [hissuer, hkey, hnamed] at hfile'
      have hsameFile := Except.ok.inj hfile'
      subst hsameFile
      rw [hfound] at hfound'
      have heq := Option.some.inj hfound'
      subst heq
      exact Or.inl ⟨hissuer, hkey⟩
    · right
      intro purpose payload signatureB64 hverifies
      exact hany ⟨purpose, payload, signatureB64, hverifies⟩
  · intro hnames
    constructor
    · intro purpose payload signatureB64 haccepts
      obtain ⟨_, anchor, hanchor, hverifies⟩ :=
        (ReflexAuthorityPlane.verifySignedPayload_observes issuerId keyId purpose payload
          signatureB64).accepted haccepts
      exact hnames.bears hrun hanchor hverifies
    · rintro envelope epoch rfl rfl haccepts
      obtain ⟨_, anchor, hanchor, hverifies⟩ :=
        (ReflexAuthorityPlane.verifySignedGrant_observes envelope epoch).accepted haccepts
      exact hnames.bears hrun hanchor hverifies
    · rintro revocation rfl rfl haccepts
      obtain ⟨_, anchor, hanchor, hverifies⟩ :=
        (ReflexAuthorityPlane.verifyRevocation_observes revocation).accepted haccepts
      exact hnames.bears hrun hanchor hverifies

end Authenticates

/-! ### Two pairs of identifiers with one file name -/

/-- Thirty-two zero bytes, as base64. -/
def zeroKeyB64 : String := "AAAAAAAAAAAAAAAAAAAAAAAAAAAAAAAAAAAAAAAAAAA="

/-- Sixty-four zero bytes, as base64. -/
def zeroSignatureB64 : String :=
  "AAAAAAAAAAAAAAAAAAAAAAAAAAAAAAAAAAAAAAAAAAAAAAAAAAAAAAAAAAAAAAAAAAAAAAAAAAAAAAAAAAAAAA=="

/-- The digest of everything. -/
def commonSha256 : String := "e3b0c44298fc1c149afbf4c8996fb92427ae41e4649b934ca495991b7852b855"

/-- Everything has one digest, the two texts above are the only base64, and the key has signed
every payload with the signature. -/
def zeroKeyRuntime : ReflexRuntime where
  sha256 := fun _ => commonSha256
  pyStr := fun
    | .str text => text
    | _ => ""
  pyStr_str := fun _ => rfl
  upper := String.toUpper
  floatValue := fun _ => 0
  b64decode := fun text =>
    if text = zeroKeyB64 then some (List.replicate 32 0)
    else if text = zeroSignatureB64 then some (List.replicate 64 0) else none
  verify := fun key _ signature => key = List.replicate 32 0 && signature = List.replicate 64 0
  blendRounded := fun baseline _ _ => baseline
  sumsToOne := fun _ => true
  blendScalar := fun baseline _ _ => some baseline

/-- The key under two identifiers. -/
def zeroKeyAnchor (issuerId keyId : String) (allowedPurposes : List String) :
    ReflexAuthorityTrustAnchor where
  issuerId := issuerId
  keyId := keyId
  algorithm := "ed25519"
  publicKeyB64 := zeroKeyB64
  allowedPurposes := allowedPurposes
  anchorSha256 := commonSha256

/-- Where a call ends that nothing disturbs. -/
def ReflexCall.end (rt : ReflexRuntime) (c : ReflexCall) (w : ReflexWorld) : ReflexWorld :=
  ((c.program rt).run ReflexOp.act w).2

theorem ReflexCall.runsTo_end (rt : ReflexRuntime) (c : ReflexCall) (w : ReflexWorld) :
    c.RunsTo rt w (.ofExcept ((c.program rt).run ReflexOp.act w).1) (c.end rt w) :=
  Prog.exists_steps_run ReflexOp.effect_act (c.program rt) w

/-- The anchor of issuer `a` and key `b__c`. -/
def underscoreAnchor : ReflexAuthorityTrustAnchor := zeroKeyAnchor "a" "b__c" ["activation_grant"]

/-- The explicit ingest of this anchor. -/
def underscoreIngest : ReflexCall := .ingestTrustAnchor underscoreAnchor.toDict 0 none

/-- The store after it. -/
def underscoreWorld : ReflexWorld := underscoreIngest.end zeroKeyRuntime .empty

/-- The anchors that it installs. -/
def underscoreInstalled (anchor : ReflexAuthorityTrustAnchor) : Prop :=
  False ∨ underscoreIngest.IngestsAnchor ∧ ∃ file,
    (ReflexWorld.empty.dirs .trust).get? file = none ∧
      (underscoreWorld.dirs .trust).get? file = some anchor

theorem reached_underscoreWorld :
    Reached zeroKeyRuntime (fun _ c => c.IngestsAnchor) underscoreInstalled underscoreWorld :=
  .call underscoreIngest (.start _) trivial (ReflexCall.runsTo_end _ _ _)

theorem underscoreWorld_get? :
    (underscoreWorld.dirs .trust).get? "a__b__c.json" = some underscoreAnchor := by
  decide +kernel

theorem eq_underscoreAnchor {anchor : ReflexAuthorityTrustAnchor}
    (h : underscoreInstalled anchor) : anchor = underscoreAnchor := by
  obtain ⟨-, file, -, hfound⟩ := h.resolve_left id
  have hentries : (underscoreWorld.dirs .trust).entries = [("a__b__c.json", underscoreAnchor)] := by
    decide +kernel
  have hmem := Dict.mem_entries_iff.mpr hfound
  rw [hentries] at hmem
  exact congrArg Prod.snd (List.mem_singleton.mp hmem)

/-- After the ingest of one anchor, of issuer `a` and key `b__c`, a payload of issuer `a__b` and key
`c` is accepted under that anchor. -/
theorem underscoreAnchor_authenticates_other_key :
    Reached zeroKeyRuntime (fun _ c => c.IngestsAnchor) underscoreInstalled underscoreWorld ∧
      ¬ AuthenticatesKey zeroKeyRuntime underscoreInstalled underscoreWorld "a__b" "c" := by
  refine ⟨reached_underscoreWorld, fun hauth => ?_⟩
  have hfile : ReflexAuthorityPlane.anchorFile "a__b" "c" = .ok "a__b__c.json" := by
    decide +kernel
  have hvalid : validateTrustAnchor zeroKeyRuntime underscoreAnchor = .ok () := by decide +kernel
  have hverifies : verifyEd25519 zeroKeyRuntime underscoreAnchor.publicKeyB64 [] zeroSignatureB64 =
      .ok () := by decide +kernel
  have haccepts : Accepts (ReflexAuthorityPlane.verifySignedPayload zeroKeyRuntime "a__b" "c"
      "activation_grant" [] zeroSignatureB64) underscoreWorld :=
    accepts_verifySignedPayload ⟨_, hfile, underscoreWorld_get?⟩ hvalid
      ⟨List.mem_singleton_self _, hverifies⟩
  obtain ⟨anchor, hinstalled, hissuer, -⟩ := hauth.payloads _ _ _ haccepts
  rw [eq_underscoreAnchor hinstalled] at hissuer
  exact absurd hissuer (by decide)

theorem underscoreAnchor_authenticates_own_key :
    AuthenticatesKey zeroKeyRuntime underscoreInstalled underscoreWorld "a" "b__c" := by
  apply (authenticates_iff_namesItsKey reached_underscoreWorld "a" "b__c").mpr
  intro anchor hinstalled _
  rw [eq_underscoreAnchor hinstalled]
  exact Or.inl ⟨rfl, rfl⟩

end PhiOS
