import PhiOS.Analysis.ControlLedger
import PhiOS.Analysis.LedgerLoss

/-!
# What a recovery makes of every content of the files

Nothing fails here but reading the four files. A recovery returns, collapses what is in doubt and
leaves a state that the next recovery finds settled, unless a file is refused with an error that it
does not catch, or the activation that it would collapse has no valid request.
-/

set_option autoImplicit false

namespace PhiOS

open Interaction ReflexRuntimeControlPlane

variable {rt : ReflexRuntime} {w w' : ReflexWorld} {epoch : ℕ}
  {digest : ReflexWorld → ControlFile → String}

/-! ## Collapsing a valid activation -/

/-- Dimensions that were normalized are normal. -/
theorem normalizeDimensions_normal {cls : ErrorClass} {unsupported : String}
    {dimensions normal : List String}
    (h : normalizeDimensions cls unsupported dimensions = .ok normal) :
    normalizeDimensions cls unsupported normal = .ok normal := by
  unfold normalizeDimensions at h ⊢
  obtain ⟨_, hnonempty, h⟩ := bind_eq_ok.mp h
  obtain ⟨_, hunique, h⟩ := bind_eq_ok.mp h
  obtain ⟨_, hsupported, h⟩ := bind_eq_ok.mp h
  obtain rfl : sortedSet dimensions = normal := by cases h; rfl
  have hidem : sortedSet (sortedSet dimensions) = sortedSet dimensions := by
    unfold sortedSet
    rw [List.Nodup.dedup]
    · exact (List.pairwise_insertionSort _ _).insertionSort_eq
    · exact (List.perm_insertionSort _ _).nodup_iff.mpr (List.nodup_dedup _)
  have hfilled : sortedSet dimensions ≠ [] := by
    obtain ⟨first, hfirst⟩ := List.exists_mem_of_ne_nil _ (raiseIf_eq_ok.mp hnonempty)
    exact List.ne_nil_of_mem (mem_sortedSet.mpr hfirst)
  rw [hidem]
  exact bind_eq_ok.mpr ⟨(), raiseIf_eq_ok.mpr hfilled,
    bind_eq_ok.mpr ⟨(), raiseIf_eq_ok.mpr (by simp), bind_eq_ok.mpr ⟨(), hsupported, rfl⟩⟩⟩

/-- The checks of `validate_activation_state`. -/
structure ActivationValid (rt : ReflexRuntime) (state : ReflexActivationState) : Prop where
  activationId : strip state.activationId ≠ ""
  revision : ¬ state.revision < 0
  policy : validateSha256 .reflexRuntimeInfluenceContractError state.policyStateSha256
    "policy_state_sha256" = .ok ()
  parent : ∀ parent ∈ state.parentActivationSha256,
    validateSha256 .reflexRuntimeInfluenceContractError parent "parent_activation_sha256" = .ok ()
  grant : validateSha256 .reflexRuntimeInfluenceContractError state.activatedByGrantSha256
    "activated_by_grant_sha256" = .ok ()
  surface : state.routingSurface = routingSurface
  dimensions : ∃ normal, normalizeRoutingDimensions state.allowedDimensions = .ok normal
  weight : validateWeight .reflexRuntimeInfluenceContractError "influence_weight"
    state.influenceWeight = .ok ()
  errors : ¬ state.consecutiveProviderErrors < 0
  authority : state.routingInfluenceActive = state.routingInfluenceAuthority
  promotion : ¬ state.promotionAuthority = true
  actions : ¬ (state.actionAuthority = true ∨ state.executionAuthority = true)
  sealed : rt.sha256 (.obj state.body) = state.stateSha256

/-- They are what it checks. -/
theorem validateActivationState_iff {state : ReflexActivationState} :
    validateActivationState rt state = .ok () ↔ ActivationValid rt state := by
  unfold validateActivationState
  cases hparent : state.parentActivationSha256 with
  | none =>
      simp only [bind_eq_ok, raiseIf_eq_ok, exists_and_left, exists_const, not_not]
      constructor
      · rintro ⟨hid, hrevision, ⟨⟩, hpolicy, ⟨⟩, hgrant, hsurface, ⟨normal, hnormal, ⟨⟩, hweight,
          herrors, hauthority, hpromotion, hactions, hsealed⟩⟩
        exact ⟨hid, hrevision, hpolicy, by simp [hparent], hgrant, hsurface, ⟨normal, hnormal⟩,
          hweight, herrors, hauthority, hpromotion, hactions, hsealed⟩
      · rintro ⟨hid, hrevision, hpolicy, -, hgrant, hsurface, ⟨normal, hnormal⟩, hweight, herrors,
          hauthority, hpromotion, hactions, hsealed⟩
        exact ⟨hid, hrevision, (), hpolicy, (), hgrant, hsurface, normal, hnormal, (), hweight,
          herrors, hauthority, hpromotion, hactions, hsealed⟩
  | some parent =>
      simp only [bind_eq_ok, raiseIf_eq_ok, exists_and_left, exists_const, not_not]
      constructor
      · rintro ⟨hid, hrevision, ⟨⟩, hpolicy, ⟨⟩, hparentSha, ⟨⟩, hgrant, hsurface, ⟨normal, hnormal,
          ⟨⟩, hweight, herrors, hauthority, hpromotion, hactions, hsealed⟩⟩
        exact ⟨hid, hrevision, hpolicy, by simpa [hparent] using hparentSha, hgrant, hsurface,
          ⟨normal, hnormal⟩, hweight, herrors, hauthority, hpromotion, hactions, hsealed⟩
      · rintro ⟨hid, hrevision, hpolicy, hparentSha, hgrant, hsurface, ⟨normal, hnormal⟩, hweight,
          herrors, hauthority, hpromotion, hactions, hsealed⟩
        exact ⟨hid, hrevision, (), hpolicy, (), hparentSha parent hparent, (), hgrant, hsurface,
          normal, hnormal, (), hweight, herrors, hauthority, hpromotion, hactions, hsealed⟩

namespace GovernedReflexRuntimeInfluence

/-- What `deactivate` builds is valid and of the same policy.
SOURCE: reflex/runtime_influence.py:389-451 -/
theorem deactivate_valid (hrt : rt.LawfulDigest) {policy : ReflexInfluencePolicyState}
    {state next : ReflexActivationState} {reason : String} {receipt : ReflexActivationReceipt}
    (h : deactivate rt policy state reason = .ok (next, receipt)) :
    validateActivationState rt next = .ok () ∧ next.policyStateSha256 = policy.stateSha256 := by
  unfold deactivate at h
  obtain ⟨_, -, h⟩ := bind_eq_ok.mp h
  obtain ⟨_, hstate, h⟩ := bind_eq_ok.mp h
  obtain ⟨_, hscope, h⟩ := bind_eq_ok.mp h
  obtain ⟨_, _, h⟩ := ok_past_two h
  have hbound : state.policyStateSha256 = policy.stateSha256 := not_not.mp (raiseIf_eq_ok.mp hscope)
  split at h
  · have hvalid := validateActivationState_iff.mp hstate
    obtain ⟨built, hbuilt, h⟩ := bind_eq_ok.mp h
    unfold buildActivationState at hbuilt
    obtain ⟨dimensions, hdimensions, hbuilt⟩ := bind_eq_ok.mp hbuilt
    obtain ⟨_, hweight, hbuilt⟩ := bind_eq_ok.mp hbuilt
    cases h
    cases hbuilt
    refine ⟨validateActivationState_iff.mpr ?_, rfl⟩
    exact {
      activationId := hvalid.activationId
      revision := by
        have := hvalid.revision
        show ¬ state.revision + 1 < 0
        omega
      policy := hbound ▸ hvalid.policy
      parent := by
        rintro parent ⟨⟩
        rw [← hvalid.sealed]
        exact hrt.valid _ _ _
      grant := hvalid.grant
      surface := hvalid.surface
      dimensions := ⟨_, normalizeDimensions_normal hdimensions⟩
      weight := hweight
      errors := hvalid.errors
      authority := rfl
      promotion := by simp [ReflexActivationState.sealed]
      actions := by simp [ReflexActivationState.sealed]
      sealed := rfl }
  · cases h
    exact ⟨hstate, hbound⟩

/-- An active state that is valid and bound is collapsed if its request is valid. -/
theorem deactivate_ok {policy : ReflexInfluencePolicyState} {state : ReflexActivationState}
    {reason : String} (hpolicy : validatePolicyState rt policy = .ok ())
    (hstate : validateActivationState rt state = .ok ())
    (hbound : state.policyStateSha256 = policy.stateSha256) (hreason : strip reason ≠ "")
    (hrequest : (requestOf state).postInit = .ok ()) :
    ∃ next receipt, deactivate rt policy state reason = .ok (next, receipt) := by
  obtain ⟨normal, hnormal⟩ := (validateActivationState_iff.mp hstate).dimensions
  have hweight := (validateActivationState_iff.mp hstate).weight
  have hbuilt : ∃ next, buildActivationState rt state.activationId (state.revision + 1) policy
      (requestOf state) state.consecutiveProviderErrors state.stateSha256
      state.activatedByGrantSha256 false = .ok next :=
    ⟨_, bind_eq_ok.mpr ⟨normal, hnormal, bind_eq_ok.mpr ⟨(), hweight, rfl⟩⟩⟩
  obtain ⟨next, hnext⟩ := hbuilt
  have hrest : ∃ result, (if state.routingInfluenceActive = true then do
      let next ← buildActivationState rt state.activationId (state.revision + 1) policy
        (requestOf state) state.consecutiveProviderErrors state.stateSha256
        state.activatedByGrantSha256 false
      return (next, activationReceipt rt "DEACTIVATED" ("privilege_collapsed:" ++ strip reason)
        policy (requestOf state) (some state) (some next) none false)
    else return (state, activationReceipt rt "INACTIVE" "already_inactive" policy (requestOf state)
        (some state) (some state) none false) : Except PyError _) = .ok result := by
    split
    · exact ⟨_, bind_eq_ok.mpr ⟨next, hnext, rfl⟩⟩
    · exact ⟨_, rfl⟩
  obtain ⟨⟨result, receipt⟩, hresult⟩ := hrest
  exact ⟨result, receipt, bind_eq_ok.mpr ⟨(), hpolicy, bind_eq_ok.mpr ⟨(), hstate,
    bind_eq_ok.mpr ⟨(), raiseIf_eq_ok.mpr (not_not.mpr hbound),
    bind_eq_ok.mpr ⟨(), raiseIf_eq_ok.mpr hreason, bind_eq_ok.mpr ⟨(), hrequest, hresult⟩⟩⟩⟩⟩⟩

theorem deactivate_error (rt : ReflexRuntime) (policy : ReflexInfluencePolicyState)
    (reason : String) {state : ReflexActivationState} (hrequest : (requestOf state).postInit ≠ .ok ()) :
    ∃ e, deactivate rt policy state reason = .error e := by
  cases h : deactivate rt policy state reason with
  | error e => exact ⟨e, rfl⟩
  | ok result =>
      unfold deactivate at h
      obtain ⟨_, _, _, _, h⟩ := ok_past_four h
      obtain ⟨_, hpost, -⟩ := bind_eq_ok.mp h
      exact absurd hpost hrequest

end GovernedReflexRuntimeInfluence

/-! ## Runs where nothing fails -/

/-- The policy, the activation and the lease that are stored, next to a valid ledger. -/
structure ReflexWorld.Files (rt : ReflexRuntime) (w : ReflexWorld)
    (policy : Option (Except PyError ReflexInfluencePolicyState))
    (activation : Option (Except PyError ReflexActivationState))
    (lease : Option (Except PyError ReflexRuntimeLease)) : Prop where
  policy : w.control .policy = policy
  activation : w.control .activation = activation
  lease : w.control .lease = lease
  ledger : ∃ entries, w.ledger rt = .ok entries

/-- The next recovery changes nothing. -/
def ReflexWorld.Settled (rt : ReflexRuntime) (epoch : ℕ) (w : ReflexWorld) : Prop :=
  (∃ entries, w.ledger rt = .ok entries) ∧ ∃ policy, w.policy rt = .ok policy ∧
    (w.control .activation = none ∧ w.control .lease = none ∨
      ∃ p activation lease, policy = some p ∧ w.activation rt = .ok (some activation) ∧
        activation.policyStateSha256 = p.stateSha256 ∧ w.lease rt = .ok lease ∧
        (∀ l ∈ lease, l.activationStateSha256 = activation.stateSha256) ∧
        (activation.routingInfluenceActive = true →
          ∀ l ∈ lease, (epoch : ℤ) < l.validThroughEpoch))

section Files

variable {policy : Option (Except PyError ReflexInfluencePolicyState)}
  {activation : Option (Except PyError ReflexActivationState)}
  {lease : Option (Except PyError ReflexRuntimeLease)}

theorem ReflexWorld.Files.setActivation (h : w.Files rt policy activation lease)
    (content : Option (Except PyError ReflexActivationState)) :
    (w.setControl .activation content).Files rt policy content lease where
  policy := by simpa [ReflexWorld.setControl] using h.policy
  activation := by simp [ReflexWorld.setControl]
  lease := by simpa [ReflexWorld.setControl] using h.lease
  ledger := by simpa [ReflexWorld.ledger, ReflexWorld.setControl] using h.ledger

theorem ReflexWorld.Files.dropLease (h : w.Files rt policy activation lease) :
    (w.setControl .lease none).Files rt policy activation none where
  policy := by simpa [ReflexWorld.setControl] using h.policy
  activation := by simpa [ReflexWorld.setControl] using h.activation
  lease := by simp [ReflexWorld.setControl]
  ledger := by simpa [ReflexWorld.ledger, ReflexWorld.setControl] using h.ledger

theorem ReflexWorld.Files.dropPolicy (h : w.Files rt policy activation lease) :
    (w.setControl .policy none).Files rt none activation lease where
  policy := by simp [ReflexWorld.setControl]
  activation := by simpa [ReflexWorld.setControl] using h.activation
  lease := by simpa [ReflexWorld.setControl] using h.lease
  ledger := by simpa [ReflexWorld.ledger, ReflexWorld.setControl] using h.ledger

theorem ReflexWorld.Files.settled {p : Option ReflexInfluencePolicyState}
    (h : w.Files rt policy none none) (hpolicy : checkedFile (validatePolicyState rt) policy = .ok p) :
    w.Settled rt epoch := by
  refine ⟨h.ledger, p, ?_, Or.inl ⟨h.activation, h.lease⟩⟩
  unfold ReflexWorld.policy
  rw [h.policy]
  exact hpolicy

theorem ReflexWorld.Files.settled_of_unleased {p : ReflexInfluencePolicyState}
    {state : ReflexActivationState} (h : w.Files rt (some (.ok p)) (some (.ok state)) none)
    (hpolicy : validatePolicyState rt p = .ok ()) (hstate : validateActivationState rt state = .ok ())
    (hbound : state.policyStateSha256 = p.stateSha256) : w.Settled rt epoch := by
  refine ⟨h.ledger, some p, ?_, Or.inr ⟨p, state, none, rfl, ?_, hbound, ?_, by simp, by simp⟩⟩
  · unfold ReflexWorld.policy
    rw [h.policy]
    exact checkedFile_ok hpolicy
  · unfold ReflexWorld.activation
    rw [h.activation]
    exact checkedFile_ok hstate
  · unfold ReflexWorld.lease
    rw [h.lease]
    rfl

/-- Appending to a valid ledger leaves a valid ledger.
SOURCE: reflex/control_plane.py:857-879 -/
theorem run_appendLedger (digest : ReflexWorld → ControlFile → String) (epoch : ℕ)
    (hrt : rt.LawfulDigest) (h : w.Files rt policy activation lease) (kind : String)
    (receipt : Row) :
    ∃ w', (appendLedger rt kind epoch receipt).run (ReflexOp.perform digest) w = (.ok (), w') ∧
      w'.Files rt policy activation lease := by
  obtain ⟨entries, hentries⟩ := h.ledger
  have hload : (loadLedger rt).run (ReflexOp.perform digest) w = (.ok entries, w) := by
    rw [run_loadLedger, hentries]
  obtain ⟨payload, hpayload⟩ : ∃ payload : Row, payload = [("sequence", .int (entries.length + 1 : ℕ)),
    ("kind", .str kind), ("evaluation_epoch", .int epoch),
    ("previous_entry_sha256", Json.optStr (ledgerHead rt entries)), ("receipt", .obj receipt)] :=
    ⟨_, rfl⟩
  obtain ⟨content, hcontent⟩ : ∃ content : List Json, content =
      (entries ++ [keptEntry payload (rt.sha256 (.obj payload))]).map .obj := ⟨_, rfl⟩
  have hrun : (appendLedger rt kind epoch receipt).run (ReflexOp.perform digest) w =
      (.ok (), w.setControl .ledger (some (.ok content))) := by
    rw [hcontent, hpayload]
    unfold appendLedger
    exact Prog.run_bind_of_ok hload
  have hraw : ∃ raw, loadLedgerLoop rt 1 none raw = .ok entries := by
    unfold ReflexWorld.ledger at hentries
    split at hentries
    · exact ⟨[], hentries⟩
    · cases hentries
    · exact ⟨_, hentries⟩
  obtain ⟨raw, hraw⟩ := hraw
  have hnohash : payload.lookup "entry_sha256" = none := by
    rw [hpayload]
    rfl
  have hentry : EntryValid rt (1 + entries.length) ((ledgerHead rt entries).or none)
      (keptEntry payload (rt.sha256 (.obj payload))) := by
    constructor
    · rw [lookup_keptEntry (by decide), hpayload]
      simp [equalsInt, Nat.add_comm]
    · rw [lookup_keptEntry (by decide), hpayload]
      cases ledgerHead rt entries <;> simp [List.lookup_cons, equalsOptStr, Json.optStr]
    · rw [textField_keptEntry rt hnohash]
      exact hrt.valid _ _ _
    · rw [textField_keptEntry rt hnohash, entryPayload_keptEntry hnohash]
  have hvalid := loadLedgerLoop_append hraw hnohash hentry
  refine ⟨_, hrun, ?_⟩
  constructor
  · simpa [ReflexWorld.setControl] using h.policy
  · simpa [ReflexWorld.setControl] using h.activation
  · simpa [ReflexWorld.setControl] using h.lease
  · refine ⟨entries ++ [keptEntry payload (rt.sha256 (.obj payload))], ?_⟩
    rw [← hcontent] at hvalid
    simpa [ReflexWorld.ledger, ReflexWorld.setControl] using hvalid

end Files

section Stages

variable {policyFile : Option (Except PyError ReflexInfluencePolicyState)}
  {activationFile : Option (Except PyError ReflexActivationState)}
  {leaseFile : Option (Except PyError ReflexRuntimeLease)}
  {policy : ReflexInfluencePolicyState} {activation : ReflexActivationState}
  {ledgerReset : Bool} {reason collapseReason : String}

/-- A run from the store returns and leaves it settled. -/
def Settles (rt : ReflexRuntime) (digest : ReflexWorld → ControlFile → String) (epoch : ℕ)
    (p : ReflexProg ReflexRecovery) (w : ReflexWorld) : Prop :=
  ∃ r w', p.run (ReflexOp.perform digest) w = (.ok r, w') ∧ w'.Settled rt epoch

/-- A run from the store raises. -/
def Raises {α : Type} (digest : ReflexWorld → ControlFile → String) (p : ReflexProg α)
    (w : ReflexWorld) : Prop :=
  ∃ e w', p.run (ReflexOp.perform digest) w = (.error e, w')

theorem settles_bind {α : Type} {p : ReflexProg α} {f : α → ReflexProg ReflexRecovery} {a : α}
    (hp : p.run (ReflexOp.perform digest) w = (.ok a, w')) (hf : Settles rt digest epoch (f a) w') :
    Settles rt digest epoch (p.bind f) w := by
  obtain ⟨r, w₁, hrun, hsettled⟩ := hf
  exact ⟨r, w₁, (Prog.run_bind_of_ok hp).trans hrun, hsettled⟩

theorem raises_bind {α β : Type} {p : ReflexProg α} {f : α → ReflexProg β} {a : α}
    (hp : p.run (ReflexOp.perform digest) w = (.ok a, w')) (hf : Raises digest (f a) w') :
    Raises digest (p.bind f) w := by
  obtain ⟨e, w₁, hrun⟩ := hf
  exact ⟨e, w₁, (Prog.run_bind_of_ok hp).trans hrun⟩

theorem raises_bind_first {α β : Type} {p : ReflexProg α} {f : α → ReflexProg β}
    (hp : Raises digest p w) : Raises digest (p.bind f) w := by
  obtain ⟨e, w₁, hrun⟩ := hp
  exact ⟨e, w₁, Prog.run_bind_of_error hrun⟩

theorem settles_rolledBack (hrt : rt.LawfulDigest)
    (h : w.Files rt policyFile activationFile leaseFile) {policySha activationSha related : Option String}
    (hsettled : ∀ w' : ReflexWorld, w'.Files rt policyFile activationFile leaseFile →
      w'.Settled rt epoch) :
    Settles rt digest epoch
      (rolledBack rt epoch reason ledgerReset policySha activationSha related) w := by
  obtain ⟨w', hrun, hfiles⟩ := run_appendLedger digest epoch hrt h "recovery"
    (controlReceipt rt "RECOVERY_ROLLBACK" reason epoch policySha activationSha related)
  exact settles_bind hrun ⟨_, w', rfl, hsettled w' hfiles⟩

theorem settles_quarantineActivation (hrt : rt.LawfulDigest)
    (h : w.Files rt policyFile activationFile leaseFile) {p : Option ReflexInfluencePolicyState}
    (hpolicy : checkedFile (validatePolicyState rt) policyFile = .ok p)
    {policySha activationSha : Option String} {related : Option String → Option String} :
    Settles rt digest epoch (quarantineActivation.bind fun found =>
      rolledBack rt epoch reason ledgerReset policySha activationSha (related found)) w := by
  have hrun : quarantineActivation.run (ReflexOp.perform digest) w =
      (.ok ((w.control .activation).map fun _ => digest w .activation),
        (w.setControl .activation none).setControl .lease none) := rfl
  exact settles_bind hrun (settles_rolledBack hrt (h.setActivation none).dropLease
    fun _ hfiles => hfiles.settled hpolicy)

/-- Collapsing an activation and recording it. -/
theorem run_collapse (digest : ReflexWorld → ControlFile → String) (epoch : ℕ)
    (removeLease : Bool) (hrt : rt.LawfulDigest)
    (h : w.Files rt (some (.ok policy)) activationFile leaseFile)
    {next : ReflexActivationState} {receipt : ReflexActivationReceipt}
    (hdeactivate : GovernedReflexRuntimeInfluence.deactivate rt policy activation reason =
      .ok (next, receipt)) :
    ∃ w', (collapse rt epoch policy activation reason removeLease).run (ReflexOp.perform digest) w =
        (.ok next, w') ∧
      w'.Files rt (some (.ok policy)) (some (.ok next)) (if removeLease then none else leaseFile) := by
  have hwritten : ∃ w₁ : ReflexWorld, w₁.Files rt (some (.ok policy)) (some (.ok next))
      (if removeLease then none else leaseFile) ∧
      (collapse rt epoch policy activation reason removeLease).run (ReflexOp.perform digest) w =
        ((appendLedger rt "activation" epoch receipt.toDict).bind fun _ => .ret next).run
          (ReflexOp.perform digest) w₁ := by
    unfold collapse
    rw [hdeactivate]
    cases removeLease with
    | false => exact ⟨_, h.setActivation (some (.ok next)), rfl⟩
    | true => exact ⟨_, (h.setActivation (some (.ok next))).dropLease, rfl⟩
  obtain ⟨w₁, hfiles, hrun⟩ := hwritten
  obtain ⟨w', happend, hfiles'⟩ := run_appendLedger digest epoch hrt hfiles "activation"
    receipt.toDict
  exact ⟨w', hrun.trans (Prog.run_bind_of_ok happend), hfiles'⟩

/-- Collapsing an activation and going on. -/
theorem settles_collapse (hrt : rt.LawfulDigest)
    (h : w.Files rt (some (.ok policy)) activationFile leaseFile) {removeLease : Bool}
    (hlease : removeLease = true ∨ leaseFile = none)
    (hpolicy : validatePolicyState rt policy = .ok ())
    (hstate : validateActivationState rt activation = .ok ())
    (hbound : activation.policyStateSha256 = policy.stateSha256) (hreason : strip reason ≠ "")
    (hrequest : (GovernedReflexRuntimeInfluence.requestOf activation).postInit = .ok ())
    {go : ReflexActivationState → ReflexProg ReflexRecovery}
    (hgo : ∀ (next : ReflexActivationState) (w' : ReflexWorld),
      w'.Files rt (some (.ok policy)) (some (.ok next)) none →
      (∀ w'' : ReflexWorld, w''.Files rt (some (.ok policy)) (some (.ok next)) none →
        w''.Settled rt epoch) → Settles rt digest epoch (go next) w') :
    Settles rt digest epoch
      ((collapse rt epoch policy activation reason removeLease).bind go) w := by
  obtain ⟨next, receipt, hdeactivate⟩ :=
    GovernedReflexRuntimeInfluence.deactivate_ok hpolicy hstate hbound hreason hrequest
  obtain ⟨hvalid, hscope⟩ := GovernedReflexRuntimeInfluence.deactivate_valid hrt hdeactivate
  obtain ⟨w', hrun, hfiles⟩ := run_collapse digest epoch removeLease hrt h hdeactivate
  have hgone : (if removeLease then none else leaseFile) = none := by
    rcases hlease with rfl | rfl <;> simp
  rw [hgone] at hfiles
  exact settles_bind hrun (hgo next w' hfiles
    fun _ hfiles' => hfiles'.settled_of_unleased hpolicy hvalid hscope)

theorem raises_collapse {removeLease : Bool} {go : ReflexActivationState → ReflexProg ReflexRecovery}
    (hrequest : (GovernedReflexRuntimeInfluence.requestOf activation).postInit ≠ .ok ()) :
    Raises digest ((collapse rt epoch policy activation reason removeLease).bind go) w := by
  obtain ⟨e, hdeactivate⟩ := GovernedReflexRuntimeInfluence.deactivate_error rt policy
    reason hrequest
  apply raises_bind_first
  unfold collapse
  rw [hdeactivate]
  exact ⟨e, w, rfl⟩

/-- Moving the lease away and collapsing the activation. -/
theorem settles_dropLease (hrt : rt.LawfulDigest)
    (h : w.Files rt (some (.ok policy)) (some (.ok activation)) leaseFile)
    (hpolicy : validatePolicyState rt policy = .ok ())
    (hstate : validateActivationState rt activation = .ok ())
    (hbound : activation.policyStateSha256 = policy.stateSha256)
    (hreason : strip collapseReason ≠ "")
    (hrequest : activation.routingInfluenceActive = true →
      (GovernedReflexRuntimeInfluence.requestOf activation).postInit = .ok ()) :
    Settles rt digest epoch
      (dropLease rt epoch ledgerReset policy activation collapseReason reason) w := by
  have hrun : (ReflexProg.quarantine .lease).run (ReflexOp.perform digest) w =
      (.ok ((w.control .lease).map fun _ => digest w .lease), w.setControl .lease none) := rfl
  unfold dropLease
  apply settles_bind hrun
  by_cases hactive : activation.routingInfluenceActive = true
  · rw [if_pos hactive]
    apply settles_collapse hrt h.dropLease (Or.inr rfl) hpolicy hstate hbound hreason
      (hrequest hactive)
    intro next w' hfiles hsettled
    exact settles_rolledBack hrt hfiles hsettled
  · rw [if_neg hactive]
    exact settles_rolledBack hrt h.dropLease fun _ hfiles =>
      hfiles.settled_of_unleased hpolicy hstate hbound

theorem raises_dropLease (hactive : activation.routingInfluenceActive = true)
    (hrequest : (GovernedReflexRuntimeInfluence.requestOf activation).postInit ≠ .ok ()) :
    Raises digest (dropLease rt epoch ledgerReset policy activation collapseReason reason) w := by
  have hrun : (ReflexProg.quarantine .lease).run (ReflexOp.perform digest) w =
      (.ok ((w.control .lease).map fun _ => digest w .lease), w.setControl .lease none) := rfl
  unfold dropLease
  apply raises_bind hrun
  rw [if_pos hactive]
  exact raises_collapse hrequest

/-- A lease that makes a recovery collapse the activation. -/
def LeaseOver (epoch : ℕ) (activation : ReflexActivationState) (lease : Option ReflexRuntimeLease) :
    Prop :=
  ∃ l ∈ lease, l.activationStateSha256 ≠ activation.stateSha256 ∨ l.validThroughEpoch ≤ epoch

/-- A recovery from the lease on.
SOURCE: reflex/control_plane.py:680-776 -/
theorem settles_recoverLease (hrt : rt.LawfulDigest)
    (h : w.Files rt (some (.ok policy)) (some (.ok activation)) leaseFile)
    {lease : Option ReflexRuntimeLease}
    (hleaseFile : checkedFile (validateLease rt) leaseFile = .ok lease)
    (hpolicy : validatePolicyState rt policy = .ok ())
    (hstate : validateActivationState rt activation = .ok ())
    (hbound : activation.policyStateSha256 = policy.stateSha256)
    (hrequest : activation.routingInfluenceActive = true →
      (ledgerReset = true ∨ LeaseOver epoch activation lease) →
      (GovernedReflexRuntimeInfluence.requestOf activation).postInit = .ok ()) :
    Settles rt digest epoch (recoverLease rt epoch ledgerReset policy activation lease) w := by
  unfold recoverLease
  by_cases hscope : lease.any (·.activationStateSha256 ≠ activation.stateSha256) = true
  · rw [if_pos hscope]
    obtain ⟨l, hl, hne⟩ := (Option.any_eq_true _ _).mp hscope
    exact settles_dropLease hrt h hpolicy hstate hbound (by decide +kernel)
      fun hactive => hrequest hactive (Or.inr ⟨l, hl, Or.inl (of_decide_eq_true hne)⟩)
  · rw [if_neg hscope]
    by_cases hover : activation.routingInfluenceActive = true ∧
        lease.any (·.validThroughEpoch ≤ (epoch : ℤ)) = true
    · rw [if_pos hover]
      obtain ⟨l, hl, hle⟩ := (Option.any_eq_true _ _).mp hover.2
      apply settles_collapse hrt h (Or.inl rfl) hpolicy hstate hbound (by decide +kernel)
        (hrequest hover.1 (Or.inr ⟨l, hl, Or.inr (of_decide_eq_true hle)⟩))
      intro next w' hfiles hsettled
      obtain ⟨w'', hrun, hfiles'⟩ := run_appendLedger digest epoch hrt hfiles "control"
        (controlReceipt rt "LEASE_EXPIRED" "runtime_privilege_collapsed_at_lease_deadline" epoch
          policy.stateSha256 next.stateSha256 (lease.map (·.leaseSha256)))
      exact settles_bind hrun ⟨_, w'', rfl, hsettled w'' hfiles'⟩
    · rw [if_neg hover]
      by_cases hreset : ledgerReset = true ∧ activation.routingInfluenceActive = true
      · rw [if_pos hreset]
        apply settles_collapse hrt h (Or.inl rfl) hpolicy hstate hbound (by decide +kernel)
          (hrequest hreset.2 (Or.inl hreset.1))
        intro next w' hfiles hsettled
        exact settles_rolledBack hrt hfiles hsettled
      · rw [if_neg hreset]
        refine ⟨_, w, rfl, h.ledger, some policy, ?_, Or.inr ⟨policy, activation, lease, rfl, ?_,
          hbound, ?_, ?_, ?_⟩⟩
        · unfold ReflexWorld.policy
          rw [h.policy]
          exact checkedFile_ok hpolicy
        · unfold ReflexWorld.activation
          rw [h.activation]
          exact checkedFile_ok hstate
        · unfold ReflexWorld.lease
          rw [h.lease]
          exact hleaseFile
        · intro l hl
          by_contra hne
          exact hscope ((Option.any_eq_true _ _).mpr ⟨l, hl, decide_eq_true hne⟩)
        · intro hactive l hl
          by_contra hle
          exact hover ⟨hactive, (Option.any_eq_true _ _).mpr ⟨l, hl, decide_eq_true (not_lt.mp hle)⟩⟩

/-- It raises where it would collapse an activation whose request is not valid. -/
theorem raises_recoverLease {lease : Option ReflexRuntimeLease}
    (hactive : activation.routingInfluenceActive = true)
    (hdoubt : ledgerReset = true ∨ LeaseOver epoch activation lease)
    (hrequest : (GovernedReflexRuntimeInfluence.requestOf activation).postInit ≠ .ok ()) :
    Raises digest (recoverLease rt epoch ledgerReset policy activation lease) w := by
  unfold recoverLease
  by_cases hscope : lease.any (·.activationStateSha256 ≠ activation.stateSha256) = true
  · rw [if_pos hscope]
    exact raises_dropLease hactive hrequest
  · rw [if_neg hscope]
    by_cases hover : activation.routingInfluenceActive = true ∧
        lease.any (·.validThroughEpoch ≤ (epoch : ℤ)) = true
    · rw [if_pos hover]
      exact raises_collapse hrequest
    · rw [if_neg hover]
      have hreset : ledgerReset = true := by
        rcases hdoubt with hreset | ⟨l, hl, hne | hle⟩
        · exact hreset
        · exact absurd ((Option.any_eq_true _ _).mpr ⟨l, hl, decide_eq_true hne⟩) hscope
        · exact absurd ⟨hactive, (Option.any_eq_true _ _).mpr ⟨l, hl, decide_eq_true hle⟩⟩ hover
      rw [if_pos ⟨hreset, hactive⟩]
      exact raises_collapse hrequest

end Stages

/-! ## What a recovery handles -/

/-- The policy and the activation are valid and bound to each other. -/
structure ReflexWorld.Bound (rt : ReflexRuntime) (w : ReflexWorld)
    (policy : ReflexInfluencePolicyState) (activation : ReflexActivationState) : Prop where
  policyFile : w.policy rt = .ok (some policy)
  activationFile : w.activation rt = .ok (some activation)
  policyBound : activation.policyStateSha256 = policy.stateSha256

/-- `except ReflexControlPlaneContractError` catches the error. -/
abbrev PyError.Caught (e : PyError) : Prop := e.cls = .reflexControlPlaneContractError

/-- Something besides the activation makes a recovery collapse it: the ledger is lost, or the lease
is invalid, bound to another activation, or over. -/
def ReflexWorld.Doubted (rt : ReflexRuntime) (epoch : ℕ) (ledgerLost : Prop) (w : ReflexWorld)
    (activation : ReflexActivationState) : Prop :=
  ledgerLost ∨ (∃ e, w.lease rt = .error e) ∨
    ∃ lease, w.lease rt = .ok lease ∧ LeaseOver epoch activation lease

/-- What a recovery handles from the activation on. -/
structure ReflexWorld.ActivationHandled (rt : ReflexRuntime) (epoch : ℕ) (ledgerLost : Prop)
    (w : ReflexWorld) : Prop where
  activation : ∀ e, w.activation rt = .error e → e.Caught
  lease : ∀ policy activation e, w.Bound rt policy activation → w.lease rt = .error e → e.Caught
  request : ∀ policy activation, w.Bound rt policy activation →
    activation.routingInfluenceActive = true → w.Doubted rt epoch ledgerLost activation →
      (GovernedReflexRuntimeInfluence.requestOf activation).postInit = .ok ()

/-- What a recovery handles: each refusal of a file that it meets is one that it catches, and an
activation that it has to collapse has a valid request. -/
structure ReflexWorld.Handled (rt : ReflexRuntime) (epoch : ℕ) (w : ReflexWorld) : Prop where
  ledger : ∀ e, w.ledger rt = .error e → e.Caught
  policy : ∀ e, w.policy rt = .error e → e.Caught
  rest : ∀ policy, w.policy rt = .ok policy →
    w.ActivationHandled rt epoch (∃ e, w.ledger rt = .error e)

section Handled

variable {ledgerReset : Bool}

/-- A run settles under the condition and raises without it. -/
def SettlesIff (rt : ReflexRuntime) (digest : ReflexWorld → ControlFile → String) (epoch : ℕ)
    (condition : Prop) (p : ReflexProg ReflexRecovery) (w : ReflexWorld) : Prop :=
  condition ∧ Settles rt digest epoch p w ∨ ¬ condition ∧ Raises digest p w

theorem ReflexWorld.files_self (hledger : ∃ entries, w.ledger rt = .ok entries) :
    w.Files rt (w.control .policy) (w.control .activation) (w.control .lease) :=
  ⟨rfl, rfl, rfl, hledger⟩

theorem ReflexWorld.files_dropLedger (w : ReflexWorld) : (w.setControl .ledger none).Files rt
    (w.control .policy) (w.control .activation) (w.control .lease) where
  policy := by simp [ReflexWorld.setControl]
  activation := by simp [ReflexWorld.setControl]
  lease := by simp [ReflexWorld.setControl]
  ledger := ⟨[], by simp [ReflexWorld.ledger, ReflexWorld.setControl]⟩

theorem valid_of_checkedFile {α : Type} {validate : α → Except PyError Unit}
    {content : Option (Except PyError α)} {item : α}
    (h : checkedFile validate content = .ok (some item)) : validate item = .ok () := by
  have hcontent := control_of_checkedFile h
  subst hcontent
  obtain ⟨_, hvalid, -⟩ := bind_eq_ok.mp h
  exact hvalid

theorem settlesIff_of_load {α : Type} {condition : Prop} {p : ReflexProg α}
    {handler : ReflexProg ReflexRecovery} {go : α → ReflexProg ReflexRecovery} {a : α}
    (hload : p.run (ReflexOp.perform digest) w = (.ok a, w))
    (hgo : SettlesIff rt digest epoch condition (go a) w) :
    SettlesIff rt digest epoch condition (onContractError p handler go) w := by
  unfold SettlesIff Settles Raises at hgo ⊢
  rw [run_onContractError_ok hload]
  exact hgo

theorem settlesIff_of_refusal {α : Type} {condition : Prop} {p : ReflexProg α}
    {handler : ReflexProg ReflexRecovery} {go : α → ReflexProg ReflexRecovery} {e : PyError}
    (hload : p.run (ReflexOp.perform digest) w = (.error e, w)) (hcondition : condition → e.Caught)
    (hhandler : e.Caught → SettlesIff rt digest epoch condition handler w) :
    SettlesIff rt digest epoch condition (onContractError p handler go) w := by
  have hrun := @run_onContractError_error w digest _ _ p handler go e hload
  unfold SettlesIff Settles Raises at hhandler ⊢
  by_cases hcaught : e.Caught
  · rw [hrun, if_pos hcaught]
    exact hhandler hcaught
  · rw [if_neg hcaught] at hrun
    exact Or.inr ⟨fun h => hcaught (hcondition h), e, w, hrun⟩

/-- A recovery over a valid policy and a valid activation that are bound to each other.
SOURCE: reflex/control_plane.py:645-776 -/
theorem settlesIff_of_bound (hrt : rt.LawfulDigest)
    (hledger : ∃ entries, w.ledger rt = .ok entries) {policy : ReflexInfluencePolicyState}
    {activation : ReflexActivationState} (hbound : w.Bound rt policy activation) :
    SettlesIff rt digest epoch (w.ActivationHandled rt epoch (ledgerReset = true))
      (onContractError (loadLease rt)
        (dropLease rt epoch ledgerReset policy activation "invalid_lease_fail_closed"
          "invalid_lease_quarantined")
        (recoverLease rt epoch ledgerReset policy activation)) w := by
  have hfiles := ReflexWorld.files_self hledger
  rw [control_of_checkedFile hbound.policyFile, control_of_checkedFile hbound.activationFile] at hfiles
  have hpolicy := valid_of_checkedFile hbound.policyFile
  have hstate := valid_of_checkedFile hbound.activationFile
  have hload := @run_loadLease rt w digest
  have hhandled : (∀ e, w.lease rt = .error e → e.Caught) →
      (activation.routingInfluenceActive = true →
        w.Doubted rt epoch (ledgerReset = true) activation →
          (GovernedReflexRuntimeInfluence.requestOf activation).postInit = .ok ()) →
      w.ActivationHandled rt epoch (ledgerReset = true) := by
    intro hlease hrequest
    refine ⟨?_, fun _ _ e _ herror => hlease e herror, ?_⟩
    · intro e herror
      rw [hbound.activationFile] at herror
      cases herror
    · intro p a hother
      have hsame := hbound.activationFile.symm.trans hother.activationFile
      cases hsame
      exact hrequest
  cases hlease : w.lease rt with
  | error e =>
      rw [hlease] at hload
      apply settlesIff_of_refusal hload fun h => h.lease _ _ e hbound hlease
      intro hcaught
      by_cases hbad : activation.routingInfluenceActive = true ∧
          (GovernedReflexRuntimeInfluence.requestOf activation).postInit ≠ .ok ()
      · have hdoubted : w.Doubted rt epoch (ledgerReset = true) activation :=
          Or.inr (Or.inl ⟨e, hlease⟩)
        exact Or.inr ⟨fun h => hbad.2 (h.request _ _ hbound hbad.1 hdoubted),
          raises_dropLease hbad.1 hbad.2⟩
      · have hrequest : activation.routingInfluenceActive = true →
            (GovernedReflexRuntimeInfluence.requestOf activation).postInit = .ok () :=
          fun hactive => not_not.mp fun hne => hbad ⟨hactive, hne⟩
        refine Or.inl ⟨hhandled ?_ fun hactive _ => hrequest hactive,
          settles_dropLease hrt hfiles hpolicy hstate hbound.policyBound (by decide +kernel) hrequest⟩
        intro e' herror
        rw [hlease] at herror
        cases herror
        exact hcaught
  | ok lease =>
      rw [hlease] at hload
      apply settlesIff_of_load hload
      by_cases hbad : activation.routingInfluenceActive = true ∧
          (ledgerReset = true ∨ LeaseOver epoch activation lease) ∧
          (GovernedReflexRuntimeInfluence.requestOf activation).postInit ≠ .ok ()
      · obtain ⟨hactive, hdoubt, hne⟩ := hbad
        have hdoubted : w.Doubted rt epoch (ledgerReset = true) activation := by
          rcases hdoubt with hreset | hover
          · exact Or.inl hreset
          · exact Or.inr (Or.inr ⟨lease, hlease, hover⟩)
        exact Or.inr ⟨fun h => hne (h.request _ _ hbound hactive hdoubted),
          raises_recoverLease hactive hdoubt hne⟩
      · have hrequest : activation.routingInfluenceActive = true →
            (ledgerReset = true ∨ LeaseOver epoch activation lease) →
            (GovernedReflexRuntimeInfluence.requestOf activation).postInit = .ok () :=
          fun hactive hdoubt => not_not.mp fun hne => hbad ⟨hactive, hdoubt, hne⟩
        refine Or.inl ⟨hhandled ?_ ?_, settles_recoverLease hrt hfiles hlease hpolicy hstate
          hbound.policyBound hrequest⟩
        · intro e herror
          rw [hlease] at herror
          cases herror
        · rintro hactive (hreset | ⟨e, herror⟩ | ⟨l, hfound, hover⟩)
          · exact hrequest hactive (Or.inl hreset)
          · rw [hlease] at herror
            cases herror
          · rw [hlease] at hfound
            cases hfound
            exact hrequest hactive (Or.inr hover)

/-- A recovery from the activation on.
SOURCE: reflex/control_plane.py:581-776 -/
theorem settlesIff_recoverActivation (digest : ReflexWorld → ControlFile → String) (epoch : ℕ)
    (ledgerReset : Bool) (hrt : rt.LawfulDigest)
    (hledger : ∃ entries, w.ledger rt = .ok entries) {policy : Option ReflexInfluencePolicyState}
    (hpolicy : w.policy rt = .ok policy) :
    SettlesIff rt digest epoch (w.ActivationHandled rt epoch (ledgerReset = true))
      (recoverActivation rt epoch ledgerReset policy) w := by
  have hfiles := ReflexWorld.files_self hledger
  have hload := @run_loadActivation rt w digest
  have hmoved : ∀ {reason : String} {policySha activationSha : Option String},
      Settles rt digest epoch (quarantineActivation.bind fun related =>
        rolledBack rt epoch reason ledgerReset policySha activationSha related) w :=
    settles_quarantineActivation hrt hfiles hpolicy
  unfold recoverActivation
  cases hactivation : w.activation rt with
  | error e =>
      rw [hactivation] at hload
      apply settlesIff_of_refusal hload fun h => h.activation e hactivation
      intro hcaught
      refine Or.inl ⟨⟨?_, ?_, ?_⟩, hmoved⟩
      · intro e' herror
        rw [hactivation] at herror
        cases herror
        exact hcaught
      · rintro _ _ _ ⟨-, hfile, -⟩
        rw [hactivation] at hfile
        cases hfile
      · rintro _ _ ⟨-, hfile, -⟩
        rw [hactivation] at hfile
        cases hfile
  | ok found =>
      rw [hactivation] at hload
      apply settlesIff_of_load hload
      -- without a bound activation nothing is left to be refused
      have hunbound : (∀ p activation, ¬ w.Bound rt p activation) →
          w.ActivationHandled rt epoch (ledgerReset = true) := by
        intro hnone
        refine ⟨?_, fun _ _ _ hbound => absurd hbound (hnone _ _),
          fun _ _ hbound => absurd hbound (hnone _ _)⟩
        intro e herror
        rw [hactivation] at herror
        cases herror
      cases found with
      | none =>
          have hrun : (ReflexProg.quarantine .lease).run (ReflexOp.perform digest) w =
            (.ok ((w.control .lease).map fun _ => digest w .lease), w.setControl .lease none) := rfl
          refine Or.inl ⟨hunbound ?_, settles_bind hrun ⟨_, _, rfl, ?_⟩⟩
          · rintro _ _ ⟨-, hfile, -⟩
            rw [hactivation] at hfile
            cases hfile
          · have hnone := control_of_checkedFile hactivation
            rw [hnone] at hfiles
            exact hfiles.dropLease.settled hpolicy
      | some activation =>
          cases policy with
          | none =>
              refine Or.inl ⟨hunbound ?_, hmoved⟩
              rintro _ _ ⟨hfile, -, -⟩
              rw [hpolicy] at hfile
              cases hfile
          | some policy =>
              dsimp only
              by_cases hscope : activation.policyStateSha256 = policy.stateSha256
              · rw [if_neg (not_not_intro hscope)]
                exact settlesIff_of_bound hrt hledger ⟨hpolicy, hactivation, hscope⟩
              · rw [if_pos hscope]
                refine Or.inl ⟨hunbound ?_, hmoved⟩
                rintro p a ⟨hfile, hfile', hbound⟩
                rw [hpolicy] at hfile
                rw [hactivation] at hfile'
                cases hfile
                cases hfile'
                exact hscope hbound

theorem ReflexWorld.ActivationHandled.transfer {lost lost' : Prop}
    (h : w.ActivationHandled rt epoch lost) (hpolicy : w'.policy rt = w.policy rt)
    (hactivation : w'.activation rt = w.activation rt) (hlease : w'.lease rt = w.lease rt)
    (hlost : lost' → lost) : w'.ActivationHandled rt epoch lost' := by
  have hbound : ∀ policy activation, w'.Bound rt policy activation → w.Bound rt policy activation :=
    fun _ _ hw' => ⟨hpolicy ▸ hw'.policyFile, hactivation ▸ hw'.activationFile, hw'.policyBound⟩
  constructor
  · exact fun e herror => h.activation e (hactivation ▸ herror)
  · exact fun p a e hw' herror => h.lease p a e (hbound p a hw') (hlease ▸ herror)
  · intro p a hw' hactive hdoubted
    apply h.request p a (hbound p a hw') hactive
    rcases hdoubted with hreset | ⟨e, herror⟩ | ⟨l, hfound, hover⟩
    · exact Or.inl (hlost hreset)
    · exact Or.inr (Or.inl ⟨e, hlease ▸ herror⟩)
    · exact Or.inr (Or.inr ⟨l, hlease ▸ hfound, hover⟩)

/-- A recovery from the policy on.
SOURCE: reflex/control_plane.py:558-776 -/
theorem settlesIff_recoverPolicy (digest : ReflexWorld → ControlFile → String) (epoch : ℕ)
    (ledgerReset : Bool) (hrt : rt.LawfulDigest)
    (hledger : ∃ entries, w.ledger rt = .ok entries) :
    SettlesIff rt digest epoch ((∀ e, w.policy rt = .error e → e.Caught) ∧
        ∀ policy, w.policy rt = .ok policy → w.ActivationHandled rt epoch (ledgerReset = true))
      (onContractError (loadPolicy rt)
        ((ReflexProg.quarantine .policy).bind fun related => quarantineActivation.bind fun _ =>
          rolledBack rt epoch "invalid_policy_state_quarantined" ledgerReset none none related)
        (recoverActivation rt epoch ledgerReset)) w := by
  have hload := @run_loadPolicy rt w digest
  cases hpolicy : w.policy rt with
  | error e =>
      rw [hpolicy] at hload
      apply settlesIff_of_refusal hload fun h => h.1 e rfl
      intro hcaught
      have hrun : (ReflexProg.quarantine .policy).run (ReflexOp.perform digest) w =
          (.ok ((w.control .policy).map fun _ => digest w .policy), w.setControl .policy none) := rfl
      have hfiles := (ReflexWorld.files_self hledger).dropPolicy
      refine Or.inl ⟨⟨?_, ?_⟩, settles_bind hrun (settles_quarantineActivation hrt hfiles rfl)⟩
      · intro e' herror
        cases herror
        exact hcaught
      · intro policy hfound
        cases hfound
  | ok policy =>
      rw [hpolicy] at hload
      apply settlesIff_of_load hload
      have hrest := settlesIff_recoverActivation digest epoch ledgerReset hrt hledger hpolicy
      have hiff : ((∀ e : PyError, Except.ok policy = Except.error e → e.Caught) ∧
          ∀ p, (Except.ok policy : Except PyError _) = Except.ok p →
            w.ActivationHandled rt epoch (ledgerReset = true)) ↔
          w.ActivationHandled rt epoch (ledgerReset = true) := by
        constructor
        · exact fun h => h.2 policy rfl
        · intro h
          refine ⟨?_, fun _ _ => h⟩
          intro e herror
          cases herror
      unfold SettlesIff at hrest ⊢
      rwa [hiff]

/-- **What a recovery makes of the files.** It returns and leaves them settled if it
handles what it meets, and raises if it does not.
SOURCE: reflex/control_plane.py:547-776 -/
theorem settlesIff_recover (digest : ReflexWorld → ControlFile → String) (epoch : ℕ)
    (w : ReflexWorld) (hrt : rt.LawfulDigest) : SettlesIff rt digest epoch (w.Handled rt epoch) (recover rt epoch) w := by
  have hload := @run_loadLedger rt w digest
  cases hledger : w.ledger rt with
  | ok entries =>
      rw [hledger] at hload
      have hrest := settlesIff_recoverPolicy digest epoch false hrt ⟨entries, hledger⟩
      have hrun : ∀ handler : ReflexProg Bool,
          (onContractError (loadLedger rt) handler fun _ => .ret false).run
            (ReflexOp.perform digest) w = (.ok false, w) := fun _ => run_onContractError_ok hload
      have hlost : (∃ e, w.ledger rt = .error e) ↔ false = true := by simp [hledger]
      have hiff : w.Handled rt epoch ↔ ((∀ e, w.policy rt = .error e → e.Caught) ∧
          ∀ policy, w.policy rt = .ok policy → w.ActivationHandled rt epoch (false = true)) := by
        rw [← hlost]
        constructor
        · exact fun h => ⟨h.policy, h.rest⟩
        · rintro ⟨hpolicy, hrest⟩
          refine ⟨?_, hpolicy, hrest⟩
          intro e herror
          rw [hledger] at herror
          cases herror
      unfold recover
      rcases hrest with ⟨hcondition, hsettles⟩ | ⟨hcondition, hraises⟩
      · exact Or.inl ⟨hiff.mpr hcondition, settles_bind (hrun _) hsettles⟩
      · exact Or.inr ⟨fun h => hcondition (hiff.mp h), raises_bind (hrun _) hraises⟩
  | error e =>
      rw [hledger] at hload
      by_cases hcaught : e.Caught
      · have hrest := settlesIff_recoverPolicy digest epoch true hrt w.files_dropLedger.ledger
        have hrun : ∀ go : List Row → ReflexProg Bool,
            (onContractError (loadLedger rt) ((ReflexProg.quarantine .ledger).bind fun _ =>
              .ret true) go).run (ReflexOp.perform digest) w =
                (.ok true, w.setControl .ledger none) := by
          intro go
          rw [run_onContractError_error hload, if_pos hcaught]
          rfl
        have hpolicy : (w.setControl .ledger none).policy rt = w.policy rt := by
          simp [ReflexWorld.policy, ReflexWorld.setControl]
        have hactivation : (w.setControl .ledger none).activation rt = w.activation rt := by
          simp [ReflexWorld.activation, ReflexWorld.setControl]
        have hlease : (w.setControl .ledger none).lease rt = w.lease rt := by
          simp [ReflexWorld.lease, ReflexWorld.setControl]
        rw [hpolicy] at hrest
        unfold recover
        rcases hrest with ⟨⟨hcondition, hhandled⟩, hsettles⟩ | ⟨hcondition, hraises⟩
        · refine Or.inl ⟨⟨?_, hcondition, ?_⟩, settles_bind (hrun _) hsettles⟩
          · intro e' herror
            rw [hledger] at herror
            cases herror
            exact hcaught
          · intro policy hfound
            exact (hhandled policy hfound).transfer hpolicy.symm hactivation.symm hlease.symm
              fun _ => rfl
        · refine Or.inr ⟨fun h => hcondition ⟨h.policy, ?_⟩, raises_bind (hrun _) hraises⟩
          intro policy hfound
          exact (h.rest policy hfound).transfer hpolicy hactivation hlease fun _ => ⟨e, hledger⟩
      · refine Or.inr ⟨fun h => hcaught (h.ledger e hledger), raises_bind_first ⟨e, w, ?_⟩⟩
        rw [run_onContractError_error hload, if_neg hcaught]

/-- A recovery finds a settled store valid and changes nothing.
SOURCE: reflex/control_plane.py:547-776 -/
theorem run_recover_of_settled (h : w.Settled rt epoch) :
    (recover rt epoch).run (ReflexOp.perform digest) w =
        (.ok ⟨"ACTIVE", "persisted_runtime_state_valid", false⟩, w) ∧
      (∃ policy activation lease, w.Live rt epoch policy activation lease) ∨
    (∃ reason, (recover rt epoch).run (ReflexOp.perform digest) w =
      (.ok ⟨"INACTIVE", reason, false⟩, w)) ∧ w.Collapsed := by
  obtain ⟨⟨entries, hledger⟩, policy, hpolicy, ⟨hnone, hunleased⟩ | ⟨p, activation, lease, rfl,
    hactivation, hscope, hlease, hbound, hopen⟩⟩ := h
  · right
    have hload := @run_loadActivation rt w digest
    have hempty : w.activation rt = .ok none := by
      unfold ReflexWorld.activation
      rw [hnone]
      rfl
    have hsame : w.setControl .lease none = w := by
      unfold ReflexWorld.setControl
      rw [← hunleased, Function.update_eq_self]
    rw [hempty] at hload
    refine ⟨⟨"no_activation_state", ?_⟩, ?_⟩
    · rw [run_recover_of_valid hledger hpolicy]
      unfold recoverActivation
      rw [run_onContractError_ok hload]
      have hrun : (ReflexProg.quarantine .lease).run (ReflexOp.perform digest) w =
          (.ok ((w.control .lease).map fun _ => digest w .lease), w.setControl .lease none) := rfl
      rw [hsame] at hrun
      exact Prog.run_bind_of_ok hrun
    · intro state hstate
      rw [hnone] at hstate
      cases hstate
  · have hrun := (@run_recover_of_valid rt w digest epoch _ _ hledger hpolicy).trans
      (@run_recoverActivation_of_bound rt w digest epoch false p activation lease hactivation hscope
        hlease)
    rw [recoverLease_of_open hbound hopen] at hrun
    by_cases hactive : activation.routingInfluenceActive = true
    · left
      rw [if_pos hactive] at hrun
      exact ⟨hrun, p, activation, lease, hpolicy, hactivation, hlease, ⟨entries, hledger⟩, hactive,
        hscope, hbound, hopen hactive⟩
    · right
      rw [if_neg hactive] at hrun
      exact ⟨⟨_, hrun⟩, collapsed_of_inactive (control_of_checkedFile hactivation) hactive⟩

end Handled

/-! ## Total, idempotent, fail-closed -/

/-- One of the files is refused, or two of them are not of one scope. -/
def ReflexWorld.InvalidOrMismatched (rt : ReflexRuntime) (w : ReflexWorld) : Prop :=
  (∃ e, w.policy rt = .error e) ∨ (∃ e, w.activation rt = .error e) ∨
  (∃ e, w.lease rt = .error e) ∨ (∃ e, w.ledger rt = .error e) ∨
  (∃ activation, w.activation rt = .ok (some activation) ∧
    ∀ policy, w.policy rt = .ok (some policy) → activation.policyStateSha256 ≠ policy.stateSha256) ∨
  ∃ lease, w.lease rt = .ok (some lease) ∧ ∀ activation, w.activation rt = .ok (some activation) →
    lease.activationStateSha256 ≠ activation.stateSha256

/-- A recovery reports the stored state as it is: active where it is live, else inactive. -/
def ReflexWorld.Reported (rt : ReflexRuntime) (epoch : ℕ) (r : ReflexRecovery) (w : ReflexWorld) :
    Prop :=
  r.ledgerReset = false ∧
    (r.status = "ACTIVE" ∧ (∃ policy activation lease, w.Live rt epoch policy activation lease) ∨
      r.status = "INACTIVE" ∧ w.Collapsed)

/-- The recovery returns; if a file was invalid or mismatched it leaves no activation active; and a
second recovery changes nothing and reports a valid state. -/
def RecoversTotally (rt : ReflexRuntime) (digest : ReflexWorld → ControlFile → String) (epoch : ℕ)
    (w : ReflexWorld) : Prop :=
  ∃ r w', (recover rt epoch).run (ReflexOp.perform digest) w = (.ok r, w') ∧
    (w.InvalidOrMismatched rt → w'.Collapsed) ∧
    ∃ r', (recover rt epoch).run (ReflexOp.perform digest) w' = (.ok r', w') ∧
      w'.Reported rt epoch r'

/-- The files of a live activation are valid and of one scope. -/
theorem ReflexWorld.Live.not_invalidOrMismatched {policy : ReflexInfluencePolicyState}
    {activation : ReflexActivationState} {lease : Option ReflexRuntimeLease}
    (h : w.Live rt epoch policy activation lease) : ¬ w.InvalidOrMismatched rt := by
  obtain ⟨hpolicy, hactivation, hlease, ⟨entries, hledger⟩, -, hscope, hbound, -⟩ := h
  rintro (⟨e, herror⟩ | ⟨e, herror⟩ | ⟨e, herror⟩ | ⟨e, herror⟩ | ⟨a, hfound, hmismatch⟩ |
    ⟨l, hfound, hmismatch⟩)
  · rw [hpolicy] at herror
    cases herror
  · rw [hactivation] at herror
    cases herror
  · rw [hlease] at herror
    cases herror
  · rw [hledger] at herror
    cases herror
  · rw [hactivation] at hfound
    cases hfound
    exact hmismatch policy hpolicy hscope
  · rw [hlease] at hfound
    cases hfound
    exact hmismatch activation hactivation (hbound l rfl)

/-- MAIN: **Recovery is total, idempotent and fail-closed where it handles what it meets.** For every
content of the four files and every epoch, the recovery returns, collapses what is invalid or
mismatched, and leaves what a second recovery finds valid and does not change, if and only if every
refusal of a file that it meets is of the class that it catches and an activation that it has to
collapse has a valid request.
SOURCE: reflex/control_plane.py:547-797 -/
theorem recoversTotally_iff_handled (hrt : rt.LawfulDigest)
    (digest : ReflexWorld → ControlFile → String) (epoch : ℕ) (w : ReflexWorld) :
    RecoversTotally rt digest epoch w ↔ w.Handled rt epoch := by
  constructor
  · rintro ⟨r, w', hrun, -⟩
    rcases settlesIff_recover digest epoch w hrt with ⟨hhandled, -⟩ | ⟨-, e, w₁, hraise⟩
    · exact hhandled
    · rw [hrun] at hraise
      cases hraise
  · intro hhandled
    rcases settlesIff_recover digest epoch w hrt with ⟨-, r, w', hrun, hsettled⟩ | ⟨hnot, -⟩
    · refine ⟨r, w', hrun, ?_, ?_⟩
      · intro hinvalid
        by_contra hlive
        obtain ⟨rfl, policy, activation, lease, hw⟩ := live_of_recover (ends_of_run hrun) hlive
        exact hw.not_invalidOrMismatched hinvalid
      · rcases @run_recover_of_settled rt w' epoch digest hsettled with
          ⟨hsecond, hlive⟩ | ⟨⟨reason, hsecond⟩, hcollapsed⟩
        · exact ⟨_, hsecond, rfl, Or.inl ⟨rfl, hlive⟩⟩
        · exact ⟨_, hsecond, rfl, Or.inr ⟨rfl, hcollapsed⟩⟩
    · exact absurd hhandled hnot

/-! ### A policy with a wrong hash -/

theorem zeroKeyRuntime_lawfulDigest : zeroKeyRuntime.LawfulDigest where
  valid := by
    intro json cls label
    show validateSha256 cls commonSha256 label = .ok ()
    unfold validateSha256
    exact bind_eq_ok.mpr ⟨(), raiseIf_eq_ok.mpr (by decide +kernel),
      raiseIf_eq_ok.mpr (by decide +kernel)⟩

/-- The control files, with a policy whose hash is not that of its contents. -/
def unsealedWorld : ReflexWorld where
  dirs := fun _ => .empty
  control := fun
    | .policy => some (.ok { routerPolicy with stateSha256 := "" })
    | .activation => some (.ok routerActivation)
    | .lease => some (.ok routerLease)
    | .ledger => none

/-- COUNTEREXAMPLE: The policy's hash is wrong, and the recovery raises. -/
theorem recover_raises_on_unsealed_policy :
    ¬ ∀ (rt : ReflexRuntime) (digest : ReflexWorld → ControlFile → String) (epoch : ℕ)
      (w : ReflexWorld), rt.LawfulDigest → RecoversTotally rt digest epoch w := by
  intro hclaim
  have hhandled := (recoversTotally_iff_handled zeroKeyRuntime_lawfulDigest _ _ _).mp
    (hclaim zeroKeyRuntime (fun _ _ => "") 0 unsealedWorld zeroKeyRuntime_lawfulDigest)
  have hrefused : unsealedWorld.policy zeroKeyRuntime =
      .error (reflexAdoptionErr "influence policy state hash does not match contents") := by
    apply checkedFile_error
    decide +kernel
  exact absurd (hhandled.policy _ hrefused) (by decide)

/-- WITNESS: With the ledger lost as well, the same files with the right hash are recovered. -/
theorem router_recovers_totally :
    RecoversTotally zeroKeyRuntime (fun _ _ => "") 0 (routerWorld (some (.error unreadableLedger))) := by
  apply (recoversTotally_iff_handled zeroKeyRuntime_lawfulDigest _ _ _).mpr
  have hactivation := ledgerLost_routerWorld.activationFile
  refine ⟨?_, ?_, fun policy _ => ⟨?_, ?_, ?_⟩⟩
  · intro e herror
    cases herror
    rfl
  · intro e herror
    rw [ledgerLost_routerWorld.policyFile] at herror
    cases herror
  · intro e herror
    rw [hactivation] at herror
    cases herror
  · intro _ _ e _ herror
    rw [ledgerLost_routerWorld.leaseFile] at herror
    cases herror
  · intro _ activation hbound _ _
    have hfile := hbound.activationFile
    rw [hactivation] at hfile
    cases hfile
    decide +kernel

end PhiOS
