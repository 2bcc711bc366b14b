import PhiOS.Analysis.JsonCodes
import PhiOS.Analysis.MacroMoves
import PhiOS.Model.IdentityRecovery

/-!
# Identity across recoveries

An assessment fails on no epochs, and it reports `RECOVERED` exactly where all eight requirements hold.
The digests of a record are those of no other record, so that along a chain of recoveries every record
has one predecessor, and subject, required seal fields and state are those of the first record:
`recoveries_preserve_identity`.
-/

set_option autoImplicit false

namespace PhiOS

namespace Covenant

variable {sha256 : Json → String}

/-- The eight requirements of a recovery. -/
structure Satisfied (sha256 : Json → String) (invariantSet : IdentityInvariantSet)
    (previous recovered : EpochBoundIdentity) (previousSeal recoveredSeal : IdentitySeal)
    (checkpoint : String) : Prop where
  sealBindings : previous.identitySealSha256 = previousSeal.sealSha256 sha256 ∧
    recovered.identitySealSha256 = recoveredSeal.sealSha256 sha256
  invariantSetBound : previous.invariantSetSha256 = invariantSet.setSha256 sha256 ∧
    recovered.invariantSetSha256 = invariantSet.setSha256 sha256
  subjectBindings : previous.subjectId = previousSeal.subjectId ∧
    recovered.subjectId = recoveredSeal.subjectId ∧
    previous.subjectKind = previousSeal.subjectKind ∧
    recovered.subjectKind = recoveredSeal.subjectKind
  epochChainLinked : recovered.previousEpochIdentitySha256 = some (previous.epochSha256 sha256)
  checkpointBound : recovered.recoveryCheckpointSha256 = some checkpoint
  epochAdvanced : recovered.epoch = previous.epoch + 1
  identityEquivalent : ∀ field ∈ invariantSet.requiredFields,
    field.fieldValue previousSeal.toSealFields = field.fieldValue recoveredSeal.toSealFields
  stateRecovered : previous.recoveryStateSha256 = recovered.recoveryStateSha256

/-! ## The receipts are accepted -/

theorem requireSha256_of_hex {value : String} (label : String) (h : isSha256Text value = true) :
    requireSha256 value label = .ok () := by
  unfold requireSha256
  rw [Analysis.requireSha256_of_isSha256Text h]
  rfl

theorem hex_of_requireSha256 {value label : String} (h : requireSha256 value label = .ok ()) :
    isSha256Text value = true := by
  unfold requireSha256 at h
  obtain ⟨text, htext, -⟩ := bind_eq_ok.mp h
  have hvalue := eq_of_requireSha256 htext
  unfold PhiOS.requireSha256 at htext
  obtain ⟨text', htext', htext⟩ := bind_eq_ok.mp htext
  obtain ⟨_, hhex, htext⟩ := bind_eq_ok.mp htext
  rw [← hvalue, ← Except.ok.inj htext]
  simpa using raiseIf_eq_ok.mp hhex

theorem requireFieldNames_eq_ok (label : String) {fields : List IdentityInvariantField}
    (hsorted : (fields.map (·.value)).Pairwise (· ≤ ·)) (hnodup : (fields.map (·.value)).Nodup) :
    requireFieldNames label ((fields.map (·.value)).insertionSort (· ≤ ·)) = .ok () := by
  unfold requireFieldNames
  rw [hsorted.insertionSort_eq]
  refine bind_eq_ok.mpr ⟨(), raiseIf_eq_ok.mpr (not_not.mpr hsorted.insertionSort_eq), ?_⟩
  refine bind_eq_ok.mpr ⟨(), raiseIf_eq_ok.mpr (not_not.mpr hnodup), forM_eq_ok.mpr ?_⟩
  intro item hitem
  obtain ⟨field, -, rfl⟩ := List.mem_map.mp hitem
  apply raiseIf_eq_ok.mpr
  rw [not_not]
  refine List.mem_map.mpr ⟨field, ?_, rfl⟩
  cases field <;> decide

theorem requiredFields_of_accepted (invariantSet : IdentityInvariantSet) :
    (invariantSet.requiredFields.map (·.value)).Pairwise (· ≤ ·) ∧
      (invariantSet.requiredFields.map (·.value)).Nodup ∧
      .subjectId ∈ invariantSet.requiredFields ∧ .subjectKind ∈ invariantSet.requiredFields := by
  have h := invariantSet.accepted
  unfold InvariantSetFields.postInit at h
  obtain ⟨_, _, _, _, h⟩ := ok_past_four h
  obtain ⟨_, hsorted, h⟩ := bind_eq_ok.mp h
  obtain ⟨_, hnodup, h⟩ := bind_eq_ok.mp h
  obtain ⟨_, hminimum, h⟩ := bind_eq_ok.mp h
  have hordered := List.pairwise_insertionSort (· ≤ ·) (invariantSet.requiredFields.map (·.value))
  rw [not_not.mp (raiseIf_eq_ok.mp hsorted)] at hordered
  obtain ⟨hsubject, hkind⟩ := not_not.mp (raiseIf_eq_ok.mp hminimum)
  exact ⟨hordered, not_not.mp (raiseIf_eq_ok.mp hnodup), hsubject, hkind⟩

theorem value_injective : Function.Injective IdentityInvariantField.value := by
  intro field field' h
  cases field <;> cases field' <;> first | rfl | exact absurd h (by decide)

theorem mem_comparedFields {previous candidate : SealFields} {invariantSet : InvariantSetFields}
    {agree : Bool} {item : String} : item ∈ comparedFields previous candidate invariantSet agree ↔
      ∃ field ∈ invariantSet.requiredFields, field.value = item ∧
        decide (field.fieldValue previous = field.fieldValue candidate) = agree := by
  unfold comparedFields
  rw [List.mem_map]
  constructor
  · rintro ⟨field, hfield, hvalue⟩
    obtain ⟨hmem, hagree⟩ := List.mem_filter.mp hfield
    exact ⟨field, hmem, hvalue, of_decide_eq_true hagree⟩
  · rintro ⟨field, hmem, hvalue, hagree⟩
    exact ⟨field, List.mem_filter.mpr ⟨hmem, decide_eq_true hagree⟩, hvalue⟩

/-- The comparison of two seals is accepted.
SOURCE: covenant/recovery.py:238-292, 421-452 -/
theorem equivalenceFields_accepted {previous candidate : IdentitySeal}
    {invariantSet : IdentityInvariantSet}
    (hset : isSha256Text (invariantSet.setSha256 sha256) = true)
    (hprevious : isSha256Text (previous.sealSha256 sha256) = true)
    (hcandidate : isSha256Text (candidate.sealSha256 sha256) = true) :
    (equivalenceFields sha256 previous candidate invariantSet).postInit = .ok () := by
  obtain ⟨hsorted, hnodup, -, -⟩ := requiredFields_of_accepted invariantSet
  unfold EquivalenceFields.postInit equivalenceFields
  dsimp only
  generalize hcompared : comparedFields previous.toSealFields candidate.toSealFields
    invariantSet.toInvariantSetFields = compared
  have hmem : ∀ {agree item}, item ∈ (compared agree).insertionSort (· ≤ ·) ↔
      ∃ field ∈ invariantSet.requiredFields, field.value = item ∧
        decide (field.fieldValue previous.toSealFields = field.fieldValue candidate.toSealFields) =
          agree := by
    intro agree item
    rw [List.mem_insertionSort, ← hcompared, mem_comparedFields]
  have hnames : ∀ label agree,
      requireFieldNames label ((compared agree).insertionSort (· ≤ ·)) = .ok () := by
    intro label agree
    rw [← hcompared]
    have hpart := (List.filter_sublist (p := fun field => decide (decide
      (field.fieldValue previous.toSealFields = field.fieldValue candidate.toSealFields) = agree))
      (l := invariantSet.requiredFields)).map (·.value)
    exact requireFieldNames_eq_ok label (hsorted.sublist hpart) (hnodup.sublist hpart)
  refine bind_eq_ok.mpr ⟨(), raiseIf_eq_ok.mpr (not_not.mpr rfl), ?_⟩
  refine bind_eq_ok.mpr ⟨(), requireSha256_of_hex _ hset, ?_⟩
  refine bind_eq_ok.mpr ⟨(), requireSha256_of_hex _ hprevious, ?_⟩
  refine bind_eq_ok.mpr ⟨(), requireSha256_of_hex _ hcandidate, ?_⟩
  refine bind_eq_ok.mpr ⟨(), requireFieldNames_eq_ok _ hsorted hnodup, ?_⟩
  refine bind_eq_ok.mpr ⟨(), hnames _ true, bind_eq_ok.mpr ⟨(), hnames _ false, ?_⟩⟩
  refine bind_eq_ok.mpr ⟨(), raiseIf_eq_ok.mpr ?_, ?_⟩
  · rintro ⟨item, hmatched, hmismatched⟩
    obtain ⟨field, -, hvalue, hagrees⟩ := hmem.mp hmatched
    obtain ⟨field', -, hvalue', hdiffers⟩ := hmem.mp hmismatched
    rw [value_injective (hvalue.trans hvalue'.symm), hdiffers] at hagrees
    cases hagrees
  refine bind_eq_ok.mpr ⟨(), raiseIf_eq_ok.mpr (not_not.mpr ⟨?_, ?_⟩), ?_⟩
  · intro item hitem
    rw [List.mem_insertionSort]
    rcases List.mem_append.mp hitem with hitem | hitem <;>
    · obtain ⟨field, hfield, rfl, -⟩ := hmem.mp hitem
      exact List.mem_map_of_mem hfield
  · intro item hitem
    rw [List.mem_insertionSort] at hitem
    obtain ⟨field, hfield, rfl⟩ := List.mem_map.mp hitem
    rw [List.mem_append, hmem, hmem]
    by_cases hagrees : field.fieldValue previous.toSealFields = field.fieldValue candidate.toSealFields
    · exact Or.inl ⟨field, hfield, rfl, decide_eq_true hagrees⟩
    · exact Or.inr ⟨field, hfield, rfl, decide_eq_false hagrees⟩
  by_cases hnone : compared false = []
  · rw [if_pos (by rw [if_pos hnone])]
    refine bind_eq_ok.mpr ⟨(), raiseIf_eq_ok.mpr ?_, rfl⟩
    rw [hnone]
    exact not_not.mpr rfl
  · rw [if_neg (by rw [if_neg hnone]; decide)]
    refine bind_eq_ok.mpr ⟨(), raiseIf_eq_ok.mpr ?_, rfl⟩
    intro hsort
    have hperm := List.perm_insertionSort (· ≤ ·) (compared false)
    rw [hsort] at hperm
    exact hnone hperm.nil_eq.symm

/-- Seals are reported as equivalent where they agree in all required fields. -/
theorem equivalent_iff {previous candidate : IdentitySeal} {invariantSet : IdentityInvariantSet} :
    (equivalenceFields sha256 previous candidate invariantSet).status = .equivalent ↔
      ∀ field ∈ invariantSet.requiredFields,
        field.fieldValue previous.toSealFields = field.fieldValue candidate.toSealFields := by
  have hnone : comparedFields previous.toSealFields candidate.toSealFields
      invariantSet.toInvariantSetFields false = [] ↔ ∀ field ∈ invariantSet.requiredFields,
        field.fieldValue previous.toSealFields = field.fieldValue candidate.toSealFields := by
    rw [List.eq_nil_iff_forall_not_mem]
    constructor
    · intro h field hfield
      by_contra hdiffers
      exact h field.value (mem_comparedFields.mpr ⟨field, hfield, rfl, decide_eq_false hdiffers⟩)
    · intro h item hitem
      obtain ⟨field, hfield, -, hdiffers⟩ := mem_comparedFields.mp hitem
      exact of_decide_eq_false hdiffers (h field hfield)
  rw [← hnone]
  unfold equivalenceFields
  dsimp only
  by_cases h : comparedFields previous.toSealFields candidate.toSealFields
      invariantSet.toInvariantSetFields false = []
  · rw [if_pos h]
    exact iff_of_true rfl h
  · rw [if_neg h]
    exact iff_of_false (by decide) h

/-- An epoch and its digests. -/
theorem epoch_of_accepted (identity : EpochBoundIdentity) :
    0 ≤ identity.epoch ∧ isSha256Text identity.topologySha256 = true ∧
      isSha256Text identity.recoveryStateSha256 = true ∧
      (identity.epoch = 0 → identity.previousEpochIdentitySha256 = none) := by
  have h := identity.accepted
  unfold EpochFields.postInit at h
  obtain ⟨_, _, h⟩ := ok_past_two h
  obtain ⟨_, hepoch, h⟩ := bind_eq_ok.mp h
  obtain ⟨_, _, h⟩ := ok_past_two h
  obtain ⟨_, htopology, h⟩ := bind_eq_ok.mp h
  obtain ⟨_, hstate, h⟩ := bind_eq_ok.mp h
  obtain ⟨_, _, h⟩ := ok_past_two h
  refine ⟨?_, hex_of_requireSha256 htopology, hex_of_requireSha256 hstate, ?_⟩
  · have hbound := raiseIf_eq_ok.mp hepoch
    omega
  · intro hzero
    rw [if_pos hzero] at h
    obtain ⟨_, hnone, h⟩ := bind_eq_ok.mp h
    exact not_not.mp (not_or.mp (raiseIf_eq_ok.mp hnone)).1

/-- The reason is that of the first requirement that fails.
SOURCE: covenant/recovery.py:1010-1026 -/
theorem reason_spec {reason : String} {p₁ p₂ p₃ p₄ p₅ p₆ p₇ p₈ : Prop} [Decidable p₁] [Decidable p₂]
    [Decidable p₃] [Decidable p₄] [Decidable p₅] [Decidable p₆] [Decidable p₇] [Decidable p₈]
    (hreason : (if ¬ p₁ then "identity_seal_binding_mismatch"
      else if ¬ p₂ then "identity_invariant_set_mismatch"
      else if ¬ p₃ then "subject_identity_binding_mismatch"
      else if ¬ p₄ then "recovery_epoch_chain_mismatch"
      else if ¬ p₅ then "recovery_checkpoint_mismatch"
      else if ¬ p₆ then "recovery_epoch_not_exactly_next"
      else if ¬ p₇ then "identity_invariants_changed"
      else if ¬ p₈ then "recovery_state_digest_changed"
      else "recovery_requirements_satisfied") = reason) :
    (reason = "recovery_requirements_satisfied" ↔ p₁ ∧ p₂ ∧ p₃ ∧ p₄ ∧ p₅ ∧ p₆ ∧ p₇ ∧ p₈) ∧
      Analysis.Legible reason := by
  have hreasons : ∀ reason ∈ ["identity_seal_binding_mismatch", "identity_invariant_set_mismatch",
      "subject_identity_binding_mismatch", "recovery_epoch_chain_mismatch",
      "recovery_checkpoint_mismatch", "recovery_epoch_not_exactly_next",
      "identity_invariants_changed", "recovery_state_digest_changed",
      "recovery_requirements_satisfied"], Analysis.Legible reason := by
    unfold Analysis.Legible
    decide +kernel
  constructor
  · by_cases h : p₁ ∧ p₂ ∧ p₃ ∧ p₄ ∧ p₅ ∧ p₆ ∧ p₇ ∧ p₈
    · obtain ⟨h₁, h₂, h₃, h₄, h₅, h₆, h₇, h₈⟩ := h
      simp only [h₁, h₂, h₃, h₄, h₅, h₆, h₇, h₈, not_true_eq_false, if_false] at hreason
      exact iff_of_true hreason.symm ⟨h₁, h₂, h₃, h₄, h₅, h₆, h₇, h₈⟩
    · refine iff_of_false ?_ h
      rintro rfl
      split_ifs at hreason <;> tauto
  · apply hreasons
    rw [← hreason]
    split_ifs <;> decide

/-- The status and the eight results agree. -/
theorem recoveryFields_status {invariantSet : IdentityInvariantSet}
    {previous recovered : EpochBoundIdentity} {previousSeal recoveredSeal : IdentitySeal}
    {checkpoint : String} {equivalence : FunctionalEquivalenceReceipt} :
    let fields := recoveryFields sha256 invariantSet previous recovered previousSeal recoveredSeal
      checkpoint equivalence
    (fields.status = .recovered ↔ fields.success = true) ∧ Analysis.Legible fields.reason := by
  intro fields
  obtain ⟨hsatisfied, hlegible⟩ := reason_spec (rfl : _ = fields.reason)
  refine ⟨?_, hlegible⟩
  have hstatus : fields.status = .recovered ↔ fields.reason = "recovery_requirements_satisfied" := by
    show (if fields.reason = "recovery_requirements_satisfied" then RecoveryStatus.recovered
      else .blocked) = .recovered ↔ _
    by_cases h : fields.reason = "recovery_requirements_satisfied"
    · rw [if_pos h]
      exact iff_of_true rfl h
    · rw [if_neg h]
      exact iff_of_false (by decide) h
  rw [hstatus, hsatisfied]
  unfold RecoveryPathFields.success
  simp only [Bool.and_eq_true, and_assoc]
  unfold fields recoveryFields
  simp only [decide_eq_true_eq, and_assoc]

/-- Success is that all eight requirements hold. -/
theorem success_iff {invariantSet : IdentityInvariantSet} {previous recovered : EpochBoundIdentity}
    {previousSeal recoveredSeal : IdentitySeal} {checkpoint : String}
    {equivalence : FunctionalEquivalenceReceipt}
    (hequivalence : equivalence.toEquivalenceFields =
      equivalenceFields sha256 previousSeal recoveredSeal invariantSet) :
    (recoveryFields sha256 invariantSet previous recovered previousSeal recoveredSeal checkpoint
      equivalence).success = true ↔
      Satisfied sha256 invariantSet previous recovered previousSeal recoveredSeal checkpoint := by
  unfold RecoveryPathFields.success
  simp only [Bool.and_eq_true, and_assoc]
  unfold recoveryFields
  simp only [decide_eq_true_eq, hequivalence, equivalent_iff]
  constructor
  · rintro ⟨⟨h₁, h₁'⟩, ⟨h₂, h₂'⟩, h₃, h₄, h₅, h₆, h₇, h₈⟩
    exact ⟨⟨h₁, h₁'⟩, ⟨h₂, h₂'⟩, h₃, h₄, h₅, h₆, h₇, h₈⟩
  · rintro ⟨h₁, h₂, h₃, h₄, h₅, h₆, h₇, h₈⟩
    exact ⟨h₁, h₂, h₃, h₄, h₅, h₆, h₇, h₈⟩

/-- The recovery receipt is accepted.
SOURCE: covenant/recovery.py:665-750 -/
theorem recoveryFields_accepted {invariantSet : IdentityInvariantSet}
    {previous recovered : EpochBoundIdentity} {previousSeal recoveredSeal : IdentitySeal}
    {checkpoint : String} {equivalence : FunctionalEquivalenceReceipt}
    (hcheckpoint : isSha256Text checkpoint = true)
    (hprevious : isSha256Text (previous.epochSha256 sha256) = true)
    (hrecovered : isSha256Text (recovered.epochSha256 sha256) = true)
    (hequivalence : isSha256Text (equivalence.equivalenceSha256 sha256) = true) :
    (recoveryFields sha256 invariantSet previous recovered previousSeal recoveredSeal checkpoint
      equivalence).postInit = .ok () := by
  obtain ⟨hstatus, hlegible⟩ := @recoveryFields_status sha256 invariantSet previous recovered
    previousSeal recoveredSeal checkpoint equivalence
  obtain ⟨hepoch, htopology, hstate, -⟩ := epoch_of_accepted previous
  obtain ⟨hepoch', htopology', hstate', -⟩ := epoch_of_accepted recovered
  unfold RecoveryPathFields.postInit
  refine bind_eq_ok.mpr ⟨(), raiseIf_eq_ok.mpr (not_not.mpr rfl), ?_⟩
  refine bind_eq_ok.mpr ⟨(), forM_eq_ok.mpr ?_, ?_⟩
  · rintro ⟨label, digest⟩ hdigest
    apply requireSha256_of_hex
    simp only [RecoveryPathFields.digests, List.mem_cons, Prod.mk.injEq, List.not_mem_nil,
      or_false] at hdigest
    rcases hdigest with ⟨-, rfl⟩ | ⟨-, rfl⟩ | ⟨-, rfl⟩ | ⟨-, rfl⟩ | ⟨-, rfl⟩ | ⟨-, rfl⟩ | ⟨-, rfl⟩ |
      ⟨-, rfl⟩
    · exact hprevious
    · exact hrecovered
    · exact hequivalence
    · exact hcheckpoint
    · exact htopology
    · exact htopology'
    · exact hstate
    · exact hstate'
  refine bind_eq_ok.mpr ⟨(), raiseIf_eq_ok.mpr (not_lt.mpr hepoch), ?_⟩
  refine bind_eq_ok.mpr ⟨(), raiseIf_eq_ok.mpr (not_lt.mpr hepoch'), ?_⟩
  refine bind_eq_ok.mpr ⟨(), ?_, ?_⟩
  · unfold requireText
    rw [Analysis.requireText_of_legible hlegible hlegible.2.1]
    rfl
  refine bind_eq_ok.mpr ⟨(), raiseIf_eq_ok.mpr (not_not.mpr rfl), ?_⟩
  refine bind_eq_ok.mpr ⟨(), raiseIf_eq_ok.mpr (not_not.mpr rfl), ?_⟩
  refine bind_eq_ok.mpr ⟨(), raiseIf_eq_ok.mpr (not_not.mpr rfl), ?_⟩
  refine bind_eq_ok.mpr ⟨(), raiseIf_eq_ok.mpr ?_, ?_⟩
  · rintro ⟨hrecovered, hfailure⟩
    rw [hstatus.mp hrecovered] at hfailure
    cases hfailure
  refine bind_eq_ok.mpr ⟨(), raiseIf_eq_ok.mpr ?_, ?_⟩
  · rintro ⟨hblocked, hsuccess⟩
    rw [hstatus.mpr hsuccess] at hblocked
    cases hblocked
  exact bind_eq_ok.mpr ⟨(), rfl, bind_eq_ok.mpr ⟨(), rfl, bind_eq_ok.mpr ⟨(), rfl, rfl⟩⟩⟩

/-- An assessment whose digests are digests gives both receipts.
SOURCE: covenant/recovery.py:950-1060 -/
theorem assess_eq_ok {invariantSet : IdentityInvariantSet} {previous recovered : EpochBoundIdentity}
    {previousSeal recoveredSeal : IdentitySeal} {checkpoint : String}
    (hcheckpoint : isSha256Text checkpoint = true)
    (hset : isSha256Text (invariantSet.setSha256 sha256) = true)
    (hpreviousSeal : isSha256Text (previousSeal.sealSha256 sha256) = true)
    (hrecoveredSeal : isSha256Text (recoveredSeal.sealSha256 sha256) = true)
    (hprevious : isSha256Text (previous.epochSha256 sha256) = true)
    (hrecovered : isSha256Text (recovered.epochSha256 sha256) = true)
    (hequivalence : isSha256Text ((equivalenceFields sha256 previousSeal recoveredSeal
      invariantSet).equivalenceSha256 sha256) = true) :
    ∃ equivalence receipt,
      assess sha256 invariantSet previous recovered previousSeal recoveredSeal checkpoint =
        .ok (equivalence, receipt) := by
  have haccepted := equivalenceFields_accepted hset hpreviousSeal hrecoveredSeal
  have haccepted' : (recoveryFields sha256 invariantSet previous recovered previousSeal recoveredSeal
      checkpoint ⟨_, haccepted⟩).postInit = .ok () :=
    recoveryFields_accepted hcheckpoint hprevious hrecovered hequivalence
  refine ⟨⟨_, haccepted⟩, ⟨_, haccepted'⟩, ?_⟩
  refine bind_eq_ok.mpr ⟨(), requireSha256_of_hex _ hcheckpoint, ?_⟩
  refine bind_eq_ok.mpr ⟨⟨_, haccepted⟩, ?_, bind_eq_ok.mpr ⟨⟨_, haccepted'⟩, ?_, rfl⟩⟩
  · unfold evaluateFunctionalEquivalence EquivalenceFields.construct
    split
    · rfl
    · rename_i e he
      rw [haccepted] at he
      cases he
  · unfold RecoveryPathFields.construct
    split
    · rfl
    · rename_i e he
      rw [haccepted'] at he
      cases he

/-- An assessment reports `RECOVERED` where all requirements hold. -/
theorem recovered_iff {invariantSet : IdentityInvariantSet} {previous recovered : EpochBoundIdentity}
    {previousSeal recoveredSeal : IdentitySeal} {checkpoint : String}
    {equivalence : FunctionalEquivalenceReceipt} {receipt : RecoveryPathReceipt}
    (h : assess sha256 invariantSet previous recovered previousSeal recoveredSeal checkpoint =
      .ok (equivalence, receipt)) :
    receipt.status = .recovered ↔
      Satisfied sha256 invariantSet previous recovered previousSeal recoveredSeal checkpoint := by
  unfold assess at h
  obtain ⟨_, -, h⟩ := bind_eq_ok.mp h
  obtain ⟨equivalence', hequivalence, h⟩ := bind_eq_ok.mp h
  obtain ⟨receipt', hreceipt, h⟩ := bind_eq_ok.mp h
  obtain ⟨rfl, rfl⟩ := Prod.mk.inj (Except.ok.inj h)
  have hfields : equivalence'.toEquivalenceFields =
      equivalenceFields sha256 previousSeal recoveredSeal invariantSet := by
    unfold evaluateFunctionalEquivalence EquivalenceFields.construct at hequivalence
    split at hequivalence
    · rw [← Except.ok.inj hequivalence]
    · cases hequivalence
  have hfields' : receipt'.toRecoveryPathFields = recoveryFields sha256 invariantSet previous
      recovered previousSeal recoveredSeal checkpoint equivalence' := by
    unfold RecoveryPathFields.construct at hreceipt
    split at hreceipt
    · rw [← Except.ok.inj hreceipt]
    · cases hreceipt
  rw [hfields', recoveryFields_status.1, success_iff hfields]

/-! ## What the digests cover -/

theorem seal_eq_of_sha256_eq (hsha : DigestsApart sha256) {a b : IdentitySeal}
    (h : a.sealSha256 sha256 = b.sealSha256 sha256) (field : IdentityInvariantField) :
    field.fieldValue a.toSealFields = field.fieldValue b.toSealFields := by
  have hlookup := Json.lookup_of_canonical_eq (hsha h) field.value
  cases field <;>
    simpa [SealFields.bodyDict, List.lookup_cons, IdentityInvariantField.value,
      IdentityInvariantField.fieldValue, Json.canonical] using hlookup

theorem kind_value_injective : Function.Injective IdentitySubjectKind.value := by
  intro kind kind' h
  cases kind <;> cases kind' <;> first | rfl | exact absurd h (by decide)

/-- What an epoch-bound identity says apart from its data is fixed. -/
theorem constants_of_accepted (identity : EpochBoundIdentity) :
    identity.schemaVersion = "phios.epoch_bound_identity.v0.1" ∧ identity.trustedIdentity = false ∧
      identity.actionAuthority = false ∧ identity.executionAuthority = false := by
  have h := identity.accepted
  unfold EpochFields.postInit at h
  obtain ⟨_, hschema, h⟩ := bind_eq_ok.mp h
  obtain ⟨_, _, _, _, h⟩ := ok_past_four h
  obtain ⟨_, _, _, _, h⟩ := ok_past_four h
  have hend : ∀ {u : Unit}, (do
      raiseIf (identity.trustedIdentity ≠ false)
        (err "epoch-bound identity cannot establish trusted identity")
      raiseIf (identity.actionAuthority ≠ false ∨ identity.executionAuthority ≠ false)
        (err "epoch-bound identity cannot carry authority") : Except PyError Unit) = .ok u →
      identity.trustedIdentity = false ∧ identity.actionAuthority = false ∧
        identity.executionAuthority = false := by
    intro u hend
    obtain ⟨_, htrusted, hend⟩ := bind_eq_ok.mp hend
    have hauthority := not_or.mp (raiseIf_eq_ok.mp hend)
    exact ⟨not_not.mp (raiseIf_eq_ok.mp htrusted), not_not.mp hauthority.1, not_not.mp hauthority.2⟩
  refine ⟨not_not.mp (raiseIf_eq_ok.mp hschema), ?_⟩
  by_cases hzero : identity.epoch = 0
  · rw [if_pos hzero] at h
    obtain ⟨_, -, h⟩ := bind_eq_ok.mp h
    exact hend h
  · rw [if_neg hzero] at h
    obtain ⟨_, _, h⟩ := ok_past_two h
    exact hend h

/-- The digest of an epoch-bound identity is that of no other one. -/
theorem epoch_eq_of_sha256_eq (hsha : DigestsApart sha256) {a b : EpochBoundIdentity}
    (h : a.epochSha256 sha256 = b.epochSha256 sha256) : a = b := by
  have hbody := Json.lookup_of_canonical_eq (hsha h)
  have hsubject := hbody "subject_id"
  have hkind := hbody "subject_kind"
  have hepoch := hbody "epoch"
  have hseal := hbody "identity_seal_sha256"
  have hset := hbody "invariant_set_sha256"
  have htopology := hbody "topology_sha256"
  have hstate := hbody "recovery_state_sha256"
  have hprevious := hbody "previous_epoch_identity_sha256"
  have hcheckpoint := hbody "recovery_checkpoint_sha256"
  simp [EpochFields.bodyDict, List.lookup_cons, Json.canonical] at hsubject hkind hepoch hseal hset
  simp [EpochFields.bodyDict, List.lookup_cons, Json.canonical] at htopology hstate
  simp [EpochFields.bodyDict, List.lookup_cons, Json.optStr_canonical] at hprevious hcheckpoint
  obtain ⟨hschema, htrusted, haction, hexecution⟩ := constants_of_accepted a
  obtain ⟨hschema', htrusted', haction', hexecution'⟩ := constants_of_accepted b
  obtain ⟨fields, haccepted⟩ := a
  obtain ⟨fields', haccepted'⟩ := b
  dsimp only at *
  have hfields : fields = fields' := by
    cases fields
    cases fields'
    rw [EpochFields.mk.injEq]
    exact ⟨hsubject, kind_value_injective hkind, hepoch, hseal, hset, htopology, hstate,
      Json.optStr_inj hprevious, Json.optStr_inj hcheckpoint, htrusted.trans htrusted'.symm,
      haction.trans haction'.symm, hexecution.trans hexecution'.symm, hschema.trans hschema'.symm⟩
  cases hfields
  rfl

/-! ## Chains of recoveries -/

/-- The second identity was assessed as recovered from the first one. -/
def Recovered (sha256 : Json → String) (invariantSet : IdentityInvariantSet)
    (previous recovered : EpochBoundIdentity) : Prop :=
  ∃ previousSeal recoveredSeal checkpoint equivalence receipt,
    assess sha256 invariantSet previous recovered previousSeal recoveredSeal checkpoint =
      .ok (equivalence, receipt) ∧ receipt.status = .recovered

/-- The seal is the one that the identity is bound to. -/
def SealedBy (sha256 : Json → String) (identity : EpochBoundIdentity) (identitySeal : IdentitySeal) :
    Prop :=
  identity.identitySealSha256 = identitySeal.sealSha256 sha256

/-- A later identity is the earlier one, after a number of recoveries. -/
structure Preserved (sha256 : Json → String) (invariantSet : IdentityInvariantSet) (steps : ℕ)
    (first last : EpochBoundIdentity) : Prop where
  subjectId : last.subjectId = first.subjectId
  subjectKind : last.subjectKind = first.subjectKind
  recoveryState : last.recoveryStateSha256 = first.recoveryStateSha256
  epoch : last.epoch = first.epoch + steps
  sealFields : ∀ firstSeal lastSeal, SealedBy sha256 first firstSeal → SealedBy sha256 last lastSeal →
    ∀ field ∈ invariantSet.requiredFields,
      field.fieldValue lastSeal.toSealFields = field.fieldValue firstSeal.toSealFields

/-- One recovery preserves the identity. -/
theorem Recovered.preserved (hsha : DigestsApart sha256) {invariantSet : IdentityInvariantSet}
    {previous recovered : EpochBoundIdentity} (h : Recovered sha256 invariantSet previous recovered) :
    Preserved sha256 invariantSet 1 previous recovered ∧
      (∃ previousSeal, SealedBy sha256 previous previousSeal) ∧
      (∃ recoveredSeal, SealedBy sha256 recovered recoveredSeal) ∧
      recovered.previousEpochIdentitySha256 = some (previous.epochSha256 sha256) := by
  obtain ⟨previousSeal, recoveredSeal, checkpoint, equivalence, receipt, hassess, hstatus⟩ := h
  have hsatisfied := (recovered_iff hassess).mp hstatus
  obtain ⟨-, -, hsubjectRequired, hkindRequired⟩ := requiredFields_of_accepted invariantSet
  obtain ⟨hsubject, hsubject', hkind, hkind'⟩ := hsatisfied.subjectBindings
  refine ⟨⟨?_, ?_, hsatisfied.stateRecovered.symm, ?_, ?_⟩, ⟨_, hsatisfied.sealBindings.1⟩,
    ⟨_, hsatisfied.sealBindings.2⟩, hsatisfied.epochChainLinked⟩
  · rw [hsubject, hsubject']
    exact (hsatisfied.identityEquivalent .subjectId hsubjectRequired).symm
  · rw [hkind, hkind']
    exact (kind_value_injective (hsatisfied.identityEquivalent .subjectKind hkindRequired)).symm
  · exact hsatisfied.epochAdvanced
  · intro firstSeal lastSeal hfirst hlast field hfield
    calc field.fieldValue lastSeal.toSealFields
        = field.fieldValue recoveredSeal.toSealFields :=
          seal_eq_of_sha256_eq hsha (hlast.symm.trans hsatisfied.sealBindings.2) field
      _ = field.fieldValue previousSeal.toSealFields :=
          (hsatisfied.identityEquivalent field hfield).symm
      _ = field.fieldValue firstSeal.toSealFields :=
          seal_eq_of_sha256_eq hsha (hsatisfied.sealBindings.1.symm.trans hfirst) field

/-- So does a chain of recoveries. The induction is on the chain. -/
theorem preserved_of_chain (hsha : DigestsApart sha256) {invariantSet : IdentityInvariantSet}
    {first : EpochBoundIdentity} {rest : List EpochBoundIdentity}
    (hchain : (first :: rest).IsChain (Recovered sha256 invariantSet)) {i : ℕ}
    {last : EpochBoundIdentity} (hlast : (first :: rest)[i]? = some last) :
    Preserved sha256 invariantSet i first last := by
  have hself : ∀ {identity : EpochBoundIdentity},
      Preserved sha256 invariantSet 0 identity identity := by
    intro identity
    refine ⟨rfl, rfl, rfl, by simp, ?_⟩
    intro firstSeal lastSeal hfirst hlast field _
    exact seal_eq_of_sha256_eq hsha (hlast.symm.trans hfirst) field
  induction rest generalizing first i with
  | nil =>
      cases i with
      | zero =>
          rw [← Option.some.inj hlast]
          exact hself
      | succ i => cases hlast
  | cons second rest ih =>
      cases i with
      | zero =>
          rw [← Option.some.inj hlast]
          exact hself
      | succ i =>
          obtain ⟨hstep, hrest⟩ := List.isChain_cons_cons.mp hchain
          obtain ⟨hpreserved, -, ⟨secondSeal, hsecondSeal⟩, -⟩ := hstep.preserved hsha
          have hlater := ih hrest hlast
          refine ⟨hlater.subjectId.trans hpreserved.subjectId,
            hlater.subjectKind.trans hpreserved.subjectKind,
            hlater.recoveryState.trans hpreserved.recoveryState, ?_, ?_⟩
          · have hepoch := hpreserved.epoch
            have hepoch' := hlater.epoch
            push_cast at hepoch hepoch' ⊢
            omega
          · intro firstSeal lastSeal hfirst hlastSeal field hfield
            rw [hlater.sealFields secondSeal lastSeal hsecondSeal hlastSeal field hfield]
            exact hpreserved.sealFields firstSeal secondSeal hfirst hsecondSeal field hfield

theorem not_recovered_of_epoch_zero (hsha : DigestsApart sha256) {invariantSet : IdentityInvariantSet}
    {previous recovered : EpochBoundIdentity} (hzero : recovered.epoch = 0) :
    ¬ Recovered sha256 invariantSet previous recovered := by
  intro h
  obtain ⟨-, -, -, hlinked⟩ := h.preserved hsha
  rw [(epoch_of_accepted recovered).2.2.2 hzero] at hlinked
  cases hlinked

/-- MAIN: **an assessment of epochs fails on none, and it reports `RECOVERED` exactly where all eight
requirements hold; along a chain of recoveries subject, required seal fields and state are those of the
first epoch, epochs go up by one, every record has one predecessor, and a record of epoch 0 has none.** -/
theorem recoveries_preserve_identity (sha256 : Json → String) (invariantSet : IdentityInvariantSet) :
    ((∀ value, isSha256Text (sha256 value) = true) → ∀ previous recovered previousSeal recoveredSeal,
      ∀ checkpoint, isSha256Text checkpoint = true → ∃ equivalence receipt,
        assess sha256 invariantSet previous recovered previousSeal recoveredSeal checkpoint =
          .ok (equivalence, receipt)) ∧
    (∀ previous recovered previousSeal recoveredSeal checkpoint equivalence receipt,
      assess sha256 invariantSet previous recovered previousSeal recoveredSeal checkpoint =
        .ok (equivalence, receipt) → (receipt.status = .recovered ↔
          Satisfied sha256 invariantSet previous recovered previousSeal recoveredSeal checkpoint)) ∧
    (DigestsApart sha256 → ∀ first rest, (first :: rest).IsChain (Recovered sha256 invariantSet) →
      ∀ i last, (first :: rest)[i]? = some last →
        Preserved sha256 invariantSet i first last ∧
        (rest ≠ [] → ∃ lastSeal, SealedBy sha256 last lastSeal) ∧
        (∀ previous previous', Recovered sha256 invariantSet previous last →
          Recovered sha256 invariantSet previous' last → previous = previous') ∧
        (last.epoch = 0 → i = 0 ∧ ∀ previous, ¬ Recovered sha256 invariantSet previous last)) := by
  refine ⟨?_, fun _ _ _ _ _ _ _ h => recovered_iff h, ?_⟩
  · intro hhex previous recovered previousSeal recoveredSeal checkpoint hcheckpoint
    exact assess_eq_ok hcheckpoint (hhex _) (hhex _) (hhex _) (hhex _) (hhex _) (hhex _)
  · intro hsha first rest hchain i last hlast
    have hpreserved := preserved_of_chain hsha hchain hlast
    refine ⟨hpreserved, ?_, ?_, ?_⟩
    · intro hrest
      cases i with
      | zero =>
          obtain ⟨second, rest', rfl⟩ := List.exists_cons_of_ne_nil hrest
          rw [← Option.some.inj hlast]
          exact ((List.isChain_cons_cons.mp hchain).1.preserved hsha).2.1
      | succ i =>
          obtain ⟨hlt, hget⟩ := List.getElem?_eq_some_iff.mp hlast
          have hstep := List.isChain_iff_getElem.mp hchain i hlt
          rw [hget] at hstep
          exact (hstep.preserved hsha).2.2.1
    · intro previous previous' hprevious hprevious'
      have hlinked := (hprevious.preserved hsha).2.2.2
      have hlinked' := (hprevious'.preserved hsha).2.2.2
      exact epoch_eq_of_sha256_eq hsha (Option.some.inj (hlinked.symm.trans hlinked'))
    · intro hzero
      refine ⟨?_, fun previous => not_recovered_of_epoch_zero hsha hzero⟩
      have hepoch := hpreserved.epoch
      have hfirst := (epoch_of_accepted first).1
      omega

/-! ## A recovery -/

/-- The digits of a digest. -/
def hexDigits : List Char :=
  ['0', '1', '2', '3', '4', '5', '6', '7', '8', '9', 'a', 'b', 'c', 'd', 'e', 'f']

/-- A digest. -/
def repeated (c : Char) : String := String.ofList (List.replicate 64 c)

theorem isSha256Text_repeated {c : Char} (h : c ∈ hexDigits) :
    isSha256Text (repeated c) = true := by
  have hdigits : ∀ c ∈ hexDigits,
      ((48 ≤ c.toNat && c.toNat ≤ 57) || (97 ≤ c.toNat && c.toNat ≤ 102)) = true := by
    intro c hc
    simp only [hexDigits, List.mem_cons, List.not_mem_nil, or_false] at hc
    rcases hc with rfl | rfl | rfl | rfl | rfl | rfl | rfl | rfl | rfl | rfl | rfl | rfl |
      rfl | rfl | rfl | rfl <;> rfl
  unfold isSha256Text repeated
  rw [String.toList_ofList, Bool.and_eq_true, decide_eq_true_eq, List.length_replicate]
  refine ⟨rfl, List.all_eq_true.mpr ?_⟩
  intro c' hc'
  rw [(List.mem_replicate.mp hc').2]
  exact hdigits c h

theorem requireSha256_repeated {c : Char} (label : String) (h : c ∈ hexDigits) :
    requireSha256 (repeated c) label = .ok () :=
  requireSha256_of_hex label (isSha256Text_repeated h)

/-- The seal of an agent. -/
def agentSeal : IdentitySeal where
  subjectId := "agent"
  subjectKind := .agent
  implementationSha256 := repeated 'a'
  manifestSha256 := repeated 'b'
  sourceSha256 := repeated 'c'
  issuerId := "issuer"
  issuerKeyId := "key"
  accepted := by
    refine bind_eq_ok.mpr ⟨(), rfl, bind_eq_ok.mpr ⟨(), rfl, ?_⟩⟩
    refine bind_eq_ok.mpr ⟨(), requireSha256_repeated _ (by decide), ?_⟩
    refine bind_eq_ok.mpr ⟨(), requireSha256_repeated _ (by decide), ?_⟩
    refine bind_eq_ok.mpr ⟨(), requireSha256_repeated _ (by decide), ?_⟩
    exact bind_eq_ok.mpr ⟨(), rfl, bind_eq_ok.mpr ⟨(), rfl, bind_eq_ok.mpr ⟨(), rfl, rfl⟩⟩⟩

/-- The least invariant set. -/
def leastSet : IdentityInvariantSet where
  invariantSetId := "least"
  version := "1"
  requiredFields := [.subjectId, .subjectKind]
  accepted := by decide +kernel

/-- The first epoch of the agent. -/
def firstEpoch : EpochBoundIdentity where
  subjectId := "agent"
  subjectKind := .agent
  epoch := 0
  identitySealSha256 := repeated '1'
  invariantSetSha256 := repeated '2'
  topologySha256 := repeated 'd'
  recoveryStateSha256 := repeated 'e'
  accepted := by
    refine bind_eq_ok.mpr ⟨(), rfl, bind_eq_ok.mpr ⟨(), rfl, bind_eq_ok.mpr ⟨(), rfl, ?_⟩⟩⟩
    refine bind_eq_ok.mpr ⟨(), requireSha256_repeated _ (by decide), ?_⟩
    refine bind_eq_ok.mpr ⟨(), requireSha256_repeated _ (by decide), ?_⟩
    refine bind_eq_ok.mpr ⟨(), requireSha256_repeated _ (by decide), ?_⟩
    refine bind_eq_ok.mpr ⟨(), requireSha256_repeated _ (by decide), ?_⟩
    refine bind_eq_ok.mpr ⟨(), rfl, bind_eq_ok.mpr ⟨(), rfl, ?_⟩⟩
    exact bind_eq_ok.mpr ⟨(), rfl, bind_eq_ok.mpr ⟨(), rfl, bind_eq_ok.mpr ⟨(), rfl, rfl⟩⟩⟩

/-- The second epoch of the agent, on another topology. -/
def secondEpoch : EpochBoundIdentity where
  subjectId := "agent"
  subjectKind := .agent
  epoch := 1
  identitySealSha256 := repeated '1'
  invariantSetSha256 := repeated '2'
  topologySha256 := repeated 'f'
  recoveryStateSha256 := repeated 'e'
  previousEpochIdentitySha256 := some (repeated '3')
  recoveryCheckpointSha256 := some (repeated '9')
  accepted := by
    refine bind_eq_ok.mpr ⟨(), rfl, bind_eq_ok.mpr ⟨(), rfl, bind_eq_ok.mpr ⟨(), rfl, ?_⟩⟩⟩
    refine bind_eq_ok.mpr ⟨(), requireSha256_repeated _ (by decide), ?_⟩
    refine bind_eq_ok.mpr ⟨(), requireSha256_repeated _ (by decide), ?_⟩
    refine bind_eq_ok.mpr ⟨(), requireSha256_repeated _ (by decide), ?_⟩
    refine bind_eq_ok.mpr ⟨(), requireSha256_repeated _ (by decide), ?_⟩
    refine bind_eq_ok.mpr ⟨(), requireSha256_repeated _ (by decide), ?_⟩
    refine bind_eq_ok.mpr ⟨(), requireSha256_repeated _ (by decide), ?_⟩
    exact bind_eq_ok.mpr ⟨(), rfl, bind_eq_ok.mpr ⟨(), rfl, bind_eq_ok.mpr ⟨(), rfl, rfl⟩⟩⟩

/-- The comparison of the seal with itself. -/
def sameSeal : EquivalenceFields where
  status := .equivalent
  invariantSetSha256 := repeated '2'
  previousIdentitySealSha256 := repeated '1'
  candidateIdentitySealSha256 := repeated '1'
  requiredFields := ["subject_id", "subject_kind"]
  matchedFields := ["subject_id", "subject_kind"]
  mismatchedFields := []

/-- The digests of these records. -/
def knownDigests : List (Json × String) :=
  [(.obj agentSeal.bodyDict, repeated '1'), (.obj leastSet.bodyDict, repeated '2'),
    (.obj firstEpoch.bodyDict, repeated '3'), (.obj secondEpoch.bodyDict, repeated '4'),
    (.obj sameSeal.bodyDict, repeated '5')]

/-- What tells these records apart: the schema and the epoch. -/
def told : Json → Option String × Option ℤ
  | .obj fields =>
      (match fields.lookup "schema_version" with
        | some (.str text) => some text
        | _ => none,
      match fields.lookup "epoch" with
        | some (.int epoch) => some epoch
        | _ => none)
  | _ => (none, none)

/-- WITNESS: an assessment with one digest for all; and a recovery from the first to the second epoch
with a digest that tells all values apart. -/
theorem recovery_of_agent :
    (∃ equivalence receipt, assess (fun _ => repeated '0') leastSet firstEpoch secondEpoch agentSeal
      agentSeal (repeated '9') = .ok (equivalence, receipt)) ∧
    ∃ sha256, DigestsApart sha256 ∧ Recovered sha256 leastSet firstEpoch secondEpoch ∧
      Preserved sha256 leastSet 1 firstEpoch secondEpoch := by
  constructor
  · have hhex : ∀ value : Json, isSha256Text (repeated '0') = true := by
      intro _
      exact isSha256Text_repeated (by decide)
    exact (recoveries_preserve_identity (fun _ => repeated '0') leastSet).1 hhex firstEpoch secondEpoch
      agentSeal agentSeal (repeated '9')
      (isSha256Text_repeated (by decide))
  · have hvalues : (knownDigests.map fun e => e.1.canonical).Nodup := by
      apply List.Nodup.of_map told
      rw [List.map_map]
      decide
    have htexts : (knownDigests.map (·.2)).Nodup := by decide +kernel
    have hdigests : ∀ e ∈ knownDigests, isSha256Text e.2 = true := by
      have hdigest : ∀ e ∈ knownDigests, ∃ c ∈ hexDigits, e.2 = repeated c := by
        simp [knownDigests, hexDigits]
      intro e he
      obtain ⟨c, hc, hrepeated⟩ := hdigest e he
      rw [hrepeated]
      exact isSha256Text_repeated hc
    obtain ⟨sha256, hsha, hknown⟩ := exists_digestsApart_with hvalues htexts hdigests
    have hseal : agentSeal.sealSha256 sha256 = repeated '1' :=
      hknown (.obj agentSeal.bodyDict, repeated '1') (by simp [knownDigests])
    have hset : leastSet.setSha256 sha256 = repeated '2' :=
      hknown (.obj leastSet.bodyDict, repeated '2') (by simp [knownDigests])
    have hfirst : firstEpoch.epochSha256 sha256 = repeated '3' :=
      hknown (.obj firstEpoch.bodyDict, repeated '3') (by simp [knownDigests])
    have hsecond : secondEpoch.epochSha256 sha256 = repeated '4' :=
      hknown (.obj secondEpoch.bodyDict, repeated '4') (by simp [knownDigests])
    have hsame : equivalenceFields sha256 agentSeal agentSeal leastSet = sameSeal := by
      unfold equivalenceFields
      rw [hseal, hset]
      rfl
    have hequivalence : sameSeal.equivalenceSha256 sha256 = repeated '5' :=
      hknown (.obj sameSeal.bodyDict, repeated '5') (by simp [knownDigests])
    have hhex : ∀ c ∈ hexDigits, isSha256Text (repeated c) = true :=
      fun _ => isSha256Text_repeated
    have hrecovered : Recovered sha256 leastSet firstEpoch secondEpoch := by
      have hassess : ∃ equivalence receipt, assess sha256 leastSet firstEpoch secondEpoch agentSeal
          agentSeal (repeated '9') = .ok (equivalence, receipt) := by
        apply assess_eq_ok (hhex '9' (by decide))
        · rw [hset]
          exact hhex '2' (by decide)
        · rw [hseal]
          exact hhex '1' (by decide)
        · rw [hseal]
          exact hhex '1' (by decide)
        · rw [hfirst]
          exact hhex '3' (by decide)
        · rw [hsecond]
          exact hhex '4' (by decide)
        · rw [hsame, hequivalence]
          exact hhex '5' (by decide)
      obtain ⟨equivalence, receipt, hassess⟩ := hassess
      refine ⟨agentSeal, agentSeal, repeated '9', equivalence, receipt, hassess, ?_⟩
      refine (recovered_iff hassess).mpr ⟨⟨hseal.symm, hseal.symm⟩, ⟨hset.symm, hset.symm⟩,
        ⟨rfl, rfl, rfl, rfl⟩, ?_, rfl, rfl, fun _ _ => rfl, rfl⟩
      rw [hfirst]
      rfl
    refine ⟨sha256, hsha, hrecovered, ?_⟩
    have hchain : [firstEpoch, secondEpoch].IsChain (Recovered sha256 leastSet) :=
      .cons_cons hrecovered (.singleton _)
    exact ((recoveries_preserve_identity sha256 leastSet).2.2 hsha firstEpoch [secondEpoch] hchain 1
      secondEpoch rfl).1

end Covenant

end PhiOS
