import PhiOS.Model.GovernedActionBinding
import PhiOS.Analysis.HandoffProtocol
import PhiOS.Analysis.SpineEntry
import PhiOS.Analysis.JsonCodes
import Mathlib.Tactic.IntervalCases

/-!
# What is executed is what was bound

`GovernedActionBinder.bind` writes down a plan edge, a payload digest and a capability, and
`GovernedExecutionHandoff.execute` compares them with the plan, the payload and the registry again.
The binder strips the id, the version, the risk and the permissions of the capability; the handoff
strips none of the registered ones. Both normalize the effects. So the comparison is one of equals
exactly for the capabilities with nothing to strip.
-/

set_option autoImplicit false

namespace PhiOS.Analysis

open Interaction RealityLedger

/-! ## Digests -/

/-- Values with one digest have one canonical text. -/
def TellsApart (sha256 : Json → Except PyError String) : Prop :=
  ∀ {a b : Json} {d : String}, sha256 a = .ok d → sha256 b = .ok d → a.canonical = b.canonical

theorem mapError_eq_ok {α ε ε' : Type} {f : ε → ε'} {x : Except ε α} {a : α} :
    x.mapError f = .ok a ↔ x = .ok a := by
  cases x <;> simp [Except.mapError]

theorem payloadDigest_eq_ok {sha256 : Json → Except PyError String} {cls : ErrorClass}
    {subject : String} {payload : Json} {d : String} :
    payloadDigest sha256 cls subject payload = .ok d ↔ sha256 payload = .ok d := by
  unfold payloadDigest
  cases sha256 payload <;> simp [Except.mapError]

theorem hexDigit_spec {c : Char}
    (h : ((48 ≤ c.toNat && c.toNat ≤ 57) || (97 ≤ c.toNat && c.toNat ≤ 102)) = true) :
    isBase16Digit c = true ∧ isPySpace c = false ∧ c.toLower = c ∧
      c ≠ '+' ∧ c ≠ '-' ∧ c ≠ 'x' ∧ c ≠ '_' := by
  have hrange : (48 ≤ c.toNat ∧ c.toNat ≤ 57) ∨ (97 ≤ c.toNat ∧ c.toNat ≤ 102) := by
    simpa using h
  have hchar : c = Char.ofNat c.toNat := (Char.ofNat_toNat c).symm
  rcases hrange with ⟨hlow, hhigh⟩ | ⟨hlow, hhigh⟩
  · interval_cases hcode : c.toNat
    all_goals rw [hchar]; decide
  · interval_cases hcode : c.toNat
    all_goals rw [hchar]; decide

/-- A text of hexadecimal digits is one that `int(text, 16)` reads as it stands. -/
theorem readsBase16_hex {text : List Char} (hne : text ≠ [])
    (hdigits : ∀ c ∈ text, isBase16Digit c = true ∧ c ≠ '+' ∧ c ≠ '-' ∧ c ≠ 'x' ∧ c ≠ '_') :
    readsBase16 text = true := by
  have hrun : ∀ run : List Char, run ≠ [] →
      (∀ c ∈ run, isBase16Digit c = true ∧ c ≠ '_') → isBase16Run run = true := by
    intro run
    induction run with
    | nil => intro h; exact absurd rfl h
    | cons c run ih =>
        intro _ hall
        have hc := hall c List.mem_cons_self
        cases run with
        | nil => exact hc.1
        | cons c' run =>
            have hc' := hall c' (by simp)
            have hrest := ih (by simp) fun x hx => hall x (List.mem_cons_of_mem _ hx)
            unfold isBase16Run
            split
            · contradiction
            · simp_all
            · simp_all
            · simp_all
  have hself : isBase16Run text = true := hrun text hne fun c hc => ⟨(hdigits c hc).1, (hdigits c hc).2.2.2.2⟩
  unfold readsBase16
  extract_lets unsigned
  have hunsigned : unsigned = text := by
    unfold unsigned
    split
    · exact absurd rfl (hdigits '+' List.mem_cons_self).2.1
    · exact absurd rfl (hdigits '-' List.mem_cons_self).2.2.1
    · rfl
  rw [hunsigned]
  split
  · exact absurd rfl (hdigits 'x' (by simp)).2.2.2.1
  · exact absurd rfl (hdigits 'x' (by simp)).2.2.2.1
  · exact hself

/-- What `hexdigest` writes passes the checks for a digest. -/
theorem validateSha256_of_isSha256Text {text : String} (h : isSha256Text text = true)
    (cls : ErrorClass) (label : String) : validateSha256 cls text label = .ok () := by
  unfold isSha256Text at h
  rw [Bool.and_eq_true, decide_eq_true_eq] at h
  obtain ⟨hlength, hall⟩ := h
  have hdigits := fun c hc => hexDigit_spec (List.all_eq_true.mp hall c hc)
  have hne : text.toList ≠ [] := by
    intro hnil
    rw [hnil] at hlength
    cases hlength
  have hstrip : stripChars text.toList = text.toList := by
    have hspaceless : ∀ l : List Char, (∀ c ∈ l, c ∈ text.toList) → l.dropWhile isPySpace = l := by
      intro l hl
      refine dropWhile_spaceless fun c hc => (hdigits c (hl c ?_)).2.1
      exact List.mem_of_mem_head? hc
    unfold stripChars
    rw [hspaceless _ fun _ hc => hc, hspaceless _ fun _ hc => List.mem_reverse.mp hc,
      List.reverse_reverse]
  have hlower : text.toList.map Char.toLower = text.toList := by
    refine (List.map_congr_left fun c hc => ?_).trans (List.map_id _)
    exact (hdigits c hc).2.2.1
  have hreads : readsBase16 text.toList = true :=
    readsBase16_hex hne fun c hc => ⟨(hdigits c hc).1, (hdigits c hc).2.2.2⟩
  unfold validateSha256
  simp only [hstrip, hlower, hlength, hreads, raiseIf, ne_eq, not_true_eq_false, if_false]
  rfl

/-! ## Effects -/

theorem mapM_eq_ok_map {α β ε : Type} {f : α → Except ε β} {g : α → β} {l : List α}
    (hsteps : ∀ a ∈ l, f a = .ok (g a)) : l.mapM f = .ok (l.map g) := by
  induction l with
  | nil => rfl
  | cons a l ih =>
      have hrest := ih fun x hx => hsteps x (List.mem_cons_of_mem _ hx)
      rw [List.mapM_cons, List.map_cons]
      exact bind_eq_ok.mpr ⟨g a, hsteps a List.mem_cons_self, bind_eq_ok.mpr ⟨_, hrest, rfl⟩⟩

/-- What normalizing effects succeeds with. The label is only for the errors. -/
theorem normalizeEffects_eq_ok_iff {effects result : List String} {label : String}
    {allowEmpty : Bool} :
    normalizeEffects effects label allowEmpty = .ok result ↔
      (∀ raw ∈ effects, strip raw ≠ "" ∧ strip raw ∈ knownEffects) ∧
        result = sortedSet (effects.map strip) ∧ (result = [] → allowEmpty = true) ∧
          ("none" ∈ result → result.length = 1) := by
  unfold normalizeEffects
  simp only [bind_eq_ok, raiseIf_eq_ok]
  constructor
  · rintro ⟨normalized, hnormalized, -, hempty, -, hnone, hresult⟩
    obtain rfl := Except.ok.inj hresult
    have hsteps := mem_of_mapM hnormalized
    have hmap : normalized.map id = effects.map strip := by
      refine map_of_mapM (fun raw value hvalue => ?_) hnormalized
      obtain ⟨_, _, hvalue⟩ := ok_past_two hvalue
      exact (Except.ok.inj hvalue).symm
    rw [List.map_id] at hmap
    refine ⟨fun raw hraw => ?_, by rw [hmap], by simpa using hempty, by simpa using hnone⟩
    obtain ⟨value, -, hvalue⟩ := hsteps.1 raw hraw
    obtain ⟨_, hblank, hvalue⟩ := bind_eq_ok.mp hvalue
    obtain ⟨_, hknown, -⟩ := bind_eq_ok.mp hvalue
    exact ⟨raiseIf_eq_ok.mp hblank, not_not.mp (raiseIf_eq_ok.mp hknown)⟩
  · rintro ⟨hall, rfl, hempty, hnone⟩
    refine ⟨effects.map strip, mapM_eq_ok_map fun raw hraw => ?_, (), ?_, (), ?_, rfl⟩
    · have h := hall raw hraw
      exact bind_eq_ok.mpr ⟨(), raiseIf_eq_ok.mpr h.1,
        bind_eq_ok.mpr ⟨(), raiseIf_eq_ok.mpr (not_not.mpr h.2), rfl⟩⟩
    · simpa using hempty
    · simpa using hnone

theorem normalizeEffects_normalized {effects result : List String} {label : String}
    {allowEmpty : Bool} (h : normalizeEffects effects label allowEmpty = .ok result)
    (label' : String) : normalizeEffects result label' allowEmpty = .ok result := by
  obtain ⟨hall, rfl, hempty, hnone⟩ := normalizeEffects_eq_ok_iff.mp h
  have hmem : ∀ text ∈ sortedSet (effects.map strip), strip text = text ∧ strip text ∈ knownEffects ∧
      strip text ≠ "" := by
    intro text htext
    obtain ⟨raw, hraw, rfl⟩ := List.mem_map.mp (mem_sortedSet.mp htext)
    rw [strip_strip]
    exact ⟨rfl, (hall raw hraw).2, (hall raw hraw).1⟩
  have hself : (sortedSet (effects.map strip)).map strip = sortedSet (effects.map strip) :=
    (List.map_congr_left fun text htext => (hmem text htext).1).trans (List.map_id _)
  refine normalizeEffects_eq_ok_iff.mpr ⟨fun text htext => ?_, ?_, hempty, hnone⟩
  · exact ⟨(hmem text htext).2.2, (hmem text htext).2.1⟩
  · rw [hself, sortedSet_sortedSet]

theorem normalizeEffects_label {effects result : List String} {label : String} {allowEmpty : Bool}
    (h : normalizeEffects effects label allowEmpty = .ok result) (label' : String) :
    normalizeEffects effects label' allowEmpty = .ok result :=
  normalizeEffects_eq_ok_iff.mpr (normalizeEffects_eq_ok_iff.mp h)

/-! ## What a binder returns -/

variable {sha256 : Json → Except PyError String} {plan : PlanState} {transitionIndex : ℤ}
  {capability : Capability} {payload : Json} {grant : Option ActionBindingGrant}
  {binding : PlanActionBinding}

/-- What the binder writes down of a capability. -/
structure ContractOf (capability : Capability) (capabilityId version risk : String)
    (permissions effects : List String) : Prop where
  idEq : capabilityId = strip capability.id
  idPresent : capabilityId ≠ ""
  versionEq : version = strip capability.version
  versionPresent : version ≠ ""
  riskEq : risk = strip capability.risk
  riskKnown : risk ∈ ["read", "low", "medium", "high"]
  permissionsEq : permissions = capability.permissions.map strip
  permissionsPresent : "" ∉ permissions
  permissionsNodup : permissions.Nodup
  effectsEq : normalizeEffects capability.effects "capability effects" false = .ok effects
  effectsKnown : "unknown" ∉ effects

/-- SOURCE: core/governed_action_binding.py:383-428 -/
theorem contractOf_of_validateCapability {capabilityId version risk : String}
    {permissions effects : List String}
    (h : GovernedActionBinder.validateCapability capability =
      .ok (capabilityId, version, risk, permissions, effects)) :
    ContractOf capability capabilityId version risk permissions effects := by
  unfold GovernedActionBinder.validateCapability at h
  simp only [bind_eq_ok, raiseIf_eq_ok] at h
  obtain ⟨_, hid, _, hversion, _, hrisk, _, hpermissions, _, hnodup, found, heffects, _, hunknown,
    hresult⟩ := h
  obtain ⟨rfl, rfl, rfl, rfl, rfl⟩ : strip capability.id = capabilityId ∧
      strip capability.version = version ∧ strip capability.risk = risk ∧
      capability.permissions.map strip = permissions ∧ found = effects := by
    simpa using Except.ok.inj hresult
  exact ⟨rfl, hid, rfl, hversion, rfl, not_not.mp hrisk, rfl, hpermissions, not_not.mp hnodup,
    mapError_eq_ok.mp heffects, hunknown⟩

/-- How a binding comes about from a plan edge, a capability, a payload and a grant. -/
structure BoundFrom (sha256 : Json → Except PyError String) (plan : PlanState)
    (transitionIndex : ℤ) (capability : Capability) (payload : Json) (grant : ActionBindingGrant)
    (binding : PlanActionBinding) : Prop where
  planValid : validatePlanState sha256 plan = .ok ()
  indexNonneg : 0 ≤ transitionIndex
  indexBound : transitionIndex < plan.pathIds.length - 1
  source : binding.sourceStateId = plan.pathIds.getD transitionIndex.toNat ""
  target : binding.targetStateId = plan.pathIds.getD (transitionIndex.toNat + 1) ""
  contract : ContractOf capability binding.capabilityId binding.capabilityVersion
    binding.capabilityRisk binding.permissionsRequested binding.effectsDeclared
  payloadEq : sha256 payload = .ok binding.payloadSha256
  grantId : binding.grantId = strip grant.grantId ∧ binding.grantId ≠ ""
  authoritySource : binding.authoritySource = strip grant.authoritySource ∧
    binding.authoritySource ≠ ""
  planId : binding.planId = plan.planId ∧ strip grant.planId = plan.planId
  planState : binding.planStateSha256 = plan.stateSha256 ∧
    grant.planStateSha256 = plan.stateSha256
  revision : binding.planRevision = plan.revision
  index : binding.transitionIndex = transitionIndex ∧ grant.transitionIndex = transitionIndex
  edge : grant.sourceStateId = binding.sourceStateId ∧ grant.targetStateId = binding.targetStateId
  capabilityScope : grant.capabilityId = binding.capabilityId
  payloadScope : grant.payloadSha256 = binding.payloadSha256
  schema : binding.schema = "phios.plan_action_binding.v0.7.1"
  authority : binding.actionAuthority = false ∧ binding.executionAuthority = false
  digest : bindingDigest sha256 binding = .ok binding.bindingSha256

/-- SOURCE: core/governed_action_binding.py:430-468 -/
theorem grantScope_true {scope : BindingScope} {reason : String}
    (h : GovernedActionBinder.grantScope scope grant = .ok (true, reason)) :
    ∃ valid, grant = some valid ∧ strip valid.grantId ≠ "" ∧ strip valid.authoritySource ≠ "" ∧
      strip valid.planId = scope.plan.planId ∧ valid.planStateSha256 = scope.plan.stateSha256 ∧
      valid.transitionIndex = scope.transitionIndex ∧
      valid.sourceStateId = scope.sourceStateId ∧ valid.targetStateId = scope.targetStateId ∧
      valid.capabilityId = scope.capabilityId ∧ valid.payloadSha256 = scope.payloadSha256 := by
  cases grant with
  | none => simp [GovernedActionBinder.grantScope, pure, Except.pure] at h
  | some valid =>
      unfold GovernedActionBinder.grantScope at h
      simp only [bind_eq_ok, raiseIf_eq_ok] at h
      obtain ⟨_, hgrantId, _, hsource, h⟩ := h
      have h := Except.ok.inj h
      refine ⟨valid, rfl, hgrantId, hsource, ?_⟩
      split at h <;> [cases h; rename_i hplan]
      split at h <;> [cases h; rename_i hstate]
      split at h <;> [cases h; rename_i hindex]
      split at h <;> [cases h; rename_i hsourceState]
      split at h <;> [cases h; rename_i htarget]
      split at h <;> [cases h; rename_i hcapability]
      split at h <;> [cases h; rename_i hpayload]
      exact ⟨not_not.mp hplan, not_not.mp hstate, not_not.mp hindex, not_not.mp hsourceState,
        not_not.mp htarget, not_not.mp hcapability, not_not.mp hpayload⟩

/-- What a `BOUND` answer of the binder says about its arguments.
SOURCE: core/governed_action_binding.py:272-364 -/
theorem boundFrom_of_bind {receipt : ActionBindingReceipt}
    (h : GovernedActionBinder.bind sha256 plan transitionIndex capability payload grant =
      .ok (some binding, receipt)) :
    ∃ valid, grant = some valid ∧
      BoundFrom sha256 plan transitionIndex capability payload valid binding := by
  unfold GovernedActionBinder.bind at h
  obtain ⟨scope, hscope, h⟩ := bind_eq_ok.mp h
  obtain ⟨⟨scopeValid, reason⟩, hgrant, h⟩ := bind_eq_ok.mp h
  cases scopeValid with
  | false =>
      obtain ⟨held, -, h⟩ := bind_eq_ok.mp h
      cases h
  | true =>
      obtain ⟨valid, rfl, hgrantId, hsource, hplanId, hstate, hindex, hsourceState, htarget,
        hcapability, hpayload⟩ := grantScope_true hgrant
      obtain ⟨found, hgranted, h⟩ := bind_eq_ok.mp h
      obtain ⟨bound, -, h⟩ := bind_eq_ok.mp h
      obtain ⟨rfl, rfl⟩ : found = binding ∧ bound = receipt := by
        simpa using Except.ok.inj h
      unfold GovernedActionBinder.granted at hgranted
      obtain ⟨grantSha256, -, hgranted⟩ := bind_eq_ok.mp hgranted
      obtain ⟨bindingSha256, hdigest, hgranted⟩ := bind_eq_ok.mp hgranted
      obtain rfl := Except.ok.inj hgranted
      unfold GovernedActionBinder.bindingScope at hscope
      obtain ⟨_, hplan, hscope⟩ := bind_eq_ok.mp hscope
      obtain ⟨⟨source, target⟩, htransition, hscope⟩ := bind_eq_ok.mp hscope
      obtain ⟨⟨capabilityId, version, risk, permissions, effects⟩, hcontract, hscope⟩ :=
        bind_eq_ok.mp hscope
      obtain ⟨payloadSha256, hpayloadSha256, hscope⟩ := bind_eq_ok.mp hscope
      obtain rfl := Except.ok.inj hscope
      unfold GovernedActionBinder.transition at htransition
      obtain ⟨_, hbounds, htransition⟩ := bind_eq_ok.mp htransition
      have hbounds := raiseIf_eq_ok.mp hbounds
      push Not at hbounds
      obtain ⟨rfl, rfl⟩ := Prod.mk.inj (Except.ok.inj htransition)
      refine ⟨valid, rfl, ?_⟩
      exact {
        planValid := hplan
        indexNonneg := hbounds.1
        indexBound := hbounds.2
        source := rfl
        target := rfl
        contract := contractOf_of_validateCapability hcontract
        payloadEq := payloadDigest_eq_ok.mp hpayloadSha256
        grantId := ⟨rfl, hgrantId⟩
        authoritySource := ⟨rfl, hsource⟩
        planId := ⟨rfl, hplanId⟩
        planState := ⟨rfl, hstate⟩
        revision := rfl
        index := ⟨rfl, hindex⟩
        edge := ⟨hsourceState, htarget⟩
        capabilityScope := hcapability
        payloadScope := hpayload
        schema := rfl
        authority := ⟨rfl, rfl⟩
        digest := hdigest }

/-- The digests that a binding carries are digests as `hexdigest` writes them. -/
def HexDigests (binding : PlanActionBinding) : Prop :=
  isSha256Text binding.planStateSha256 = true ∧ isSha256Text binding.payloadSha256 = true ∧
    isSha256Text binding.grantSha256 = true ∧ isSha256Text binding.bindingSha256 = true

theorem validatePlanState_eq_ok (h : validatePlanState sha256 plan = .ok ()) :
    plan.schema = "phios.plan_state.v0.6" ∧ strip plan.planId ≠ "" ∧ 0 ≤ plan.revision ∧
      (∀ item ∈ plan.pathIds, strip item ≠ "") ∧ plan.actionAuthority = false ∧
      plan.executionAuthority = false ∧ planStateDigest sha256 plan = .ok plan.stateSha256 := by
  unfold validatePlanState at h
  simp only [bind_eq_ok, raiseIf_eq_ok] at h
  obtain ⟨_, hschema, _, hplanId, _, hrevision, _, hpath, _, haction, _, hexecution, expected,
    hdigest, hstate⟩ := h
  push Not at hpath
  refine ⟨not_not.mp hschema, hplanId, not_lt.mp hrevision, hpath.2, by simpa using haction,
    by simpa using hexecution, ?_⟩
  rw [hdigest, not_not.mp hstate]

/-- Plans that validate with one digest are one plan. -/
theorem planState_of_digest (hapart : TellsApart sha256) {plan' : PlanState}
    (h : validatePlanState sha256 plan = .ok ()) (h' : validatePlanState sha256 plan' = .ok ())
    (heq : plan.stateSha256 = plan'.stateSha256) : plan = plan' := by
  obtain ⟨hschema, -, -, -, haction, hexecution, hdigest⟩ := validatePlanState_eq_ok h
  obtain ⟨hschema', -, -, -, haction', hexecution', hdigest'⟩ := validatePlanState_eq_ok h'
  unfold planStateDigest at hdigest hdigest'
  rw [payloadDigest_eq_ok] at hdigest hdigest'
  rw [← heq] at hdigest'
  have hlookup := Json.lookup_of_canonical_eq (hapart hdigest hdigest')
  have hplanId := hlookup "plan_id"
  have hrevision := hlookup "revision"
  have hpath := hlookup "path_ids"
  have hroute := hlookup "source_route_receipt_sha256"
  have hreplan := hlookup "source_replan_receipt_sha256"
  have hparent := hlookup "parent_plan_sha256"
  simp [List.lookup_cons, Json.canonical, Json.strs_canonical, Json.optStr_canonical]
    at hplanId hrevision hpath hroute hreplan hparent
  have hpath := Json.strs_inj hpath
  have hreplan := Json.optStr_inj hreplan
  have hparent := Json.optStr_inj hparent
  cases plan
  cases plan'
  simp_all

theorem BoundFrom.onPath {valid : ActionBindingGrant}
    (h : BoundFrom sha256 plan transitionIndex capability payload valid binding) :
    plan.pathIds[transitionIndex.toNat]? = some binding.sourceStateId ∧
      plan.pathIds[transitionIndex.toNat + 1]? = some binding.targetStateId := by
  have hnonneg := h.indexNonneg
  have hbound := h.indexBound
  have hlast : transitionIndex.toNat + 1 < plan.pathIds.length := by omega
  have hfirst : transitionIndex.toNat < plan.pathIds.length := by omega
  rw [h.source, h.target]
  simp [hfirst, hlast]

/-- A binding that was just made is valid.
SOURCE: core/governed_action_binding.py:164-265 -/
theorem BoundFrom.valid {valid : ActionBindingGrant}
    (h : BoundFrom sha256 plan transitionIndex capability payload valid binding)
    (hhex : HexDigests binding) : validateBinding sha256 binding = .ok () := by
  obtain ⟨-, hplanId, hrevision, hpath, -, -, -⟩ := validatePlanState_eq_ok h.planValid
  have hsource := hpath _ (List.mem_of_getElem? h.onPath.1)
  have htarget := hpath _ (List.mem_of_getElem? h.onPath.2)
  have hcontract := h.contract
  have hid : strip binding.capabilityId ≠ "" := by
    rw [hcontract.idEq, strip_strip, ← hcontract.idEq]
    exact hcontract.idPresent
  have hversion : strip binding.capabilityVersion ≠ "" := by
    rw [hcontract.versionEq, strip_strip, ← hcontract.versionEq]
    exact hcontract.versionPresent
  have hpermissions : ¬ ∃ item ∈ binding.permissionsRequested, strip item = "" := by
    rintro ⟨item, hitem, hblank⟩
    have hpresent := hcontract.permissionsPresent
    rw [hcontract.permissionsEq] at hitem hpresent
    obtain ⟨raw, -, rfl⟩ := List.mem_map.mp hitem
    rw [strip_strip] at hblank
    rw [hblank] at hitem
    exact hpresent hitem
  have heffects := normalizeEffects_normalized hcontract.effectsEq "binding effects"
  have hgrantId : strip binding.grantId ≠ "" := by
    rw [h.grantId.1, strip_strip, ← h.grantId.1]
    exact h.grantId.2
  have hauthority : strip binding.authoritySource ≠ "" := by
    rw [h.authoritySource.1, strip_strip, ← h.authoritySource.1]
    exact h.authoritySource.2
  have hindex : ¬ binding.transitionIndex < 0 := by
    rw [h.index.1]
    exact not_lt.mpr h.indexNonneg
  have hplan : strip binding.planId ≠ "" := by
    rw [h.planId.1]
    exact hplanId
  have hrevision : ¬ binding.planRevision < 0 := by
    rw [h.revision]
    exact not_lt.mpr hrevision
  obtain ⟨hstate, hpayload, hgrant, hbinding⟩ := hhex
  unfold validateBinding
  simp only [bind_eq_ok, raiseIf_eq_ok, heffects, Except.mapError, exists_const]
  refine ⟨not_not.mpr h.schema, by simp [h.authority.1], by simp [h.authority.2], hplan, hrevision,
    hindex, ?_, hid, hversion, not_not.mpr hcontract.riskKnown, hpermissions,
    not_not.mpr hcontract.permissionsNodup, _, rfl, not_not.mpr rfl, hcontract.effectsKnown, (),
    validateSha256_of_isSha256Text hstate _ _, (), validateSha256_of_isSha256Text hpayload _ _, (),
    validateSha256_of_isSha256Text hgrant _ _, (), validateSha256_of_isSha256Text hbinding _ _,
    hgrantId, hauthority, _, h.digest, not_not.mpr rfl⟩
  rintro (hblank | hblank)
  · exact hsource hblank
  · exact htarget hblank

/-! ## What a handoff has checked when it enters the executor -/

/-- The checks a handoff has made when it enters the executor for the capability `c` with `p`. -/
structure Checked (sha256 : Json → Except PyError String) (request : ExecutionRequest) (c : String)
    (p : Json) : Prop where
  inputs : GovernedExecutionHandoff.validateInputs sha256 request.plan request.binding = .ok ()
  scope : GovernedExecutionHandoff.currentPlanScope request.plan request.binding = none
  payloadEq : sha256 request.payload = .ok request.binding.payloadSha256
  contract : GovernedExecutionHandoff.runtimeScope request.spine request.binding = .ok none
  registered : ∃ capability, request.spine.registry.get request.binding.capabilityId =
    .ok capability ∧ c = capability.id
  handed : p = request.payload

open Classical in
/-- The protocol in which every entry of the executor satisfies `P`. -/
noncomputable def entryNext (P : String → Json → Prop) :
    Unit → (o : LedgerOp) → o.Reply → Option Unit
  | _, .spine (.execute c p), _ => if P c p then some () else none
  | _, _, _ => some ()

theorem entry_of_advance {P : String → Json → Prop} {t : List (Prog.Event LedgerOp.Reply)}
    (h : Prog.advance (entryNext P) () t = some ()) {c : String} {p : Json}
    {r : (LedgerOp.spine (.execute c p)).Reply} (hmem : ⟨.spine (.execute c p), r⟩ ∈ t) : P c p := by
  obtain ⟨t₁, t₂, rfl⟩ := List.append_of_mem hmem
  rw [Prog.advance_append, Option.bind_eq_some_iff] at h
  obtain ⟨_, -, hrest⟩ := h
  rw [Prog.advance, Option.bind_eq_some_iff] at hrest
  obtain ⟨_, hentry, -⟩ := hrest
  by_contra hno
  simp [entryNext, hno] at hentry

section Entry

variable {request : ExecutionRequest} {P : String → Json → Prop}

/-- Nothing is asked of how a handoff ends. -/
abbrev anyOutcome {α : Type} : Unit → α → Prop := fun _ _ => True

/-- A spine run enters only where both boundaries grant it. -/
theorem obeys_runOn_granted {spine : PhiOSSpine} {capabilityId : String} {payload : Json}
    {provenance : Option GovernedProvenance}
    (h : ∀ c p, Granted spine capabilityId payload c p → P c p) :
    (spine.runOn capabilityId payload provenance).Obeys (fun _ _ => True) (entryNext P)
      anyOutcome anyOutcome () := by
  have hhoist : (spine.runOn capabilityId payload provenance).Obeys (fun _ _ => True)
      (Stage.nextOn spine capabilityId payload) RunPost (RunExn fun _ => True) .opened :=
    Prog.Obeys.hoist (obeys_run (F := fun _ => True)) (fun _ _ _ _ _ _ => trivial) fun _ _ _ => rfl
  refine hhoist.map (m := fun _ => ()) ?_ (fun _ _ _ => trivial) fun _ _ _ => trivial
  intro s o r s' hnext
  cases o with
  | spine o =>
      cases o with
      | execute c p =>
          obtain ⟨-, hgranted, -⟩ := Stage.next_execute hnext
          simp [entryNext, h c p hgranted]
      | uuid4 | now | mandalaAppend _ | ledgerAppend _ => rfl
  | claim _ _ | release _ _ | hasConsumedBinding _ | hasConsumedActionLease _ => cases hnext

/-- SOURCE: core/governed_execution_handoff.py:234-275 -/
theorem obeys_executeClaimed_checked
    (h : ∀ c p, Granted request.spine request.binding.capabilityId request.payload c p → P c p) :
    (GovernedExecutionHandoff.executeClaimed sha256 request).Obeys (fun _ _ => True) (entryNext P)
      anyOutcome anyOutcome () := by
  have hrelease : (releaseBindingClaim request.binding.bindingSha256).Obeys (fun _ _ => True)
      (entryNext P) (fun l _ => l = ()) anyOutcome () :=
    obeys_releaseClaim (fun _ => rfl) fun _ _ => trivial
  unfold GovernedExecutionHandoff.executeClaimed
  refine Prog.Obeys.bind (Q := anyOutcome) (Prog.Obeys.attempt (obeys_runOn_granted h)) ?_
  rintro l (e | execution) -
  · dsimp only
    split
    · exact Prog.Obeys.bind hrelease fun _ _ _ => trivial
    · trivial
  · refine Prog.obeys_ofExcept_bind (fun _ _ => trivial) fun _ _ => ?_
    refine Prog.obeys_ofExcept_bind (fun _ _ => trivial) ?_
    rintro ⟨status, reason, consumed⟩ -
    cases consumed with
    | false =>
        refine Prog.Obeys.bind hrelease fun _ _ _ => ?_
        exact Prog.obeys_ofExcept (fun _ _ => trivial) fun _ _ => trivial
    | true => exact Prog.obeys_ofExcept (fun _ _ => trivial) fun _ _ => trivial

/-- A handoff enters the executor only after all of its checks.
SOURCE: core/governed_execution_handoff.py:101-275 -/
theorem obeys_execute_checked :
    (GovernedExecutionHandoff.execute sha256 request).Obeys (fun _ _ => True)
      (entryNext (Checked sha256 request)) anyOutcome anyOutcome () := by
  have hheld : ∀ {reason replayBlocked},
      (GovernedExecutionHandoff.held sha256 request.plan request.binding reason replayBlocked).Obeys
        (fun _ _ => True) (entryNext (Checked sha256 request)) anyOutcome anyOutcome () :=
    Prog.obeys_ofExcept (fun _ _ => trivial) fun _ _ => trivial
  unfold GovernedExecutionHandoff.execute
  refine Prog.obeys_ofExcept_bind (fun _ _ => trivial) fun _ hinputs => ?_
  refine Prog.obeys_ofExcept_bind (fun _ _ => trivial) fun _ _ => ?_
  split
  · exact hheld
  rename_i hscope
  refine Prog.obeys_ofExcept_bind (fun _ _ => trivial) fun payloadSha256 hpayload => ?_
  split
  · exact hheld
  rename_i hsame
  refine Prog.obeys_ofExcept_bind (fun _ _ => trivial) fun scope hruntime => ?_
  split
  · exact hheld
  rename_i hnone
  refine Prog.Obeys.bind (Q := anyOutcome) ?_ ?_
  · exact Prog.obeys_call_bind_of_skip (fun _ => rfl) fun _ _ => trivial
  rintro l (e | consumed) -
  · trivial
  cases consumed with
  | true => exact hheld
  | false =>
      refine Prog.Obeys.bind (Q := anyOutcome) ?_ ?_
      · have hclaim : ∀ r : ClaimReply, entryNext (Checked sha256 request) ()
            (.claim .binding request.binding.bindingSha256) r =
              some (if r.isCreated then () else ()) := fun r => by cases r.isCreated <;> rfl
        have hobeys : (tryClaim .binding request.binding.bindingSha256 "binding_sha256").Obeys
            (fun _ _ => True) (entryNext (Checked sha256 request)) _ anyOutcome () :=
          obeys_tryClaim hclaim
        exact hobeys.mono (fun _ _ _ => trivial) fun _ _ _ => trivial
      rintro l (e | claimed) -
      · trivial
      cases claimed with
      | false => exact hheld
      | true =>
          refine obeys_executeClaimed_checked ?_
          rintro c p ⟨capability, -, hget, hc, hp, -⟩
          have hnoScope := Option.eq_none_iff_forall_ne_some.mpr fun reason h => hscope reason h
          have hdigest : sha256 request.payload = .ok request.binding.payloadSha256 := by
            rw [mapError_eq_ok, payloadDigest_eq_ok, not_not.mp hsame] at hpayload
            exact hpayload
          have hcontract : GovernedExecutionHandoff.runtimeScope request.spine request.binding =
              .ok none := by
            rw [hruntime, Option.eq_none_iff_forall_ne_some.mpr fun reason h => hnone reason h]
          exact {
            inputs := hinputs
            scope := hnoScope
            payloadEq := hdigest
            contract := hcontract
            registered := ⟨capability, hget, hc⟩
            handed := hp }

end Entry

/-! ## What a spine run hands back -/

section Receipts

open PhiOSSpine

/-- The receipt names the payload, the permissions and the provenance that the run was given. -/
def Carries (digest : String) (permissions : List String) (provenance : Option GovernedProvenance)
    (receipt : ExecutionReceipt) : Prop :=
  receipt.inputSha256 = digest ∧ receipt.permissionsRequested = permissions ∧
    receipt.governedProvenance = provenance

variable {spine : PhiOSSpine} {phiPlan : PhiPlan} {packet : MandalaPacket} {gate : GateReceipt}
  {decision : PermissionDecision} {receipt : ExecutionReceipt} {digest : String}
  {permissions : List String} {provenance : Option GovernedProvenance}

/-- SOURCE: runtime.py:518-532, 566-580 -/
theorem returns_executionReceipt {gateId : String} {status : PermissionStatus}
    {error : Option String} :
    (spine.executionReceipt phiPlan capability packet gateId permissions status provenance
      error).Returns fun r => ∃ digest, spine.digests.hashPayload phiPlan.payload = .ok digest ∧
        Carries digest permissions provenance r := by
  intro receiptId timestamp
  refine Prog.returns_ofExcept_bind fun digest hdigest => ?_
  exact ⟨digest, hdigest, rfl, rfl, rfl⟩

/-- SOURCE: runtime.py:551-554, 685-687 -/
theorem returns_finish {action : ActionReceipt} (h : Carries digest permissions provenance receipt) :
    (finish receipt action).Returns (Carries digest permissions provenance) :=
  Prog.returns_bind fun _ => h

/-- SOURCE: runtime.py:616-635 -/
theorem returns_tryExecute (h : Carries digest permissions provenance receipt) :
    (tryExecute phiPlan capability packet gate decision receipt).Returns fun
      | .ok (r, _) => Carries digest permissions provenance r
      | .error (r, _) => Carries digest permissions provenance r := by
  refine Prog.returns_bind fun reply => ?_
  cases reply with
  | error e => exact h
  | ok artifact =>
      refine Prog.returns_bind fun action => ?_
      refine Prog.returns_bind fun appended => ?_
      cases appended with
      | ok _ => exact h
      | error e => exact h

/-- SOURCE: runtime.py:636-683 -/
theorem returns_exceptClauses {e : PyError} (h : Carries digest permissions provenance receipt) :
    (exceptClauses capability packet gate decision receipt e).Returns fun r =>
      Carries digest permissions provenance r.1 := by
  unfold exceptClauses
  split
  · refine Prog.returns_bind fun action => ?_
    exact Prog.returns_bind fun _ => h
  · split
    · refine Prog.returns_bind fun action => ?_
      refine Prog.returns_bind fun _ => ?_
      refine Prog.returns_bind fun envelope => ?_
      exact Prog.returns_bind fun _ => h
    · trivial

/-- SOURCE: runtime.py:607-687 -/
theorem returns_runAllowed (h : Carries digest permissions provenance receipt) :
    (runAllowed phiPlan capability packet gate decision receipt).Returns
      (Carries digest permissions provenance) := by
  have hentered : Carries digest permissions provenance { receipt with executorEntered := true } := h
  refine Prog.Returns.bind (returns_tryExecute hentered) ?_
  rintro (⟨r, e⟩ | ⟨r, action⟩) hr
  · refine Prog.Returns.bind (returns_exceptClauses hr) ?_
    rintro ⟨r', action⟩ hr'
    exact returns_finish hr'
  · exact returns_finish hr

/-- **A spine run hands back what it was given**: its receipt names the digest of the payload, the
permissions of the registered capability, and the provenance.
SOURCE: runtime.py:495-687 -/
theorem returns_run {capabilityId : String} :
    (spine.run capabilityId payload provenance).Returns fun r => ∃ capability digest,
      spine.registry.get capabilityId = .ok capability ∧
        spine.digests.hashPayload payload = .ok digest ∧
          Carries digest capability.permissions provenance r := by
  refine Prog.returns_ofExcept_bind fun capability hget => ?_
  refine Prog.returns_bind fun packet => ?_
  refine Prog.returns_bind fun effect => ?_
  refine Prog.returns_bind fun _ => ?_
  have hwrap : ∀ {digest} {p : SpineProg ExecutionReceipt},
      spine.digests.hashPayload payload = .ok digest →
      p.Returns (Carries digest capability.permissions provenance) →
      p.Returns fun r => ∃ capability digest, spine.registry.get capabilityId = .ok capability ∧
        spine.digests.hashPayload payload = .ok digest ∧
          Carries digest capability.permissions provenance r := by
    intro digest p hdigest hp
    exact hp.mono fun r hr => ⟨capability, digest, hget, hdigest, hr⟩
  split
  · -- the effect boundary blocks
    refine Prog.returns_bind fun gate => ?_
    refine Prog.returns_bind fun _ => ?_
    refine Prog.Returns.bind returns_executionReceipt ?_
    rintro receipt ⟨digest, hdigest, hreceipt⟩
    refine hwrap hdigest ?_
    refine Prog.returns_bind fun action => ?_
    exact Prog.returns_bind fun _ => returns_finish hreceipt
  · refine Prog.returns_bind fun gate => ?_
    refine Prog.returns_bind fun _ => ?_
    refine Prog.Returns.bind returns_executionReceipt ?_
    rintro receipt ⟨digest, hdigest, hreceipt⟩
    refine hwrap hdigest ?_
    split
    · refine Prog.returns_bind fun action => ?_
      exact Prog.returns_bind fun _ => returns_finish hreceipt
    · exact returns_runAllowed hreceipt

end Receipts

/-! ## Executing a binding that was just made -/

/-- A registry as `register` fills it: a capability is found under its own id. -/
def Keyed (registry : CapabilityRegistry) : Prop :=
  ∀ id capability, registry.get id = .ok capability → capability.id = id

/-- The reasons by which a handoff holds a binding whose capability is not what it was. -/
def contractDrift : List String :=
  ["capability_not_registered", "capability_effect_contract_invalid", "capability_contract_drift"]

/-- The reasons by which a handoff holds a binding for scope, payload or contract drift. -/
def driftReasons : List String :=
  ["binding_plan_scope_mismatch", "binding_plan_state_scope_mismatch",
    "binding_plan_revision_scope_mismatch", "binding_transition_not_in_current_plan",
    "binding_source_not_in_current_plan", "binding_target_not_in_current_plan",
    "payload_digest_mismatch"] ++ contractDrift

/-- The id, the version, the risk and the permissions of the capability have nothing to strip. -/
def Trimmed (capability : Capability) : Prop :=
  strip capability.id = capability.id ∧ strip capability.version = capability.version ∧
    strip capability.risk = capability.risk ∧
      capability.permissions.map strip = capability.permissions

/-- The binding names what the grant names. -/
structure Names (binding : PlanActionBinding) (grant : ActionBindingGrant) : Prop where
  planState : binding.planStateSha256 = grant.planStateSha256
  transition : binding.transitionIndex = grant.transitionIndex
  source : binding.sourceStateId = grant.sourceStateId
  target : binding.targetStateId = grant.targetStateId
  capabilityId : binding.capabilityId = grant.capabilityId
  payloadSha256 : binding.payloadSha256 = grant.payloadSha256

/-- An entry for `c` with `p` is for what was bound: the payload, the plan, its edge, and a
registered capability with the id, version, risk, permissions and effects of the bound one. -/
structure EnteredAsBound (plan : PlanState) (transitionIndex : ℤ) (capability : Capability)
    (payload : Json) (request : ExecutionRequest) (c : String) (p : Json) : Prop where
  payloadSame : p.canonical = payload.canonical
  planSame : request.plan = plan
  indexSame : request.binding.transitionIndex = transitionIndex
  sourceSame : plan.pathIds[transitionIndex.toNat]? = some request.binding.sourceStateId
  targetSame : plan.pathIds[transitionIndex.toNat + 1]? = some request.binding.targetStateId
  capabilitySame : ∃ current, request.spine.registry.get c = .ok current ∧ current.id = c ∧
    c = capability.id ∧ current.version = capability.version ∧ current.risk = capability.risk ∧
    current.permissions = capability.permissions ∧
    ∃ effects, normalizeEffects current.effects "effects" false = .ok effects ∧
      normalizeEffects capability.effects "effects" false = .ok effects

/-- No check of the handoff finds a drift of scope, payload or contract: the inputs validate, the
edge is in the plan, the payload has the bound digest, the registry has the bound contract, no
receipt names a drift, and what the spine returns fits the binding. -/
structure Undrifted (sha256 : Json → Except PyError String) (request : ExecutionRequest) :
    Prop where
  inputs : GovernedExecutionHandoff.validateInputs sha256 request.plan request.binding = .ok ()
  scope : GovernedExecutionHandoff.currentPlanScope request.plan request.binding = none
  payloadEq : sha256 request.payload = .ok request.binding.payloadSha256
  contract : ∀ reason, GovernedExecutionHandoff.runtimeScope request.spine request.binding =
    .ok (some reason) → reason ∉ contractDrift
  receipts : ∀ t receipt, Prog.Steps (GovernedExecutionHandoff.execute sha256 request) t
    (.ret receipt) → receipt.reason ∉ driftReasons
  execution : ∀ t execution, Prog.Steps (request.spine.runOn request.binding.capabilityId
    request.payload (some (.plan (GovernedExecutionHandoff.provenance request)))) t
    (.ret execution) → GovernedExecutionHandoff.checkExecution request execution = .ok ()

/-- The runtime checks for a registered capability. -/
theorem runtimeScope_of_get {spine : PhiOSSpine} {effects : List String}
    (hget : spine.registry.get binding.capabilityId = .ok capability)
    (heffects : normalizeEffects capability.effects "runtime capability effects" false =
      .ok effects) :
    GovernedExecutionHandoff.runtimeScope spine binding =
      if capability.version ≠ binding.capabilityVersion ∨
          capability.risk ≠ binding.capabilityRisk ∨
          capability.permissions ≠ binding.permissionsRequested ∨
          effects ≠ binding.effectsDeclared then
        .ok (some "capability_contract_drift")
      else match spine.executors.effects capability.id with
        | .error _ => .ok (some "executor_effect_contract_missing")
        | .ok executorEffects => do
            let decision ← spine.effectPolicy.evaluate capability executorEffects
            if decision.allowed then return none
            return some ("effect_boundary_" ++ decision.reason) := by
  unfold GovernedExecutionHandoff.runtimeScope
  rw [hget]
  dsimp only
  rw [heffects]
  rfl

/-- What the registry has when the runtime checks let a binding through. -/
theorem contract_of_runtimeScope {spine : PhiOSSpine}
    (h : GovernedExecutionHandoff.runtimeScope spine binding = .ok none)
    (hget : spine.registry.get binding.capabilityId = .ok capability) :
    capability.version = binding.capabilityVersion ∧ capability.risk = binding.capabilityRisk ∧
      capability.permissions = binding.permissionsRequested ∧
        normalizeEffects capability.effects "runtime capability effects" false =
          .ok binding.effectsDeclared := by
  cases heffects : normalizeEffects capability.effects "runtime capability effects" false with
  | error e =>
      unfold GovernedExecutionHandoff.runtimeScope at h
      rw [hget] at h
      dsimp only at h
      rw [heffects] at h
      cases h
  | ok effects =>
      rw [runtimeScope_of_get hget heffects] at h
      split at h
      · cases h
      · rename_i hsame
        push Not at hsame
        obtain ⟨hversion, hrisk, hpermissions, hsame⟩ := hsame
        exact ⟨hversion, hrisk, hpermissions, by rw [hsame]⟩

theorem notMem_driftReasons {text : String} (h : text.toList.head? = some 'e') :
    text ∉ driftReasons := by
  intro hmem
  have hheads : ∀ reason ∈ driftReasons, reason.toList.head? ≠ some 'e' := by decide
  exact hheads text hmem h

section Bound

variable {valid : ActionBindingGrant} {request : ExecutionRequest}

theorem BoundFrom.planSame (hapart : TellsApart sha256)
    (h : BoundFrom sha256 plan transitionIndex capability payload valid request.binding)
    (hinputs : GovernedExecutionHandoff.validateInputs sha256 request.plan request.binding = .ok ())
    (hscope : GovernedExecutionHandoff.currentPlanScope request.plan request.binding = none) :
    request.plan = plan := by
  have hvalid : validatePlanState sha256 request.plan = .ok () := by
    have hboth := mapError_eq_ok.mp hinputs
    obtain ⟨_, hplan, -⟩ := bind_eq_ok.mp hboth
    exact hplan
  have hstate : request.binding.planStateSha256 = request.plan.stateSha256 := by
    unfold GovernedExecutionHandoff.currentPlanScope at hscope
    split at hscope <;> [cases hscope; skip]
    split at hscope <;> [cases hscope; rename_i hsame]
    exact not_not.mp hsame
  exact planState_of_digest hapart hvalid h.planValid (hstate.symm.trans h.planState.1)

/-- An entry of the executor is for what was bound. -/
theorem enteredAsBound_of_checked (hapart : TellsApart sha256)
    (h : BoundFrom sha256 plan transitionIndex capability payload valid request.binding)
    (htrimmed : Trimmed capability) (hkeyed : Keyed request.spine.registry) {c : String} {p : Json}
    (hchecked : Checked sha256 request c p) :
    EnteredAsBound plan transitionIndex capability payload request c p := by
  obtain ⟨current, hget, hc⟩ := hchecked.registered
  obtain ⟨hversion, hrisk, hpermissions, heffects⟩ :=
    contract_of_runtimeScope hchecked.contract hget
  obtain ⟨hidTrim, hversionTrim, hriskTrim, hpermissionsTrim⟩ := htrimmed
  have hcontract := h.contract
  have hkey : current.id = request.binding.capabilityId := hkeyed _ _ hget
  have hbound : c = request.binding.capabilityId := hc.trans hkey
  have hself : c = capability.id := by rw [hbound, hcontract.idEq, hidTrim]
  refine {
    payloadSame := ?_
    planSame := h.planSame hapart hchecked.inputs hchecked.scope
    indexSame := h.index.1
    sourceSame := h.onPath.1
    targetSame := h.onPath.2
    capabilitySame := ⟨current, by rw [hbound]; exact hget, hc.symm, hself, ?_, ?_, ?_, ?_⟩ }
  · rw [hchecked.handed]
    exact hapart hchecked.payloadEq h.payloadEq
  · rw [hversion, hcontract.versionEq, hversionTrim]
  · rw [hrisk, hcontract.riskEq, hriskTrim]
  · rw [hpermissions, hcontract.permissionsEq, hpermissionsTrim]
  · exact ⟨_, normalizeEffects_label heffects _, normalizeEffects_label hcontract.effectsEq _⟩

/-- SOURCE: core/governed_execution_handoff.py:319-339 -/
theorem BoundFrom.inScope
    (h : BoundFrom sha256 plan transitionIndex capability payload valid binding) :
    GovernedExecutionHandoff.currentPlanScope plan binding = none := by
  have hnonneg := h.indexNonneg
  have hbound := h.indexBound
  have hindex : ¬ (binding.transitionIndex < 0 ∨ plan.pathIds.length - 1 ≤ binding.transitionIndex) := by
    rw [h.index.1]
    omega
  unfold GovernedExecutionHandoff.currentPlanScope
  rw [if_neg (not_not.mpr h.planId.1), if_neg (not_not.mpr h.planState.1),
    if_neg (not_not.mpr h.revision), if_neg hindex, h.index.1, if_neg (not_not.mpr h.onPath.1),
    if_neg (not_not.mpr h.onPath.2)]

/-- The contract of a registered capability with nothing to strip is the bound one. -/
theorem BoundFrom.noContractDrift {spine : PhiOSSpine}
    (h : BoundFrom sha256 plan transitionIndex capability payload valid binding)
    (htrimmed : Trimmed capability) (hget : spine.registry.get capability.id = .ok capability)
    {reason : String}
    (hscope : GovernedExecutionHandoff.runtimeScope spine binding = .ok (some reason)) :
    reason.toList.head? = some 'e' := by
  obtain ⟨hidTrim, hversionTrim, hriskTrim, hpermissionsTrim⟩ := htrimmed
  have hcontract := h.contract
  have hget : spine.registry.get binding.capabilityId = .ok capability := by
    rw [hcontract.idEq, hidTrim]
    exact hget
  rw [runtimeScope_of_get hget (normalizeEffects_label hcontract.effectsEq _)] at hscope
  have hsame : ¬ (capability.version ≠ binding.capabilityVersion ∨
      capability.risk ≠ binding.capabilityRisk ∨
      capability.permissions ≠ binding.permissionsRequested ∨
      binding.effectsDeclared ≠ binding.effectsDeclared) := by
    rw [hcontract.versionEq, hcontract.riskEq, hcontract.permissionsEq, hversionTrim, hriskTrim,
      hpermissionsTrim]
    simp
  rw [if_neg hsame] at hscope
  split at hscope
  · obtain rfl := Option.some.inj (Except.ok.inj hscope)
    decide
  · obtain ⟨decision, -, hscope⟩ := bind_eq_ok.mp hscope
    split at hscope
    · cases hscope
    · obtain rfl := Option.some.inj (Except.ok.inj hscope)
      simp [String.toList_append]

theorem reason_of_receipt {status : HandoffStatus} {reason : String}
    {bindingConsumed replayBlocked : Bool} {execution : Option ExecutionReceipt}
    {receipt : ExecutionHandoffReceipt}
    (h : GovernedExecutionHandoff.receipt sha256 plan binding status reason bindingConsumed
      replayBlocked execution = .ok receipt) : receipt.reason = reason := by
  unfold GovernedExecutionHandoff.receipt at h
  obtain ⟨receiptSha256, -, h⟩ := bind_eq_ok.mp h
  obtain rfl := Except.ok.inj h
  rfl

/-- The receipts of a handoff that took its claim name an outcome of the spine. -/
theorem returns_executeClaimed :
    (GovernedExecutionHandoff.executeClaimed sha256 request).Returns fun receipt =>
      receipt.reason ∉ driftReasons := by
  unfold GovernedExecutionHandoff.executeClaimed
  refine Prog.returns_bind fun res => ?_
  cases res with
  | error e =>
      dsimp only
      split
      · exact Prog.returns_bind fun _ => trivial
      · trivial
  | ok execution =>
      refine Prog.returns_ofExcept_bind fun _ _ => ?_
      refine Prog.returns_ofExcept_bind fun out hout => ?_
      obtain ⟨status, reason, consumed⟩ := out
      have hreason : reason ∉ driftReasons := by
        unfold GovernedExecutionHandoff.outcome at hout
        split at hout
        all_goals first | cases hout; done | skip
        all_goals
          obtain ⟨-, rfl, -⟩ : _ ∧ _ = reason ∧ _ := by simpa using Except.ok.inj hout
          decide
      have hlast : (Prog.ofExcept (GovernedExecutionHandoff.receipt sha256 request.plan
          request.binding status reason consumed false (some execution)) :
          LedgerProg ExecutionHandoffReceipt).Returns fun receipt => receipt.reason ∉ driftReasons :=
        Prog.returns_ofExcept fun receipt hreceipt => by rwa [reason_of_receipt hreceipt]
      cases consumed with
      | false => exact Prog.returns_bind fun _ => hlast
      | true => exact hlast

/-- Once the checks are passed, no receipt names a drift.
SOURCE: core/governed_execution_handoff.py:101-275 -/
theorem returns_execute
    (hscope : GovernedExecutionHandoff.currentPlanScope request.plan request.binding = none)
    (hpayload : sha256 request.payload = .ok request.binding.payloadSha256)
    (hcontract : ∀ reason, GovernedExecutionHandoff.runtimeScope request.spine request.binding =
      .ok (some reason) → reason ∉ driftReasons) :
    (GovernedExecutionHandoff.execute sha256 request).Returns fun receipt =>
      receipt.reason ∉ driftReasons := by
  have hheld : ∀ {reason replayBlocked}, reason ∉ driftReasons →
      (GovernedExecutionHandoff.held sha256 request.plan request.binding reason
        replayBlocked).Returns fun receipt => receipt.reason ∉ driftReasons := by
    intro reason replayBlocked hreason
    exact Prog.returns_ofExcept fun receipt hreceipt => by rwa [reason_of_receipt hreceipt]
  unfold GovernedExecutionHandoff.execute
  refine Prog.returns_ofExcept_bind fun _ _ => ?_
  refine Prog.returns_ofExcept_bind fun _ _ => ?_
  split
  · rename_i hsome
    rw [hscope] at hsome
    cases hsome
  refine Prog.returns_ofExcept_bind fun payloadSha256 hdigest => ?_
  rw [mapError_eq_ok, payloadDigest_eq_ok, hpayload] at hdigest
  rw [if_neg (not_not.mpr (Except.ok.inj hdigest).symm)]
  refine Prog.returns_ofExcept_bind fun scope hruntime => ?_
  split
  · exact hheld (hcontract _ hruntime)
  refine Prog.returns_bind fun consumed => ?_
  rcases consumed with e | consumed
  · trivial
  cases consumed with
  | true => exact hheld (by decide)
  | false =>
      refine Prog.returns_bind fun claimed => ?_
      rcases claimed with e | claimed
      · trivial
      cases claimed with
      | false => exact hheld (by decide)
      | true => exact returns_executeClaimed

/-- A handoff with the plan, the payload and the capability of the binding finds no drift,
if the capability has nothing to strip. -/
theorem undrifted_of_trimmed
    (h : BoundFrom sha256 request.plan transitionIndex capability request.payload valid
      request.binding)
    (hhex : HexDigests request.binding) (htrimmed : Trimmed capability)
    (hget : request.spine.registry.get capability.id = .ok capability)
    (hspine : request.spine.digests.hashPayload = sha256) : Undrifted sha256 request := by
  have hcontract : ∀ reason, GovernedExecutionHandoff.runtimeScope request.spine request.binding =
      .ok (some reason) → reason ∉ driftReasons := fun reason hreason =>
    notMem_driftReasons (h.noContractDrift htrimmed hget hreason)
  refine {
    inputs := ?_
    scope := h.inScope
    payloadEq := h.payloadEq
    contract := fun reason hreason hmem => hcontract reason hreason (List.mem_append_right _ hmem)
    receipts := fun t receipt hsteps =>
      (returns_execute h.inScope h.payloadEq hcontract).steps hsteps
    execution := fun t execution hsteps => ?_ }
  · unfold GovernedExecutionHandoff.validateInputs
    rw [h.planValid, h.valid hhex]
    rfl
  · obtain ⟨current, digest, hcurrent, hdigest, hinput, hpermissions, hprovenance⟩ :=
      (Prog.Returns.hoist returns_run).steps hsteps
    rw [h.contract.idEq, htrimmed.1, hget] at hcurrent
    obtain rfl := Except.ok.inj hcurrent
    rw [hspine, h.payloadEq] at hdigest
    obtain rfl := Except.ok.inj hdigest
    have hsame : execution.permissionsRequested = request.binding.permissionsRequested := by
      rw [hpermissions, h.contract.permissionsEq, htrimmed.2.2.2]
    unfold GovernedExecutionHandoff.checkExecution
    simp [raiseIf, hinput, hsame, hprovenance, Bind.bind, Except.bind]

/-- A spine with one registered capability and nothing else. -/
def soleSpine (sha256 : Json → Except PyError String) (capability : Capability) : PhiOSSpine where
  registry := ⟨fun id => if id = capability.id then some capability else none⟩
  effectPolicy := ⟨""⟩
  gate := ⟨[]⟩
  executors := ⟨fun _ => none⟩
  taskId := ""
  authority := ⟨[], []⟩
  digests := ⟨sha256, sha256⟩

/-- Where the checks find no drift, the capability has nothing to strip.
SOURCE: core/governed_execution_handoff.py:141-175 -/
theorem trimmed_of_noContractDrift
    (h : BoundFrom sha256 plan transitionIndex capability payload valid binding)
    (hdrift : ∀ reason, GovernedExecutionHandoff.runtimeScope (soleSpine sha256 capability) binding =
      .ok (some reason) → reason ∉ contractDrift) : Trimmed capability := by
  have hcontract := h.contract
  have hid : binding.capabilityId = capability.id := by
    by_contra hne
    have hmissing : ∃ e, (soleSpine sha256 capability).registry.get binding.capabilityId =
        .error e := by
      simp [soleSpine, CapabilityRegistry.get, hne]
    obtain ⟨e, hmissing⟩ := hmissing
    refine hdrift "capability_not_registered" ?_ (by decide)
    unfold GovernedExecutionHandoff.runtimeScope
    rw [hmissing]
    rfl
  have hget : (soleSpine sha256 capability).registry.get binding.capabilityId = .ok capability := by
    simp [soleSpine, CapabilityRegistry.get, hid]
  have hscope := runtimeScope_of_get hget (normalizeEffects_label hcontract.effectsEq _)
  have hsame : ¬ (capability.version ≠ binding.capabilityVersion ∨
      capability.risk ≠ binding.capabilityRisk ∨
      capability.permissions ≠ binding.permissionsRequested ∨
      binding.effectsDeclared ≠ binding.effectsDeclared) := by
    intro hdiffers
    rw [if_pos hdiffers] at hscope
    exact hdrift _ hscope (by decide)
  push Not at hsame
  obtain ⟨hversion, hrisk, hpermissions, -⟩ := hsame
  refine ⟨?_, ?_, ?_, ?_⟩
  · rw [← hcontract.idEq, hid]
  · rw [← hcontract.versionEq, hversion]
  · rw [← hcontract.riskEq, hrisk]
  · rw [← hcontract.permissionsEq, hpermissions]

end Bound

/-- MAIN: **what is executed is what was bound, for capabilities with nothing to strip.** A binding
that the binder returns as `BOUND` validates and names what the grant names; every entry of the
executor that a handoff of it makes is for the bound payload, plan, edge and capability; and a
handoff with the same plan, payload and registered capability is never held or refused for scope,
payload or contract drift. All of this holds if and only if the id, the version, the risk and the
permissions of the capability are what stripping leaves of them.
SOURCE: core/governed_action_binding.py:272-468, core/governed_execution_handoff.py:101-339 -/
theorem executed_as_bound_iff {receipt : ActionBindingReceipt} (hapart : TellsApart sha256)
    (hbind : GovernedActionBinder.bind sha256 plan transitionIndex capability payload grant =
      .ok (some binding, receipt)) (hhex : HexDigests binding) :
    (validateBinding sha256 binding = .ok () ∧
      (∃ valid, grant = some valid ∧ Names binding valid) ∧
      (∀ request : ExecutionRequest, request.binding = binding → Keyed request.spine.registry →
        ∀ t q, Prog.Steps (GovernedExecutionHandoff.execute sha256 request) t q →
          ∀ c p r, ⟨.spine (.execute c p), r⟩ ∈ t →
            EnteredAsBound plan transitionIndex capability payload request c p) ∧
      ∀ request : ExecutionRequest, request.plan = plan → request.binding = binding →
        request.payload = payload →
        request.spine.registry.get capability.id = .ok capability →
        request.spine.digests.hashPayload = sha256 → Undrifted sha256 request) ↔
    Trimmed capability := by
  obtain ⟨valid, rfl, hbound⟩ := boundFrom_of_bind hbind
  constructor
  · rintro ⟨-, -, -, hundrifted⟩
    let request : ExecutionRequest := { plan, binding, payload, spine := soleSpine sha256 capability }
    have hget : request.spine.registry.get capability.id = .ok capability := by
      simp [request, soleSpine, CapabilityRegistry.get]
    exact trimmed_of_noContractDrift hbound (hundrifted request rfl rfl rfl hget rfl).contract
  · intro htrimmed
    refine ⟨hbound.valid hhex, ⟨valid, rfl, ?_⟩, ?_, ?_⟩
    · exact {
        planState := hbound.planState.1.trans hbound.planState.2.symm
        transition := hbound.index.1.trans hbound.index.2.symm
        source := hbound.edge.1.symm
        target := hbound.edge.2.symm
        capabilityId := hbound.capabilityScope.symm
        payloadSha256 := hbound.payloadScope.symm }
    · rintro request rfl hkeyed t q hsteps c p r hmem
      obtain ⟨_, hadvance, -⟩ := obeys_execute_checked.steps hsteps fun _ _ => trivial
      exact enteredAsBound_of_checked hapart hbound htrimmed hkeyed
        (entry_of_advance hadvance hmem)
    · rintro request rfl rfl rfl hget hspine
      exact undrifted_of_trimmed hbound hhex htrimmed hget hspine

/-! ### A version with a blank behind it -/

/-- A digest of 64 equal letters. -/
def lettersSha256 (letter : Char) : String := String.ofList (List.replicate 64 letter)

/-- A plan of one transition. -/
def boundPlan : PlanState where
  schema := "phios.plan_state.v0.6"
  planId := "plan"
  revision := 0
  pathIds := ["draft", "written"]
  sourceRouteReceiptSha256 := ""
  sourceReplanReceiptSha256 := none
  parentPlanSha256 := none
  actionAuthority := false
  executionAuthority := false
  stateSha256 := lettersSha256 'a'

/-- A grant for its transition, the built-in capability and a text. -/
def boundGrant : ActionBindingGrant where
  grantId := "grant"
  authoritySource := "operator"
  planId := "plan"
  planStateSha256 := lettersSha256 'a'
  transitionIndex := 0
  sourceStateId := "draft"
  targetStateId := "written"
  capabilityId := "commons.text_artifact"
  payloadSha256 := lettersSha256 'b'

/-- The binding on this grant. -/
def boundBinding : PlanActionBinding where
  schema := "phios.plan_action_binding.v0.7.1"
  planId := "plan"
  planStateSha256 := lettersSha256 'a'
  planRevision := 0
  transitionIndex := 0
  sourceStateId := "draft"
  targetStateId := "written"
  capabilityId := "commons.text_artifact"
  capabilityVersion := "0.1.0"
  capabilityRisk := "low"
  permissionsRequested := ["artifact.write"]
  effectsDeclared := ["filesystem.change"]
  payloadSha256 := lettersSha256 'b'
  grantId := "grant"
  grantSha256 := lettersSha256 'c'
  authoritySource := "operator"
  actionAuthority := false
  executionAuthority := false
  bindingSha256 := lettersSha256 'd'

/-- The built-in capability with a blank behind its version. -/
def blankedArtifact : Capability := { textArtifact with version := "0.1.0 " }

/-- The four values whose digests are on the binding. -/
def boundValues : List (Json × String) :=
  [(.obj [("schema", .str "phios.plan_state.v0.6"), ("plan_id", .str "plan"), ("revision", .int 0),
      ("path_ids", .strs ["draft", "written"]), ("source_route_receipt_sha256", .str ""),
      ("source_replan_receipt_sha256", .null), ("parent_plan_sha256", .null),
      ("action_authority", .bool false), ("execution_authority", .bool false)], lettersSha256 'a'),
    (textPayload, lettersSha256 'b'), (boundGrant.toPayload, lettersSha256 'c'),
    (.obj [("schema", .str "phios.plan_action_binding.v0.7.1"), ("plan_id", .str "plan"),
      ("plan_state_sha256", .str (lettersSha256 'a')), ("plan_revision", .int 0),
      ("transition_index", .int 0), ("source_state_id", .str "draft"),
      ("target_state_id", .str "written"), ("capability_id", .str "commons.text_artifact"),
      ("capability_version", .str "0.1.0"), ("capability_risk", .str "low"),
      ("permissions_requested", .strs ["artifact.write"]),
      ("effects_declared", .strs ["filesystem.change"]),
      ("payload_sha256", .str (lettersSha256 'b')), ("grant_id", .str "grant"),
      ("grant_sha256", .str (lettersSha256 'c')), ("authority_source", .str "operator"),
      ("action_authority", .bool false), ("execution_authority", .bool false)], lettersSha256 'd')]

/-- Some digest tells all values apart and gives these four theirs. -/
theorem exists_boundDigests : ∃ sha256 : Json → String,
    TellsApart (fun value => .ok (sha256 value)) ∧ ∀ e ∈ boundValues, sha256 e.1 = e.2 := by
  have hnames : ∀ {fields fields' : List (String × Json)} (name : String),
      ((fields.lookup name).map Json.canonical).isSome ≠
        ((fields'.lookup name).map Json.canonical).isSome →
      (Json.obj fields).canonical ≠ (Json.obj fields').canonical := by
    intro fields fields' name hne heq
    exact hne (congrArg Option.isSome (Json.lookup_of_canonical_eq heq name))
  have hvalues : (boundValues.map fun e => e.1.canonical).Nodup := by
    simp only [boundValues, List.map_cons, List.map_nil, List.nodup_cons, List.mem_cons,
      List.not_mem_nil, or_false, not_or, not_false_eq_true, List.nodup_nil, and_true]
    refine ⟨⟨hnames "revision" ?_, hnames "revision" ?_, hnames "revision" ?_⟩,
      ⟨hnames "text" ?_, hnames "text" ?_⟩, hnames "plan_revision" ?_⟩
    all_goals simp [List.lookup_cons]
  obtain ⟨sha256, hapart, hknown⟩ := exists_digestsApart_with hvalues
    (by decide) (by decide)
  refine ⟨sha256, ?_, hknown⟩
  intro a b d ha hb
  exact hapart ((Except.ok.inj ha).trans (Except.ok.inj hb).symm)

/-- The binder binds the built-in capability, with a blank behind its version or without. -/
theorem bind_boundPlan {sha256 : Json → String}
    (hknown : ∀ e ∈ boundValues, sha256 e.1 = e.2) {version : String}
    (hversion : strip version = "0.1.0") :
    ∃ receipt, GovernedActionBinder.bind (fun value => .ok (sha256 value)) boundPlan 0
      { textArtifact with version } textPayload (some boundGrant) =
        .ok (some boundBinding, receipt) := by
  simp only [boundValues, List.forall_mem_cons] at hknown
  obtain ⟨hplanSha, hpayloadSha, hgrantSha, hbindingSha, -⟩ := hknown
  have hplan : validatePlanState (fun value => .ok (sha256 value)) boundPlan = .ok () := by
    have hdigest : planStateDigest (fun value => .ok (sha256 value)) boundPlan =
        .ok boundPlan.stateSha256 := payloadDigest_eq_ok.mpr (congrArg Except.ok hplanSha)
    unfold validatePlanState
    rw [hdigest]
    decide
  have hcontract : GovernedActionBinder.validateCapability { textArtifact with version } =
      .ok ("commons.text_artifact", "0.1.0", "low", ["artifact.write"], ["filesystem.change"]) := by
    unfold GovernedActionBinder.validateCapability
    dsimp only
    rw [hversion]
    decide +kernel
  have hpayload : GovernedActionBinder.digest (fun value => .ok (sha256 value)) textPayload =
      .ok (lettersSha256 'b') := payloadDigest_eq_ok.mpr (congrArg Except.ok hpayloadSha)
  have hgrant : GovernedActionBinder.digest (fun value => .ok (sha256 value)) boundGrant.toPayload =
      .ok (lettersSha256 'c') := payloadDigest_eq_ok.mpr (congrArg Except.ok hgrantSha)
  let scope : BindingScope := {
    plan := boundPlan, transitionIndex := 0, sourceStateId := "draft", targetStateId := "written",
    capabilityId := "commons.text_artifact", version := "0.1.0", risk := "low",
    permissions := ["artifact.write"], effects := ["filesystem.change"],
    payloadSha256 := lettersSha256 'b' }
  have hscope : GovernedActionBinder.bindingScope (fun value => .ok (sha256 value)) boundPlan 0
      { textArtifact with version } textPayload = .ok scope := by
    refine bind_eq_ok.mpr ⟨(), hplan, bind_eq_ok.mpr ⟨("draft", "written"), by decide, ?_⟩⟩
    exact bind_eq_ok.mpr ⟨_, hcontract, bind_eq_ok.mpr ⟨_, hpayload, rfl⟩⟩
  have hvalid : GovernedActionBinder.grantScope scope (some boundGrant) =
      .ok (true, "grant_scope_valid") := by decide +kernel
  have hgranted : GovernedActionBinder.granted (fun value => .ok (sha256 value)) scope boundGrant =
      .ok boundBinding := by
    have hbody : GovernedActionBinder.unsealed scope boundGrant (lettersSha256 'c') =
        { boundBinding with bindingSha256 := "" } := by decide +kernel
    refine bind_eq_ok.mpr ⟨_, hgrant, bind_eq_ok.mpr ⟨lettersSha256 'd', ?_, ?_⟩⟩
    · rw [hbody]
      exact payloadDigest_eq_ok.mpr (congrArg Except.ok hbindingSha)
    · rw [hbody]
      rfl
  obtain ⟨receipt, hreceipt⟩ : ∃ receipt, GovernedActionBinder.receipt
      (fun value => .ok (sha256 value)) .bound "authorized_action_binding" scope (some boundGrant)
        true (some boundBinding.bindingSha256) = .ok receipt := ⟨_, rfl⟩
  refine ⟨receipt, ?_⟩
  refine bind_eq_ok.mpr ⟨scope, hscope, bind_eq_ok.mpr ⟨_, hvalid, ?_⟩⟩
  exact bind_eq_ok.mpr ⟨_, hgranted, bind_eq_ok.mpr ⟨receipt, hreceipt, rfl⟩⟩

theorem hexDigests_boundBinding : HexDigests boundBinding := by
  unfold HexDigests
  decide +kernel

/-- WITNESS: the built-in capability has nothing to strip, and what was bound for it is found to be
undrifted. -/
theorem textArtifact_executed_as_bound : ∃ (sha256 : Json → String) (receipt : ActionBindingReceipt),
    GovernedActionBinder.bind (fun value => .ok (sha256 value)) boundPlan 0 textArtifact textPayload
      (some boundGrant) = .ok (some boundBinding, receipt) ∧
    validateBinding (fun value => .ok (sha256 value)) boundBinding = .ok () ∧
    Undrifted (fun value => .ok (sha256 value)) {
      plan := boundPlan, binding := boundBinding, payload := textPayload
      spine := soleSpine (fun value => .ok (sha256 value)) textArtifact } := by
  obtain ⟨sha256, hapart, hknown⟩ := exists_boundDigests
  obtain ⟨receipt, hbind⟩ : ∃ receipt, GovernedActionBinder.bind (fun value => .ok (sha256 value))
      boundPlan 0 textArtifact textPayload (some boundGrant) = .ok (some boundBinding, receipt) :=
    bind_boundPlan hknown (by decide)
  have htrimmed : Trimmed textArtifact := by
    unfold Trimmed
    decide
  have hall := (executed_as_bound_iff hapart hbind hexDigests_boundBinding).mpr htrimmed
  exact ⟨sha256, receipt, hbind, hall.1, hall.2.2.2 _ rfl rfl rfl rfl rfl⟩

/-- COUNTEREXAMPLE: a capability whose version ends in a blank is bound and registered, and the
handoff of its binding with the same plan, payload and registry is held for contract drift. -/
theorem blankedArtifact_held_for_drift : ∃ (sha256 : Json → String) (receipt : ActionBindingReceipt),
    TellsApart (fun value => .ok (sha256 value)) ∧
    GovernedActionBinder.bind (fun value => .ok (sha256 value)) boundPlan 0 blankedArtifact
      textPayload (some boundGrant) = .ok (some boundBinding, receipt) ∧
    HexDigests boundBinding ∧
    ∃ held, GovernedExecutionHandoff.execute (fun value => .ok (sha256 value)) {
        plan := boundPlan, binding := boundBinding, payload := textPayload
        spine := soleSpine (fun value => .ok (sha256 value)) blankedArtifact } = .ret held ∧
      held.status = .held ∧ held.reason = "capability_contract_drift" := by
  obtain ⟨sha256, hapart, hknown⟩ := exists_boundDigests
  obtain ⟨receipt, hbind⟩ : ∃ receipt, GovernedActionBinder.bind (fun value => .ok (sha256 value))
      boundPlan 0 blankedArtifact textPayload (some boundGrant) =
        .ok (some boundBinding, receipt) := bind_boundPlan hknown (by decide)
  obtain ⟨valid, -, hbound⟩ := boundFrom_of_bind hbind
  refine ⟨sha256, receipt, hapart, hbind, hexDigests_boundBinding, ?_⟩
  have hinputs : GovernedExecutionHandoff.validateInputs (fun value => .ok (sha256 value)) boundPlan
      boundBinding = .ok () := by
    unfold GovernedExecutionHandoff.validateInputs
    rw [hbound.planValid, hbound.valid hexDigests_boundBinding]
    rfl
  have hdigest : payloadDigest (fun value => .ok (sha256 value)) .actionBindingContractError
      "action binding" textPayload = .ok boundBinding.payloadSha256 :=
    payloadDigest_eq_ok.mpr hbound.payloadEq
  have hdrift : GovernedExecutionHandoff.runtimeScope
      (soleSpine (fun value => .ok (sha256 value)) blankedArtifact) boundBinding =
        .ok (some "capability_contract_drift") := by
    have hget : (soleSpine (fun value => .ok (sha256 value)) blankedArtifact).registry.get
        boundBinding.capabilityId = .ok blankedArtifact := rfl
    rw [runtimeScope_of_get hget (normalizeEffects_label hbound.contract.effectsEq _)]
    rfl
  unfold GovernedExecutionHandoff.execute
  dsimp only
  rw [hinputs, hbound.inScope, hdigest, hdrift]
  exact ⟨_, rfl, rfl, rfl⟩

end PhiOS.Analysis
