import PhiOS.Analysis.JsonCodes
import PhiOS.Model.GovernedPlanAdoption

/-!
# Plans change only by adoption

`Adoptions` are the calls of the gate from an initial plan on, each given the plan that the one before
returned. A call either returns its plan as it is, or adopts the candidate of its replan receipt by a
grant for exactly that plan. The digest of a plan covers its revision, so that no grant fits twice:
`adoptions_authorised`.
-/

set_option autoImplicit false

namespace PhiOS

namespace GovernedPlanAdoptionGate

variable {rt : FieldRuntime}

/-- One call of the gate, with what it returned. -/
structure Adoption where
  before : PlanState
  replanReceipt : GovernedReplanReceipt
  requestedDisposition : String
  grant : Option PlanAdoptionGrant
  after : PlanState
  receipt : PlanAdoptionReceipt

/-- The calls from a first plan to a last one. -/
inductive Adoptions (rt : FieldRuntime) (first : PlanState) : List Adoption → PlanState → Prop
  | start : Adoptions rt first [] first
  | call {calls : List Adoption} {call : Adoption} (before : Adoptions rt first calls call.before)
      (h : apply rt call.before call.replanReceipt call.requestedDisposition call.grant =
        .ok (call.after, call.receipt)) : Adoptions rt first (calls ++ [call]) call.after

/-- The call adopts the candidate, by a grant for its plan, its receipt and this disposition. -/
structure Authorised (call : Adoption) (grant : PlanAdoptionGrant) : Prop where
  basis : call.grant = some grant
  plan : grant.currentPlanSha256 = call.before.stateSha256 ∧ strip grant.planId = call.before.planId
  replan : grant.replanReceiptSha256 = call.replanReceipt.receiptSha256
  disposition : normalizeDisposition grant.disposition = .ok .adopt
  revision : call.after.revision = call.before.revision + 1
  path : call.after.pathIds = call.replanReceipt.candidatePathIds
  route : call.after.sourceRouteReceiptSha256 = call.replanReceipt.candidateRouteReceiptSha256

/-! ## One call -/

/-- A grant that is in scope names the plan, the receipt and the disposition. -/
theorem grantScope_eq_none {plan : PlanState} {replanReceipt : GovernedReplanReceipt}
    {disposition : Disposition} {grant : Option PlanAdoptionGrant}
    (h : grantScope plan replanReceipt disposition grant = .ok none) :
    ∃ g, grant = some g ∧ g.currentPlanSha256 = plan.stateSha256 ∧ strip g.planId = plan.planId ∧
      g.replanReceiptSha256 = replanReceipt.receiptSha256 ∧
      normalizeDisposition g.disposition = .ok disposition := by
  unfold grantScope at h
  cases grant with
  | none => cases h
  | some g =>
      obtain ⟨grantDisposition, hdisposition, h⟩ := bind_eq_ok.mp h
      obtain ⟨_, _, _, h⟩ := ok_past_three h
      by_cases hplan : strip g.planId = plan.planId
      · rw [if_neg (not_not.mpr hplan)] at h
        by_cases hstate : g.currentPlanSha256 = plan.stateSha256
        · rw [if_neg (not_not.mpr hstate)] at h
          by_cases hreplan : g.replanReceiptSha256 = replanReceipt.receiptSha256
          · rw [if_neg (not_not.mpr hreplan)] at h
            by_cases hsame : grantDisposition = disposition
            · exact ⟨g, rfl, hstate, hplan, hreplan, hsame ▸ hdisposition⟩
            · rw [if_pos hsame] at h
              cases h
          · rw [if_pos hreplan] at h
            cases h
        · rw [if_pos hstate] at h
          cases h
      · rw [if_pos hplan] at h
        cases h

/-- A call returns its plan as it is, or it adopts.
SOURCE: core/governed_plan_adoption.py:163-266 -/
theorem apply_cases {call : Adoption}
    (h : apply rt call.before call.replanReceipt call.requestedDisposition call.grant =
      .ok (call.after, call.receipt)) :
    validatePlan rt call.before = .ok () ∧ validateReplanReceipt rt call.replanReceipt = .ok () ∧
      (call.receipt.status ≠ "ADOPTED" ∧ call.after = call.before ∨
        call.receipt.status = "ADOPTED" ∧ ∃ grant, Authorised call grant) := by
  obtain ⟨before, replanReceipt, requestedDisposition, grant, after, receipt⟩ := call
  dsimp only at h ⊢
  unfold apply at h
  obtain ⟨_, hplan, h⟩ := bind_eq_ok.mp h
  obtain ⟨_, hreceipt, h⟩ := bind_eq_ok.mp h
  obtain ⟨disposition, -, h⟩ := bind_eq_ok.mp h
  refine ⟨hplan, hreceipt, ?_⟩
  have hunchanged : ∀ {status reason : String} {valid : Bool},
      (pure (unchangedReceipt rt before replanReceipt disposition grant status reason valid) :
        Except PyError (PlanState × PlanAdoptionReceipt)) = .ok (after, receipt) →
      status ≠ "ADOPTED" → receipt.status ≠ "ADOPTED" ∧ after = before := by
    intro status reason valid hreturn hstatus
    obtain ⟨rfl, rfl⟩ := Prod.mk.inj (Except.ok.inj hreturn)
    exact ⟨hstatus, rfl⟩
  by_cases hstale : replanReceipt.previousRouteReceiptSha256 = before.sourceRouteReceiptSha256
  · rw [if_neg (not_not.mpr hstale)] at h
    by_cases hreplan : replanReceipt.decision = "REPLAN"
    · rw [if_neg (not_not.mpr hreplan)] at h
      obtain ⟨_, -, h⟩ := bind_eq_ok.mp h
      obtain ⟨scope, hscope, h⟩ := bind_eq_ok.mp h
      cases scope with
      | some reason => exact Or.inl (hunchanged h (by decide))
      | none =>
          cases disposition with
          | hold => exact Or.inl (hunchanged h (by decide))
          | reject => exact Or.inl (hunchanged h (by decide))
          | adopt =>
              obtain ⟨g, hgrant, hstate, hplanId, hreplanSha, hadopt⟩ := grantScope_eq_none hscope
              obtain ⟨rfl, rfl⟩ := Prod.mk.inj (Except.ok.inj h)
              exact Or.inr ⟨rfl, g, hgrant, ⟨hstate, hplanId⟩, hreplanSha, hadopt, rfl, rfl, rfl⟩
    · rw [if_pos hreplan] at h
      exact Or.inl (hunchanged h (by decide))
  · rw [if_pos hstale] at h
    exact Or.inl (hunchanged h (by decide))

/-! ## What the digests cover -/

/-- The digest of a plan that is accepted is that of its fields. -/
theorem stateSha256_of_validatePlan {plan : PlanState} (h : validatePlan rt plan = .ok ()) :
    plan.schema = "phios.plan_state.v0.6" ∧ plan.actionAuthority = false ∧
      plan.executionAuthority = false ∧
      plan.stateSha256 = rt.sha256 (.obj (planPayload plan.planId plan.revision plan.pathIds
        plan.sourceRouteReceiptSha256 plan.sourceReplanReceiptSha256 plan.parentPlanSha256)) := by
  unfold validatePlan validatePlanState at h
  obtain ⟨_, hschema, h⟩ := bind_eq_ok.mp h
  obtain ⟨_, _, _, h⟩ := ok_past_three h
  obtain ⟨_, haction, h⟩ := bind_eq_ok.mp h
  obtain ⟨_, hexecution, h⟩ := bind_eq_ok.mp h
  obtain ⟨expected, hexpected, h⟩ := bind_eq_ok.mp h
  refine ⟨not_not.mp (raiseIf_eq_ok.mp hschema), ?_, ?_, ?_⟩
  · simpa using raiseIf_eq_ok.mp haction
  · simpa using raiseIf_eq_ok.mp hexecution
  · rw [← not_not.mp (raiseIf_eq_ok.mp h)]
    exact (Except.ok.inj hexpected).symm

/-- The digest of a plan is that of no other plan. -/
theorem eq_of_stateSha256_eq (hsha : DigestsApart rt.sha256) {plan plan' : PlanState}
    (h : validatePlan rt plan = .ok ()) (h' : validatePlan rt plan' = .ok ())
    (hsame : plan.stateSha256 = plan'.stateSha256) : plan = plan' := by
  obtain ⟨hschema, haction, hexecution, hdigest⟩ := stateSha256_of_validatePlan h
  obtain ⟨hschema', haction', hexecution', hdigest'⟩ := stateSha256_of_validatePlan h'
  have hpayload := Json.lookup_of_canonical_eq (hsha (hdigest.symm.trans (hsame.trans hdigest')))
  have hid := hpayload "plan_id"
  have hrevision := hpayload "revision"
  have hpath := hpayload "path_ids"
  have hroute := hpayload "source_route_receipt_sha256"
  have hreplan := hpayload "source_replan_receipt_sha256"
  have hparent := hpayload "parent_plan_sha256"
  simp [planPayload, List.lookup_cons, Json.canonical] at hid hrevision hroute
  simp [planPayload, List.lookup_cons, Json.strs_canonical, Json.optStr_canonical]
    at hpath hreplan hparent
  cases plan
  cases plan'
  rw [PlanState.mk.injEq]
  exact ⟨hschema.trans hschema'.symm, hid, hrevision, Json.strs_inj hpath, hroute, Json.optStr_inj hreplan,
    Json.optStr_inj hparent, haction.trans haction'.symm, hexecution.trans hexecution'.symm, hsame⟩

theorem payload_eq_of_receiptSha256_eq (hsha : DigestsApart rt.sha256)
    {receipt receipt' : GovernedReplanReceipt} (h : validateReplanReceipt rt receipt = .ok ())
    (h' : validateReplanReceipt rt receipt' = .ok ())
    (hsame : receipt.receiptSha256 = receipt'.receiptSha256) :
    (Json.obj (receipt.payload rt)).canonical = (Json.obj (receipt'.payload rt)).canonical := by
  have hdigest : ∀ {r : GovernedReplanReceipt}, validateReplanReceipt rt r = .ok () →
      rt.sha256 (.obj (r.payload rt)) = r.receiptSha256 := by
    intro r hr
    unfold validateReplanReceipt at hr
    obtain ⟨_, _, hr⟩ := ok_past_two hr
    exact not_not.mp (raiseIf_eq_ok.mp hr)
  exact hsha ((hdigest h).trans (hsame.trans (hdigest h').symm))

/-! ## All calls -/

/-- What holds after any number of calls. -/
structure Governed (rt : FieldRuntime) (calls : List Adoption) (last : PlanState) : Prop where
  valid : ∀ call ∈ calls, validatePlan rt call.before = .ok () ∧
    validateReplanReceipt rt call.replanReceipt = .ok ()
  cases : ∀ call ∈ calls, call.receipt.status ≠ "ADOPTED" ∧ call.after = call.before ∨
    call.receipt.status = "ADOPTED" ∧ ∃ grant, Authorised call grant
  revision : last.revision = (calls.filter fun call => call.receipt.status = "ADOPTED").length
  earlier : ∀ call ∈ calls, call.receipt.status = "ADOPTED" → call.before.revision < last.revision
  once : calls.Pairwise fun call call' => call.receipt.status = "ADOPTED" →
    call'.receipt.status = "ADOPTED" → call.grant ≠ call'.grant

/-- One more call. -/
theorem Governed.call (hsha : DigestsApart rt.sha256) {calls : List Adoption} {call : Adoption}
    (hgoverned : Governed rt calls call.before)
    (h : apply rt call.before call.replanReceipt call.requestedDisposition call.grant =
      .ok (call.after, call.receipt)) : Governed rt (calls ++ [call]) call.after := by
  obtain ⟨hplan, hreceipt, hcases⟩ := apply_cases h
  have hall : ∀ {P : Adoption → Prop}, (∀ c ∈ calls, P c) → P call → ∀ c ∈ calls ++ [call], P c := by
    intro P hold hnew c hc
    rcases List.mem_append.mp hc with hc | hc
    · exact hold c hc
    · rw [List.mem_singleton.mp hc]
      exact hnew
  have hstep : call.before.revision ≤ call.after.revision ∧
      (call.receipt.status = "ADOPTED" → call.before.revision < call.after.revision) := by
    rcases hcases with ⟨hstatus, hafter⟩ | ⟨-, grant, hauthorised⟩
    · rw [hafter]
      exact ⟨le_refl _, fun h => absurd h hstatus⟩
    · have hrevision := hauthorised.revision
      constructor
      · omega
      · intro _
        omega
  refine ⟨hall hgoverned.valid ⟨hplan, hreceipt⟩, hall hgoverned.cases hcases, ?_, ?_, ?_⟩
  · rw [List.filter_append, List.length_append]
    rcases hcases with ⟨hstatus, hafter⟩ | ⟨hstatus, grant, hauthorised⟩
    · rw [hafter, hgoverned.revision]
      simp [hstatus]
    · rw [hauthorised.revision, hgoverned.revision]
      simp [hstatus]
  · refine hall ?_ hstep.2
    intro c hc hstatus
    exact (hgoverned.earlier c hc hstatus).trans_le hstep.1
  · refine List.pairwise_append.mpr ⟨hgoverned.once, List.pairwise_singleton _ _, ?_⟩
    intro c hc c' hc' hstatus hstatus' hgrant
    obtain rfl := List.mem_singleton.mp hc'
    -- both plans have the digest that the grant names, so they are one plan; but the later one has
    -- a later revision
    have hbasis : ∀ {d : Adoption}, (d.receipt.status ≠ "ADOPTED" ∧ d.after = d.before ∨
        d.receipt.status = "ADOPTED" ∧ ∃ grant, Authorised d grant) → d.receipt.status = "ADOPTED" →
        ∃ grant, d.grant = some grant ∧ grant.currentPlanSha256 = d.before.stateSha256 := by
      intro d hd hadopted
      rcases hd with ⟨hnot, -⟩ | ⟨-, grant, hauthorised⟩
      · exact absurd hadopted hnot
      · exact ⟨grant, hauthorised.basis, hauthorised.plan.1⟩
    obtain ⟨grant, hsome, hsha₁⟩ := hbasis (hgoverned.cases c hc) hstatus
    obtain ⟨grant', hsome', hsha₂⟩ := hbasis hcases hstatus'
    obtain rfl : grant = grant' := Option.some.inj (hsome.symm.trans (hgrant.trans hsome'))
    have hsame := eq_of_stateSha256_eq hsha (hgoverned.valid c hc).1 hplan (hsha₁.symm.trans hsha₂)
    exact absurd (congrArg PlanState.revision hsame) (hgoverned.earlier c hc hstatus).ne

theorem revision_of_initializePlan {planId : String} {routeReceipt : FieldAwareRouteReceipt}
    {first : PlanState} (h : initializePlan rt planId routeReceipt = .ok first) :
    first.revision = 0 := by
  unfold initializePlan at h
  obtain ⟨_, _, _, h⟩ := ok_past_three h
  rw [← Except.ok.inj h]
  rfl

theorem Adoptions.governed (hsha : DigestsApart rt.sha256) {first last : PlanState}
    {calls : List Adoption} (hfirst : first.revision = 0) (h : Adoptions rt first calls last) :
    Governed rt calls last := by
  induction h with
  | start =>
      refine ⟨?_, ?_, hfirst, ?_, List.Pairwise.nil⟩ <;>
      · intro call hcall
        cases hcall
  | call before hcall ih => exact ih.call hsha hcall

/-- MAIN: **from an initial plan on, a call changes the plan only by adoption, which raises the revision
by one and takes path and route over from the candidate, by a grant for exactly that plan, that
receipt and the disposition ADOPT; and no grant is the basis of two adoptions.** -/
theorem adoptions_authorised (hsha : DigestsApart rt.sha256) {planId : String}
    {routeReceipt : FieldAwareRouteReceipt} {first last : PlanState} {calls : List Adoption}
    (hfirst : initializePlan rt planId routeReceipt = .ok first)
    (hcalls : Adoptions rt first calls last) :
    first.revision = 0 ∧
      last.revision = (calls.filter fun call => call.receipt.status = "ADOPTED").length ∧
      (∀ call ∈ calls, call.receipt.status ≠ "ADOPTED" ∧ call.after = call.before ∨
        call.receipt.status = "ADOPTED" ∧ ∃ grant, Authorised call grant ∧
          (∀ plan, validatePlan rt plan = .ok () → plan.stateSha256 = grant.currentPlanSha256 →
            plan = call.before) ∧
          ∀ receipt, validateReplanReceipt rt receipt = .ok () →
            receipt.receiptSha256 = grant.replanReceiptSha256 →
            (Json.obj (receipt.payload rt)).canonical =
              (Json.obj (call.replanReceipt.payload rt)).canonical) ∧
      calls.Pairwise fun call call' => call.receipt.status = "ADOPTED" →
        call'.receipt.status = "ADOPTED" → call.grant ≠ call'.grant := by
  have hrevision := revision_of_initializePlan hfirst
  have hgoverned := hcalls.governed hsha hrevision
  refine ⟨hrevision, hgoverned.revision, ?_, hgoverned.once⟩
  intro call hcall
  obtain ⟨hplan, hreceipt⟩ := hgoverned.valid call hcall
  rcases hgoverned.cases call hcall with hunchanged | ⟨hstatus, grant, hauthorised⟩
  · exact Or.inl hunchanged
  · refine Or.inr ⟨hstatus, grant, hauthorised, ?_, ?_⟩
    · intro plan hvalid hdigest
      exact eq_of_stateSha256_eq hsha hvalid hplan (hdigest.trans hauthorised.plan.1)
    · intro receipt hvalid hdigest
      exact payload_eq_of_receiptSha256_eq hsha hvalid hreceipt (hdigest.trans hauthorised.replan)

/-! ## An adoption -/

/-- A route by way of `b`. -/
def firstRoute (rt : FieldRuntime) : FieldAwareRouteReceipt :=
  let receipt : FieldAwareRouteReceipt := {
    status := "found", fieldLawSha256 := "law", fieldStateSha256 := "state", fieldRevision := 0
    bindings := [], pathReceiptSha256 := "path", pathIds := ["a", "b"], totalCost := none }
  { receipt with receiptSha256 := rt.sha256 (.obj (receipt.payload rt)) }

/-- A decision to go by way of `c`. -/
def replanToC (rt : FieldRuntime) : GovernedReplanReceipt :=
  let receipt : GovernedReplanReceipt := {
    decision := "REPLAN", reason := "incumbent_path_blocked", policyId := "deadband"
    policySha256 := "policy", minimumCostImprovement := 0
    previousRouteReceiptSha256 := (firstRoute rt).receiptSha256, previousFieldStateSha256 := "state"
    currentFieldStateSha256 := "state", currentFieldRevision := 0
    incumbentAssessmentSha256 := "assessment", incumbentPathIds := ["a", "b"]
    incumbentStatus := "blocked", incumbentCurrentCost := none
    candidateRouteReceiptSha256 := "candidate", candidatePathIds := ["a", "c"]
    candidateStatus := "found", candidateCurrentCost := none, routeChanged := true
    costImprovement := none }
  { receipt with receiptSha256 := rt.sha256 (.obj (receipt.payload rt)) }

/-- The plan for `firstRoute`. -/
def firstPlan (rt : FieldRuntime) : PlanState :=
  buildPlanState rt "plan" 0 ["a", "b"] (firstRoute rt).receiptSha256 none none

/-- The grant to adopt `replanToC` in place of `firstPlan`. -/
def grantForC (rt : FieldRuntime) : PlanAdoptionGrant where
  grantId := "grant"
  authoritySource := "operator"
  planId := "plan"
  currentPlanSha256 := (firstPlan rt).stateSha256
  replanReceiptSha256 := (replanToC rt).receiptSha256
  disposition := "adopt"

/-- WITNESS: a plan is adopted by a grant for it, and its revision is 1 then. -/
theorem adoptions_authorised_once :
    ∃ rt : FieldRuntime, DigestsApart rt.sha256 ∧ ∃ calls last,
      initializePlan rt "plan" (firstRoute rt) = .ok (firstPlan rt) ∧
      Adoptions rt (firstPlan rt) calls last ∧ last.revision = 1 ∧ last.pathIds = ["a", "c"] := by
  obtain ⟨sha256, hsha⟩ := exists_digestsApart
  let rt : FieldRuntime := ⟨sha256, fun _ => ""⟩
  have hname : strip "plan" = "plan" := by decide +kernel
  have hfirst : initializePlan rt "plan" (firstRoute rt) = .ok (firstPlan rt) := by
    unfold initializePlan
    refine bind_eq_ok.mpr ⟨(), raiseIf_eq_ok.mpr (by rw [hname]; decide), ?_⟩
    refine bind_eq_ok.mpr ⟨(), ?_, ?_⟩
    · unfold validateRouteReceipt
      refine bind_eq_ok.mpr ⟨(), rfl, bind_eq_ok.mpr ⟨(), rfl, ?_⟩⟩
      exact raiseIf_eq_ok.mpr (not_not.mpr rfl)
    · refine bind_eq_ok.mpr ⟨(), raiseIf_eq_ok.mpr (by simp [firstRoute]), ?_⟩
      rw [hname]
      rfl
  have hscope : grantScope (firstPlan rt) (replanToC rt) .adopt (some (grantForC rt)) = .ok none := by
    unfold grantScope
    refine bind_eq_ok.mpr ⟨.adopt, ?_, ?_⟩
    · exact (by decide +kernel : normalizeDisposition "adopt" = .ok .adopt)
    · refine bind_eq_ok.mpr ⟨(), raiseIf_eq_ok.mpr ?_, ?_⟩
      · exact (by decide +kernel : strip "grant" ≠ "")
      refine bind_eq_ok.mpr ⟨(), raiseIf_eq_ok.mpr ?_, ?_⟩
      · exact (by decide +kernel : strip "operator" ≠ "")
      refine bind_eq_ok.mpr ⟨(), raiseIf_eq_ok.mpr ?_, ?_⟩
      · exact (by decide +kernel : strip "plan" ≠ "")
      have hplan : strip (grantForC rt).planId = (firstPlan rt).planId := hname
      have hstate : (grantForC rt).currentPlanSha256 = (firstPlan rt).stateSha256 := rfl
      have hreplan : (grantForC rt).replanReceiptSha256 = (replanToC rt).receiptSha256 := rfl
      simp only [hplan, hstate, hreplan, ne_eq, not_true_eq_false, if_false]
      rfl
  have hvalid : validatePlan rt (firstPlan rt) = .ok () := by
    unfold validatePlan validatePlanState
    refine bind_eq_ok.mpr ⟨(), rfl, bind_eq_ok.mpr ⟨(), ?_, bind_eq_ok.mpr ⟨(), rfl, ?_⟩⟩⟩
    · exact raiseIf_eq_ok.mpr (by decide +kernel : ¬ strip "plan" = "")
    refine bind_eq_ok.mpr ⟨(), ?_, bind_eq_ok.mpr ⟨(), rfl, bind_eq_ok.mpr ⟨(), rfl, ?_⟩⟩⟩
    · exact raiseIf_eq_ok.mpr
        (by decide +kernel : ¬ (["a", "b"] = [] ∨ ∃ item ∈ ["a", "b"], strip item = ""))
    exact bind_eq_ok.mpr ⟨_, rfl, raiseIf_eq_ok.mpr (not_not.mpr rfl)⟩
  let next := buildPlanState rt "plan" (0 + 1) ["a", "c"] "candidate"
    (some (replanToC rt).receiptSha256) (some (firstPlan rt).stateSha256)
  let receipt := buildReceipt rt "ADOPTED" "authorized_replan_adopted" .adopt (firstPlan rt) next
    (replanToC rt) (some (grantForC rt)) true
  have happly : apply rt (firstPlan rt) (replanToC rt) "adopt" (some (grantForC rt)) =
      .ok (next, receipt) := by
    unfold apply
    refine bind_eq_ok.mpr ⟨(), hvalid, bind_eq_ok.mpr ⟨(), ?_, ?_⟩⟩
    · unfold validateReplanReceipt
      refine bind_eq_ok.mpr ⟨(), rfl, bind_eq_ok.mpr ⟨(), rfl, ?_⟩⟩
      exact raiseIf_eq_ok.mpr (not_not.mpr rfl)
    refine bind_eq_ok.mpr ⟨.adopt, by decide +kernel, ?_⟩
    have hroute : (replanToC rt).previousRouteReceiptSha256 =
        (firstPlan rt).sourceRouteReceiptSha256 := rfl
    have hreplan : (replanToC rt).decision = "REPLAN" := rfl
    rw [if_neg (not_not.mpr hroute), if_neg (not_not.mpr hreplan)]
    refine bind_eq_ok.mpr ⟨(), raiseIf_eq_ok.mpr (by simp [replanToC]), ?_⟩
    exact bind_eq_ok.mpr ⟨none, hscope, rfl⟩
  let call : Adoption := ⟨firstPlan rt, replanToC rt, "adopt", some (grantForC rt), next, receipt⟩
  have hcalls : Adoptions rt (firstPlan rt) ([] ++ [call]) call.after := .call .start happly
  have hrevision := (adoptions_authorised hsha hfirst hcalls).2.1
  refine ⟨rt, hsha, _, next, hfirst, hcalls, ?_, rfl⟩
  exact hrevision.trans (by rfl)

end GovernedPlanAdoptionGate

end PhiOS
