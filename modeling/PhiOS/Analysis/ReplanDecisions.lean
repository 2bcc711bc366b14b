import PhiOS.Analysis.FieldAwareRoutes
import PhiOS.Model.GovernedReplanning

/-!
# What a replanning decision promises

An incumbent that is kept is admissible and, up to the threshold, as cheap as a cheapest path from a
start to a goal: `assess_settles`. Whether it leads from a start to a goal itself is not looked at:
`kept_beside_goal`. A route that replaces the incumbent is kept when it is assessed again.
-/

set_option autoImplicit false

namespace PhiOS

namespace GovernedReplanner

open FieldAwareRouter

variable {rt : DynamicRuntime} {σ : Type} {replanner : GovernedReplanner rt σ}
  {previousRoute : FieldAwareRouteReceipt} {input : FieldInput} {incumbentPath starts : List σ}
  {expand : σ → Except PyError (List σ)} {goal : σ → Except PyError Bool} {baseCost : PyReal}
  {maxStates : ℤ} {receipt : GovernedReplanReceipt}

/-- A path is assessed as admissible, with this cost. -/
def Admissible (router : FieldAwareRouter rt σ) (input : FieldInput) (baseCost : PyReal)
    (states : List σ) (cost : ℚ) : Prop :=
  ∃ assessment, router.assessPath input states baseCost = .ok assessment ∧
    assessment.status = "admissible" ∧ assessment.totalCost = some cost

/-- The cost of a cheapest admissible path from a start to a goal. -/
structure Cheapest (router : FieldAwareRouter rt σ) (input : FieldInput) (starts : List σ)
    (expand : σ → Except PyError (List σ)) (goal : σ → Except PyError Bool) (baseCost : PyReal)
    (least : ℚ) : Prop where
  attained : ∃ states, Connects starts expand goal states ∧
    Admissible router input baseCost states least
  least : ∀ {states cost}, Connects starts expand goal states →
    Admissible router input baseCost states cost → least ≤ cost

/-- No two states have the same name. -/
def NamesApart (router : FieldAwareRouter rt σ) : Prop :=
  ∀ {s t id}, requireStateId FieldAwareRouter.cls (router.stateId s) = .ok id →
    requireStateId FieldAwareRouter.cls (router.stateId t) = .ok id → s = t

/-- An assessment is blocked and has no cost, or it is admissible and has one. -/
theorem assessSteps_total {reasoner : RelationalField σ} {index : ℕ} {states : List σ}
    {hashes : List String} {total : ℚ} {steps : PathSteps}
    (h : assessSteps rt.toFieldRuntime reasoner baseCost index states hashes total = .ok steps) :
    steps.blockedIndex.isSome = true ∧ steps.total = none ∨
      steps.blockedIndex = none ∧ ∃ cost, steps.total = some cost := by
  induction states generalizing index hashes total with
  | nil =>
      obtain rfl := Except.ok.inj h
      exact Or.inr ⟨rfl, total, rfl⟩
  | cons source states ih =>
      cases states with
      | nil =>
          obtain rfl := Except.ok.inj h
          exact Or.inr ⟨rfl, total, rfl⟩
      | cons target states =>
          unfold assessSteps at h
          obtain ⟨transition, -, h⟩ := bind_eq_ok.mp h
          by_cases hblocked : transition.status = "blocked"
          · rw [if_pos hblocked] at h
            obtain rfl := Except.ok.inj h
            exact Or.inl ⟨rfl, rfl⟩
          · rw [if_neg hblocked] at h
            cases hcost : transition.totalCost with
            | none =>
                rw [hcost] at h
                cases h
            | some cost =>
                rw [hcost] at h
                exact ih h

theorem assessPath_cases {router : FieldAwareRouter rt σ} {states : List σ}
    {assessment : FieldAwarePathAssessmentReceipt}
    (h : router.assessPath input states baseCost = .ok assessment) :
    assessment.status = "blocked" ∧ assessment.totalCost = none ∨
      assessment.status = "admissible" ∧ ∃ cost, assessment.totalCost = some cost := by
  obtain ⟨fieldState, snapshots, steps, -, -, -, -, hsteps, hstatus, htotal⟩ := assessPath_eq_ok h
  rcases assessSteps_total hsteps with ⟨hblocked, hnone⟩ | ⟨hopen, cost, hcost⟩
  · rw [hstatus, if_pos hblocked, htotal]
    exact Or.inl ⟨rfl, hnone⟩
  · rw [hstatus, hopen, htotal]
    exact Or.inr ⟨rfl, cost, hcost⟩

/-- What an assessment of an incumbent and a candidate rests on. -/
theorem assess_eq_ok [DecidableEq σ]
    (h : replanner.assess previousRoute input incumbentPath starts expand goal baseCost maxStates =
      .ok receipt) :
    ∃ incumbent candidate, replanner.router.assessPath input incumbentPath baseCost = .ok incumbent ∧
      replanner.router.route input starts expand goal baseCost maxStates = .ok candidate ∧
      receipt.decision = (replanner.decide incumbent candidate).1 ∧
      receipt.candidateRouteReceiptSha256 = candidate.receiptSha256 ∧
      receipt.incumbentPathIds = incumbent.pathIds ∧
      receipt.candidatePathIds = candidate.pathIds := by
  unfold assess at h
  obtain ⟨_, -, h⟩ := bind_eq_ok.mp h
  obtain ⟨resolvedState, -, h⟩ := bind_eq_ok.mp h
  obtain ⟨incumbent, hincumbent, h⟩ := bind_eq_ok.mp h
  obtain ⟨_, _, _, h⟩ := ok_past_three h
  obtain ⟨candidate, hcandidate, h⟩ := bind_eq_ok.mp h
  obtain rfl := Except.ok.inj h
  exact ⟨incumbent, candidate, hincumbent, hcandidate, rfl, rfl, rfl, rfl⟩

/-- When the incumbent is kept.
SOURCE: core/governed_replanning.py:182-207 -/
theorem decide_keep {incumbent : FieldAwarePathAssessmentReceipt} {candidate : FieldAwareRouteReceipt} :
    (replanner.decide incumbent candidate).1 = "KEEP" ↔
      candidate.status = "found" ∧ ∃ least, candidate.totalCost = some least ∧
        incumbent.status ≠ "blocked" ∧ ∃ cost, incumbent.totalCost = some cost ∧
          (candidate.pathIds = incumbent.pathIds ∨
            cost - least ≤ replanner.policy.minimumCostImprovement.value) := by
  unfold decide
  by_cases hfound : candidate.status = "found"
  · rw [if_neg (not_not.mpr hfound)]
    cases hleast : candidate.totalCost with
    | none => simp
    | some least =>
        dsimp only
        by_cases hblocked : incumbent.status = "blocked"
        · rw [if_pos hblocked]
          simp [hblocked]
        · rw [if_neg hblocked]
          cases hcost : incumbent.totalCost with
          | none => simp
          | some cost =>
              dsimp only
              by_cases hsame : candidate.pathIds = incumbent.pathIds
              · rw [if_pos hsame]
                simp [hfound, hblocked, hsame]
              · rw [if_neg hsame]
                by_cases himproves :
                    replanner.policy.minimumCostImprovement.value < cost - least
                · rw [if_pos himproves]
                  simp [hfound, hblocked, hsame]
                  linarith
                · rw [if_neg himproves]
                  simpa [hfound, hblocked, hsame] using not_lt.mp himproves
  · rw [if_pos hfound]
    simp [hfound]

theorem found_of_decide_replan {incumbent : FieldAwarePathAssessmentReceipt}
    {candidate : FieldAwareRouteReceipt}
    (h : (replanner.decide incumbent candidate).1 = "REPLAN") : candidate.status = "found" := by
  by_contra hfound
  unfold decide at h
  rw [if_pos hfound] at h
  exact absurd h (by decide)

theorem threshold_nonneg (replanner : GovernedReplanner rt σ) :
    0 ≤ replanner.policy.minimumCostImprovement.value := by
  obtain ⟨raw, hvalid⟩ := replanner.valid
  unfold validateReplanPolicy at hvalid
  obtain ⟨_, -, hvalid⟩ := bind_eq_ok.mp hvalid
  obtain ⟨threshold, hthreshold, hvalid⟩ := bind_eq_ok.mp hvalid
  rw [← Except.ok.inj hvalid]
  exact (RelationalField.requireNonnegativeFinite_eq_ok.mp hthreshold).2

/-- The route that is found has the cost of a cheapest path. -/
theorem cheapest_of_route [DecidableEq σ] {router : FieldAwareRouter rt σ}
    {candidate : FieldAwareRouteReceipt}
    (h : router.route input starts expand goal baseCost maxStates = .ok candidate)
    (hfound : candidate.status = "found") :
    ∃ states assessment least, Connects starts expand goal states ∧
      router.assessPath input states baseCost = .ok assessment ∧
      assessment.pathIds = candidate.pathIds ∧ assessment.status = "admissible" ∧
      assessment.totalCost = some least ∧ candidate.totalCost = some least ∧
      Cheapest router input starts expand goal baseCost least := by
  obtain ⟨states, assessment, least, hconnects, hassess, hids, hstatus, hcost, htotal, hleast⟩ :=
    assessPath_of_route h hfound
  refine ⟨states, assessment, least, hconnects, hassess, hids, hstatus, hcost, htotal,
    ⟨states, hconnects, assessment, hassess, hstatus, hcost⟩, ?_⟩
  rintro states' cost hconnects' ⟨assessment', hassess', hstatus', hcost'⟩
  obtain ⟨cost', htotal', hle⟩ := hleast hconnects' hassess' hstatus'
  obtain rfl : cost' = cost := Option.some.inj (htotal'.symm.trans hcost')
  exact hle

/-- Where names tell states apart, a path is known by its names. -/
theorem states_eq_of_ids {router : FieldAwareRouter rt σ} (hnames : NamesApart router)
    {states states' : List σ} {ids : List String}
    (h : states.mapM (fun state => requireStateId FieldAwareRouter.cls (router.stateId state)) = .ok ids)
    (h' : states'.mapM (fun state => requireStateId FieldAwareRouter.cls (router.stateId state)) =
      .ok ids) : states = states' := by
  induction states generalizing states' ids with
  | nil =>
      obtain rfl := Except.ok.inj h
      cases states' with
      | nil => rfl
      | cons state' states' =>
          rw [List.mapM_cons] at h'
          obtain ⟨_, -, h'⟩ := bind_eq_ok.mp h'
          obtain ⟨_, -, h'⟩ := bind_eq_ok.mp h'
          cases Except.ok.inj h'
  | cons state states ih =>
      rw [List.mapM_cons] at h
      obtain ⟨id, hid, h⟩ := bind_eq_ok.mp h
      obtain ⟨rest, hrest, h⟩ := bind_eq_ok.mp h
      obtain rfl := Except.ok.inj h
      cases states' with
      | nil => cases Except.ok.inj h'
      | cons state' states' =>
          rw [List.mapM_cons] at h'
          obtain ⟨id', hid', h'⟩ := bind_eq_ok.mp h'
          obtain ⟨rest', hrest', h'⟩ := bind_eq_ok.mp h'
          obtain ⟨rfl, rfl⟩ := List.cons.inj (Except.ok.inj h')
          rw [hnames hid hid', ih hrest hrest']

/-- An incumbent that is kept. -/
theorem keep_spec [DecidableEq σ]
    (h : replanner.assess previousRoute input incumbentPath starts expand goal baseCost maxStates =
      .ok receipt) (hkeep : receipt.decision = "KEEP") :
    ∃ cost least, Admissible replanner.router input baseCost incumbentPath cost ∧
      Cheapest replanner.router input starts expand goal baseCost least ∧
      (cost ≤ least + replanner.policy.minimumCostImprovement.value ∨
        receipt.incumbentPathIds = receipt.candidatePathIds) ∧
      (NamesApart replanner.router →
        cost ≤ least + replanner.policy.minimumCostImprovement.value) := by
  obtain ⟨incumbent, candidate, hincumbent, hcandidate, hdecision, -, hincumbentIds, hcandidateIds⟩ :=
    assess_eq_ok h
  rw [hdecision] at hkeep
  obtain ⟨hfound, least, hleast, hopen, cost, hcost, hchoice⟩ := decide_keep.mp hkeep
  obtain ⟨states, assessment, least', hconnects, hassess, hids, hstatus, hassessed, htotal, hcheapest⟩ :=
    cheapest_of_route hcandidate hfound
  obtain rfl : least = least' := Option.some.inj (hleast.symm.trans htotal)
  have hadmissible : incumbent.status = "admissible" := by
    rcases assessPath_cases hincumbent with ⟨hblocked, -⟩ | ⟨hadmissible, -⟩
    · exact absurd hblocked hopen
    · exact hadmissible
  refine ⟨cost, least, ⟨incumbent, hincumbent, hadmissible, hcost⟩, hcheapest, ?_, ?_⟩
  · rcases hchoice with hsame | hle
    · refine Or.inr ?_
      rw [hincumbentIds, hcandidateIds, hsame]
    · refine Or.inl ?_
      linarith
  · intro hnames
    rcases hchoice with hsame | hle
    · obtain ⟨_, _, _, -, -, -, hids₁, -⟩ := assessPath_eq_ok hincumbent
      obtain ⟨_, _, _, -, -, -, hids₂, -⟩ := assessPath_eq_ok hassess
      rw [hids, hsame] at hids₂
      obtain rfl := states_eq_of_ids hnames hids₁ hids₂
      obtain rfl : incumbent = assessment := Except.ok.inj (hincumbent.symm.trans hassess)
      obtain rfl : cost = least := Option.some.inj (hcost.symm.trans hassessed)
      exact le_add_of_nonneg_right (threshold_nonneg replanner)
    · linarith

/-- The state that a receipt speaks of is the one that the router looks at.
SOURCE: core/governed_replanning.py:139-143 -/
theorem currentState_of_resolve {router : FieldAwareRouter rt σ} {state : DynamicFieldState}
    (h : router.resolveFieldState input = .ok state) :
    currentState rt.toFieldRuntime input = .ok state := by
  unfold resolveFieldState at h
  cases input with
  | state current =>
      obtain ⟨_, -, h⟩ := bind_eq_ok.mp h
      exact h
  | evaluation evaluation =>
      have hend : (do
          let state ← evaluation.requireConsumableState rt.toFieldRuntime
          raiseIf (evaluation.receipt.fieldLawSha256 ≠ router.dynamicField.lawSha256 rt)
            (routingErr "dynamic state receipt is bound to another field law")
          return state) = .ok state →
          evaluation.requireConsumableState rt.toFieldRuntime = .ok state := by
        intro hdo
        obtain ⟨resolved, hresolved, hdo⟩ := bind_eq_ok.mp hdo
        obtain ⟨_, -, hdo⟩ := bind_eq_ok.mp hdo
        exact hresolved.trans hdo
      dsimp only at h
      cases hcontroller : router.dynamicStateController with
      | none =>
          rw [hcontroller] at h
          exact hend h
      | some controller =>
          rw [hcontroller] at h
          dsimp only at h
          cases hvalid : controller.validateEvaluation rt evaluation with
          | ok _ =>
              rw [hvalid] at h
              exact hend h
          | error e =>
              rw [hvalid] at h
              dsimp only at h
              split at h <;> cases h

/-- A route that was found is accepted as the previous one. -/
theorem validatePreviousRoute_of_route [DecidableEq σ] {router : FieldAwareRouter rt σ}
    {candidate : FieldAwareRouteReceipt}
    (h : router.route input starts expand goal baseCost maxStates = .ok candidate)
    (hfound : candidate.status = "found") (hids : candidate.pathIds ≠ []) :
    ∃ resolved, currentState rt.toFieldRuntime input = .ok resolved ∧
      candidate.fieldLawSha256 = resolved.lawSha256 ∧ candidate.fieldRevision = resolved.revision ∧
      validatePreviousRoute rt.toFieldRuntime candidate = .ok () := by
  unfold route at h
  obtain ⟨resolved, hresolved, h⟩ := bind_eq_ok.mp h
  obtain ⟨⟨reasoner, snapshots⟩, -, h⟩ := bind_eq_ok.mp h
  obtain ⟨path, -, h⟩ := bind_eq_ok.mp h
  obtain rfl := Except.ok.inj h
  refine ⟨resolved, currentState_of_resolve hresolved, rfl, rfl, ?_⟩
  unfold validatePreviousRoute
  refine bind_eq_ok.mpr ⟨(), raiseIf_eq_ok.mpr (not_not.mpr rfl), ?_⟩
  refine bind_eq_ok.mpr ⟨(), raiseIf_eq_ok.mpr Bool.false_ne_true, ?_⟩
  refine bind_eq_ok.mpr ⟨(), raiseIf_eq_ok.mpr (not_not.mpr hfound), ?_⟩
  refine bind_eq_ok.mpr ⟨(), raiseIf_eq_ok.mpr hids, ?_⟩
  exact raiseIf_eq_ok.mpr (not_not.mpr rfl)

/-- A route that replaces the incumbent is kept by a second assessment. -/
theorem replan_spec [DecidableEq σ]
    (h : replanner.assess previousRoute input incumbentPath starts expand goal baseCost maxStates =
      .ok receipt) (hreplan : receipt.decision = "REPLAN") :
    ∃ candidate states receipt',
      replanner.router.route input starts expand goal baseCost maxStates = .ok candidate ∧
      receipt.candidateRouteReceiptSha256 = candidate.receiptSha256 ∧
      Connects starts expand goal states ∧
      replanner.assess candidate input states starts expand goal baseCost maxStates = .ok receipt' ∧
      receipt'.incumbentPathIds = candidate.pathIds ∧ receipt'.decision = "KEEP" := by
  obtain ⟨incumbent, candidate, -, hcandidate, hdecision, hsha, -, -⟩ := assess_eq_ok h
  rw [hdecision] at hreplan
  have hfound := found_of_decide_replan hreplan
  obtain ⟨states, assessment, least, hconnects, hassess, hids, hstatus, hcost, htotal, -⟩ :=
    cheapest_of_route hcandidate hfound
  have hne : candidate.pathIds ≠ [] := by
    obtain ⟨_, _, _, -, -, hstates, hnames, -⟩ := assessPath_eq_ok hassess
    rw [← hids]
    intro hnil
    rw [hnil] at hnames
    obtain ⟨state, states', rfl⟩ := List.exists_cons_of_ne_nil hstates
    obtain ⟨id, hid, -⟩ := (mem_of_mapM hnames).1 state (List.mem_cons_self ..)
    cases hid
  obtain ⟨resolved, hresolved, hlaw, hrevision, hvalid⟩ :=
    validatePreviousRoute_of_route hcandidate hfound hne
  have hkeep : (replanner.decide assessment candidate).1 = "KEEP" := by
    refine decide_keep.mpr ⟨hfound, least, htotal, ?_, least, hcost, Or.inl hids.symm⟩
    rw [hstatus]
    decide
  refine ⟨candidate, states, replanner.buildReceipt (replanner.decide assessment candidate) candidate
    resolved assessment candidate, hcandidate, hsha, hconnects, ?_, hids, hkeep⟩
  unfold assess
  refine bind_eq_ok.mpr ⟨(), hvalid, bind_eq_ok.mpr ⟨resolved, hresolved, ?_⟩⟩
  refine bind_eq_ok.mpr ⟨assessment, hassess, ?_⟩
  refine bind_eq_ok.mpr ⟨(), raiseIf_eq_ok.mpr (not_not.mpr hids), ?_⟩
  refine bind_eq_ok.mpr ⟨(), raiseIf_eq_ok.mpr (not_not.mpr hlaw.symm), ?_⟩
  refine bind_eq_ok.mpr ⟨(), raiseIf_eq_ok.mpr (not_lt.mpr hrevision.le), ?_⟩
  exact bind_eq_ok.mpr ⟨candidate, hcandidate, rfl⟩

/-- MAIN: **an incumbent that is kept is admissible, and its cost is at most the threshold above that
of a cheapest path from a start to a goal, unless it only bears the names of one; a route that
replaces the incumbent is kept when it is assessed again.** -/
theorem assess_settles [DecidableEq σ] (replanner : GovernedReplanner rt σ)
    {previousRoute : FieldAwareRouteReceipt} {input : FieldInput} {incumbentPath starts : List σ}
    {expand : σ → Except PyError (List σ)} {goal : σ → Except PyError Bool} {baseCost : PyReal}
    {maxStates : ℤ} {receipt : GovernedReplanReceipt}
    (h : replanner.assess previousRoute input incumbentPath starts expand goal baseCost maxStates =
      .ok receipt) :
    (receipt.decision = "KEEP" → ∃ cost least,
      Admissible replanner.router input baseCost incumbentPath cost ∧
      Cheapest replanner.router input starts expand goal baseCost least ∧
      (cost ≤ least + replanner.policy.minimumCostImprovement.value ∨
        receipt.incumbentPathIds = receipt.candidatePathIds) ∧
      (NamesApart replanner.router →
        cost ≤ least + replanner.policy.minimumCostImprovement.value)) ∧
    (receipt.decision = "REPLAN" → ∃ candidate states receipt',
      replanner.router.route input starts expand goal baseCost maxStates = .ok candidate ∧
      receipt.candidateRouteReceiptSha256 = candidate.receiptSha256 ∧
      Connects starts expand goal states ∧
      replanner.assess candidate input states starts expand goal baseCost maxStates = .ok receipt' ∧
      receipt'.incumbentPathIds = candidate.pathIds ∧ receipt'.decision = "KEEP") :=
  ⟨keep_spec h, replan_spec h⟩

/-! ## Detours -/

/-- A replanner that looks for improvements of more than 1. -/
def riskReplanner : GovernedReplanner plainRuntime String where
  router := riskRouter
  policy := ⟨"deadband", .number 1⟩
  valid := ⟨⟨"deadband", .number 1⟩, by decide +kernel⟩

/-- The detour as the previous route. -/
def detourRoute : FieldAwareRouteReceipt where
  status := "found"
  fieldLawSha256 := ""
  fieldStateSha256 := ""
  fieldRevision := 0
  bindings := []
  pathReceiptSha256 := ""
  pathIds := ["a", "b", "c"]
  totalCost := some 2

/-- WITNESS: where the risk has been raised, the detour is replaced by a route that is then kept. -/
theorem assess_settles_detour :
    ∃ receipt, riskReplanner.assess detourRoute (.state (riskState 1)) ["a", "b", "c"] ["a"]
        RelationalField.detourExpand (fun state => .ok (state = "c")) (.number 1) 10 = .ok receipt ∧
      ∃ candidate states receipt',
        riskReplanner.assess candidate (.state (riskState 1)) states ["a"]
          RelationalField.detourExpand (fun state => .ok (state = "c")) (.number 1) 10 =
            .ok receipt' ∧ receipt'.decision = "KEEP" := by
  have hrun : (riskReplanner.assess detourRoute (.state (riskState 1)) ["a", "b", "c"] ["a"]
      RelationalField.detourExpand (fun state => .ok (state = "c")) (.number 1) 10).map (·.decision) =
        .ok "REPLAN" := by
    decide +kernel
  cases h : riskReplanner.assess detourRoute (.state (riskState 1)) ["a", "b", "c"] ["a"]
      RelationalField.detourExpand (fun state => .ok (state = "c")) (.number 1) 10 with
  | error e =>
      rw [h] at hrun
      cases hrun
  | ok receipt =>
      rw [h] at hrun
      obtain ⟨candidate, states, receipt', -, -, -, hassess, -, hkeep⟩ :=
        (assess_settles riskReplanner h).2 (Except.ok.inj hrun)
      exact ⟨receipt, rfl, candidate, states, receipt', hassess, hkeep⟩

/-- A replanner on numbers; all but 0 share a name, and those from 10 on are expensive. -/
def namesakeReplanner : GovernedReplanner plainRuntime ℕ where
  router := {
    dynamicField := riskField
    stateId := fun n => .ok (if n = 0 then "start" else "end")
    axes := []
    relationCosts := [{
      name := "distance"
      evaluate := fun _ target => .ok (.number (if 10 ≤ target then 5 else 0)) }]
    constraints := []
    dynamicBindings := []
    requireDynamicStateReceipt := false
    dynamicStateController := none
    valid := by decide +kernel }
  policy := ⟨"deadband", .number 1⟩
  valid := ⟨⟨"deadband", .number 1⟩, by decide +kernel⟩

/-- COUNTEREXAMPLE: the goal is `b` now. The detour is kept, since it costs only 1 more than the way
there, but it does not lead to a goal. And a path is kept for its names alone, though it costs 6 where
1 would do. -/
theorem kept_beside_goal :
    ((riskReplanner.assess detourRoute (.state (riskState 0)) ["a", "b", "c"] ["a"]
        RelationalField.detourExpand (fun state => .ok (state = "b")) (.number 1) 10).map
          (·.decision) = .ok "KEEP" ∧
      ¬ Connects ["a"] RelationalField.detourExpand (fun state => .ok (state = "b"))
        ["a", "b", "c"]) ∧
    (namesakeReplanner.assess { detourRoute with pathIds := ["start", "end"] }
      (.state (riskState 0)) [0, 11] [0] (fun n => .ok (if n = 0 then [1] else []))
      (fun n => .ok (n = 1)) (.number 1) 10).map
        (fun receipt => (receipt.decision, receipt.incumbentCurrentCost,
          receipt.candidateCurrentCost)) = .ok ("KEEP", some 6, some 1) := by
  refine ⟨⟨by decide +kernel, ?_⟩, by decide +kernel⟩
  rintro ⟨-, -, last, hlast, hgoal⟩
  obtain rfl : "c" = last := Option.some.inj hlast
  exact absurd hgoal (by decide)

end GovernedReplanner

end PhiOS
