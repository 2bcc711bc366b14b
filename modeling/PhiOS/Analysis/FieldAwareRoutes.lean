import Mathlib.Algebra.Order.BigOperators.Group.List
import PhiOS.Analysis.LeastCostPaths
import PhiOS.Model.FieldAwareRouting

/-!
# Routes and assessed paths

A router searches for routes and assesses given paths over the same relational field, so that the
two agree: `route_assessed`. The values of the dynamic field enter the soft costs only, and each of
them with a factor that is not negative: `assessPath_mono`.
-/

set_option autoImplicit false

namespace PhiOS

open LeastCost

@[simp] theorem asRouting_eq_ok {α : Type} {result : Except PyError α} {value : α} :
    asRouting result = .ok value ↔ result = .ok value := by
  unfold asRouting
  cases result with
  | ok other => exact Iff.rfl
  | error e => by_cases hcls : e.cls = .relationalFieldContractError <;> simp [hcls]

theorem requireStateId_eq_ok {cls cls' : ErrorClass} {value : Except PyError String} {id : String}
    (h : requireStateId cls value = .ok id) : requireStateId cls' value = .ok id := by
  unfold requireStateId at h ⊢
  obtain ⟨text, htext, h⟩ := bind_eq_ok.mp h
  obtain ⟨_, hempty, h⟩ := bind_eq_ok.mp h
  exact bind_eq_ok.mpr
    ⟨text, htext, bind_eq_ok.mpr ⟨(), raiseIf_eq_ok.mpr (raiseIf_eq_ok.mp hempty), h⟩⟩

/-! ## The laws of a field -/

section Laws

/-- A rule that is taken over keeps its name, stripped, and its numbers.
SOURCE: core/dynamic_field.py:370-415 -/
theorem validateRule_eq_ok {rules rules' : FieldRules} {rule : FieldVariableRule}
    (h : validateRule rules rule = .ok rules') :
    rules.lookup (strip rule.name) = none ∧ ∃ checked, rules' = rules ++ [(strip rule.name, checked)] ∧
      checked.minimum.value = rule.minimum.value ∧ checked.maximum.value = rule.maximum.value ∧
      checked.initial.value = rule.initial.value ∧
      checked.initial = .number checked.initial.value ∧
      checked.minimum.value ≤ checked.initial.value ∧
      checked.initial.value ≤ checked.maximum.value := by
  have hnumber : ∀ {cls : ErrorClass} {value : PyReal} {label : String} {q : ℚ},
      requireFinite cls value label = .ok q → value = .number q := by
    intro cls value label q hq
    cases value with
    | number value => exact congrArg PyReal.number (Except.ok.inj hq)
    | notFinite => cases hq
    | notNumeric => cases hq
  unfold validateRule at h
  obtain ⟨_, -, h⟩ := bind_eq_ok.mp h
  obtain ⟨_, hnew, h⟩ := bind_eq_ok.mp h
  obtain ⟨minimum, hmin, h⟩ := bind_eq_ok.mp h
  obtain ⟨maximum, hmax, h⟩ := bind_eq_ok.mp h
  obtain ⟨initial, hinitial, h⟩ := bind_eq_ok.mp h
  obtain ⟨maxAbsDelta, -, h⟩ := bind_eq_ok.mp h
  obtain ⟨_, -, h⟩ := bind_eq_ok.mp h
  obtain ⟨_, hbounds, h⟩ := bind_eq_ok.mp h
  obtain ⟨_, _, h⟩ := ok_past_two h
  obtain ⟨hlow, hhigh⟩ := not_or.mp (raiseIf_eq_ok.mp hbounds)
  refine ⟨Option.not_isSome_iff_eq_none.mp (raiseIf_eq_ok.mp hnew), _, (Except.ok.inj h).symm, ?_, ?_, ?_, rfl,
    not_lt.mp hlow, not_lt.mp hhigh⟩
  · rw [hnumber hmin]
  · rw [hnumber hmax]
  · rw [hnumber hinitial]

/-- Every rule of a law is taken over. The induction is on the rules. -/
theorem validateRules_spec {law : List FieldVariableRule} {rules rules' : FieldRules}
    (h : law.foldlM validateRule rules = .ok rules') :
    (∀ name checked, rules.lookup name = some checked → rules'.lookup name = some checked) ∧
      ∀ rule ∈ law, ∃ checked, rules'.lookup (strip rule.name) = some checked ∧
        checked.minimum.value = rule.minimum.value := by
  induction law generalizing rules with
  | nil =>
      obtain rfl := Except.ok.inj h
      exact ⟨fun _ _ hfound => hfound, fun rule hrule => by cases hrule⟩
  | cons rule law ih =>
      rw [List.foldlM_cons] at h
      obtain ⟨rules₁, hfirst, hrest⟩ := bind_eq_ok.mp h
      obtain ⟨hnew, checked, rfl, hmin, -⟩ := validateRule_eq_ok hfirst
      obtain ⟨hkept, hall⟩ := ih hrest
      refine ⟨fun name other hfound => hkept _ _ ?_, ?_⟩
      · rw [List.lookup_append, hfound]
        rfl
      · intro other hother
        rcases List.mem_cons.mp hother with rfl | hother
        · refine ⟨checked, hkept _ _ ?_, hmin⟩
          rw [List.lookup_append, hnew]
          simp
        · exact hall other hother

theorem DynamicField.lookup_rules (field : DynamicField) :
    ∀ rule ∈ field.law.variableRules, ∃ checked,
      field.rules.lookup (strip rule.name) = some checked ∧
        checked.minimum.value = rule.minimum.value := by
  have hvalid := field.valid
  unfold validateLaw at hvalid
  obtain ⟨_, _, _, hvalid⟩ := ok_past_three hvalid
  exact (validateRules_spec hvalid).2

end Laws

/-! ## The relational field of a router -/

/-- The value of a variable. -/
def valueOf (values : List (String × PyReal)) (name : String) : ℚ :=
  ((values.lookup name).map PyReal.value).getD 0

namespace FieldAwareRouter

section Reasoner

variable {rt : DynamicRuntime} {σ : Type} {router : FieldAwareRouter rt σ}
  {fieldState : DynamicFieldState} {reasoner : RelationalField σ}
  {snapshots : List DynamicBindingSnapshot}

/-- The soft cost that a binding adds where the variables have these values. -/
def boundCost (values : String → ℚ) (binding : DynamicCostBinding σ) : RelationCostSpec σ where
  name := "dynamic:" ++ binding.name
  evaluate := boundRelationMeasure binding.name binding.evaluate (values (strip binding.fieldVariable))
  weight := .number binding.scale.value

/-- The relational field of a router where the variables have these values. -/
def reasonerAt (router : FieldAwareRouter rt σ) (values : String → ℚ) : RelationalField σ where
  stateId := router.stateId
  axes := router.axes
  constraints := router.constraints
  relationCosts := router.relationCosts ++
    (router.dynamicBindings.insertionSort fun a b => a.name ≤ b.name).map (boundCost values)

/-- The bindings of a router name variables of the law that have no negative values, and
their scales are not negative. -/
theorem binding_spec {binding : DynamicCostBinding σ} (h : binding ∈ router.dynamicBindings) :
    (∃ rule ∈ router.dynamicField.law.variableRules, rule.name = strip binding.fieldVariable ∧
      0 ≤ rule.minimum.value) ∧
      binding.scale = .number binding.scale.value ∧ 0 ≤ binding.scale.value := by
  have hvalid := router.valid
  unfold validateRouter at hvalid
  obtain ⟨_, _, _, _, hvalid⟩ := ok_past_four hvalid
  have hbinding := forM_eq_ok.mp hvalid binding h
  unfold validateDynamicBinding at hbinding
  dsimp only at hbinding
  cases hfound : router.dynamicField.law.variableRules.reverse.find?
      fun rule => rule.name = strip binding.fieldVariable with
  | none =>
      rw [hfound] at hbinding
      cases hbinding
  | some rule =>
      rw [hfound] at hbinding
      obtain ⟨_, hmin, hbinding⟩ := bind_eq_ok.mp hbinding
      obtain ⟨scale, hscale, -⟩ := bind_eq_ok.mp hbinding
      obtain ⟨hnumber, hnonneg⟩ := RelationalField.requireNonnegativeFinite_eq_ok.mp hscale
      refine ⟨⟨rule, List.mem_reverse.mp (List.mem_of_find?_eq_some hfound), ?_,
        not_lt.mp (raiseIf_eq_ok.mp hmin)⟩, ?_, ?_⟩
      · simpa using List.find?_some hfound
      · rw [hnumber]
        rfl
      · rw [hnumber]
        exact hnonneg

/-- What a valid state says of its values.
SOURCE: core/dynamic_field.py:478-500 -/
theorem values_of_validateState {field : DynamicField} {u : Unit}
    (h : field.validateState rt fieldState = .ok u) :
    fieldState.values.map (·.1) = field.sortedNames ∧ ∀ entry ∈ fieldState.values, ∃ rule,
      field.rules.lookup entry.1 = some rule ∧ entry.2 = .number entry.2.value ∧
        rule.minimum.value ≤ entry.2.value ∧ entry.2.value ≤ rule.maximum.value := by
  unfold DynamicField.validateState at h
  obtain ⟨_, _, _, _, h⟩ := ok_past_four h
  obtain ⟨_, hnames, h⟩ := bind_eq_ok.mp h
  obtain ⟨_, -, h⟩ := bind_eq_ok.mp h
  obtain ⟨_, hvalues, -⟩ := bind_eq_ok.mp h
  refine ⟨not_not.mp (raiseIf_eq_ok.mp hnames), ?_⟩
  intro entry hentry
  obtain ⟨numeric, hvalue, -⟩ := bind_eq_ok.mp (forM_eq_ok.mp hvalues entry hentry)
  unfold DynamicField.validateValue at hvalue
  obtain ⟨rule, hrule, hvalue⟩ := bind_eq_ok.mp hvalue
  obtain ⟨number, hnumber, hvalue⟩ := bind_eq_ok.mp hvalue
  obtain ⟨_, hbounds, -⟩ := bind_eq_ok.mp hvalue
  obtain ⟨hlow, hhigh⟩ := not_or.mp (raiseIf_eq_ok.mp hbounds)
  unfold DynamicField.rule at hrule
  cases hlookup : field.rules.lookup entry.1 with
  | none =>
      rw [hlookup] at hrule
      cases hrule
  | some other =>
      rw [hlookup] at hrule
      obtain rfl : other = rule := Except.ok.inj hrule
      have hentry₂ : entry.2 = .number number := by
        cases hreal : entry.2 with
        | number value =>
            rw [hreal] at hnumber
            exact congrArg PyReal.number (Except.ok.inj hnumber)
        | notFinite =>
            rw [hreal] at hnumber
            cases hnumber
        | notNumeric =>
            rw [hreal] at hnumber
            cases hnumber
      refine ⟨other, rfl, ?_⟩
      rw [hentry₂]
      exact ⟨rfl, not_lt.mp hlow, not_lt.mp hhigh⟩

/-- At a valid state every binding finds a value that is not negative. -/
theorem value_of_binding {u : Unit} (hvalid : router.dynamicField.validateState rt fieldState = .ok u)
    {binding : DynamicCostBinding σ} (h : binding ∈ router.dynamicBindings) :
    fieldState.values.lookup (strip binding.fieldVariable) =
        some (.number (valueOf fieldState.values (strip binding.fieldVariable))) ∧
      0 ≤ valueOf fieldState.values (strip binding.fieldVariable) := by
  obtain ⟨⟨rule, hrule, hname, hmin⟩, -, -⟩ := binding_spec h
  obtain ⟨checked, hchecked, hsame⟩ := router.dynamicField.lookup_rules rule hrule
  rw [hname, strip_strip] at hchecked
  obtain ⟨hnames, hentries⟩ := values_of_validateState hvalid
  -- the variable is one of the rules, so it is one of the values
  have hmem : strip binding.fieldVariable ∈ fieldState.values.map (·.1) := by
    rw [hnames]
    unfold DynamicField.sortedNames
    rw [List.mem_insertionSort]
    exact List.mem_map.mpr ⟨_, KeyOrder.mem_of_lookup hchecked, rfl⟩
  cases hlookup : fieldState.values.lookup (strip binding.fieldVariable) with
  | none =>
      obtain ⟨entry, hentry, hfst⟩ := List.mem_map.mp hmem
      have hnone := List.lookup_eq_none_iff.mp hlookup entry hentry
      rw [hfst] at hnone
      simp at hnone
  | some value =>
      obtain ⟨checked', hchecked', hnumber, hlow, -⟩ := hentries _ (KeyOrder.mem_of_lookup hlookup)
      obtain rfl : checked = checked' := Option.some.inj (hchecked.symm.trans hchecked')
      have hvalue : valueOf fieldState.values (strip binding.fieldVariable) = value.value := by
        unfold valueOf
        rw [hlookup]
        rfl
      rw [hvalue]
      exact ⟨congrArg some hnumber, (hsame ▸ hmin).trans hlow⟩

/-- What a binding comes to. -/
theorem bindVariable_eq_ok {values : List (String × PyReal)} {binding : DynamicCostBinding σ}
    {bound : DynamicBindingSnapshot × RelationCostSpec σ}
    (h : bindVariable values binding = .ok bound) : bound.2 = boundCost (valueOf values) binding := by
  unfold bindVariable at h
  obtain ⟨value, hvalue, h⟩ := bind_eq_ok.mp h
  obtain ⟨fieldValue, hfield, h⟩ := bind_eq_ok.mp h
  obtain ⟨scale, hscale, hbound⟩ := bind_eq_ok.mp h
  obtain ⟨rfl, -⟩ := RelationalField.requireNonnegativeFinite_eq_ok.mp hfield
  obtain ⟨hscale, -⟩ := RelationalField.requireNonnegativeFinite_eq_ok.mp hscale
  have hlookup : valueOf values (strip binding.fieldVariable) = fieldValue := by
    unfold DynamicStateController.indexed at hvalue
    unfold valueOf
    cases hfound : values.lookup (strip binding.fieldVariable) with
    | none =>
        rw [hfound] at hvalue
        cases hvalue
    | some other =>
        rw [hfound] at hvalue
        obtain rfl := Except.ok.inj hvalue
        rfl
  rw [← Except.ok.inj hbound]
  unfold boundCost
  rw [hlookup, hscale]
  rfl

theorem reasonerForState_eq_ok
    (h : router.reasonerForState fieldState = .ok (reasoner, snapshots)) :
    router.dynamicField.validateState rt fieldState = .ok () ∧
      reasoner = router.reasonerAt (valueOf fieldState.values) ∧ reasoner.validate = .ok () := by
  unfold reasonerForState at h
  obtain ⟨_, hvalid, h⟩ := bind_eq_ok.mp h
  obtain ⟨bound, hbound, h⟩ := bind_eq_ok.mp h
  obtain ⟨_, hvalidate, h⟩ := bind_eq_ok.mp h
  obtain ⟨rfl, -⟩ := Prod.mk.inj (Except.ok.inj h)
  have hspecs := map_of_mapM (fun binding bound hb => bindVariable_eq_ok hb) hbound
  refine ⟨hvalid, ?_, hvalidate⟩
  unfold reasonerAt
  rw [hspecs]

/-- The names and the weights of the costs do not depend on the values. -/
theorem validate_reasonerAt {values values' : String → ℚ}
    (h : (router.reasonerAt values).validate = .ok ()) :
    (router.reasonerAt values').validate = .ok () := by
  have hnames : (router.reasonerAt values').relationCosts.map (·.name) =
      (router.reasonerAt values).relationCosts.map (·.name) := by
    simp [reasonerAt, boundCost]
  unfold RelationalField.validate at h ⊢
  obtain ⟨_, haxes, h⟩ := bind_eq_ok.mp h
  obtain ⟨_, hcosts, h⟩ := bind_eq_ok.mp h
  obtain ⟨_, hconstraints, h⟩ := bind_eq_ok.mp h
  obtain ⟨_, hweights, hrelations⟩ := bind_eq_ok.mp h
  rw [hnames]
  refine bind_eq_ok.mpr ⟨_, haxes, bind_eq_ok.mpr ⟨_, hcosts, bind_eq_ok.mpr ⟨_, hconstraints, ?_⟩⟩⟩
  refine bind_eq_ok.mpr ⟨_, hweights, forM_eq_ok.mpr ?_⟩
  intro spec hspec
  rcases List.mem_append.mp hspec with hstatic | hbound
  · exact forM_eq_ok.mp hrelations spec (List.mem_append_left _ hstatic)
  · obtain ⟨binding, hbinding, rfl⟩ := List.mem_map.mp hbound
    exact forM_eq_ok.mp hrelations (boundCost values binding)
      (List.mem_append_right _ (List.mem_map_of_mem hbinding))

/-- A valid state has a relational field, if another has one. -/
theorem exists_reasonerForState {u : Unit} {values : String → ℚ}
    (hvalid : router.dynamicField.validateState rt fieldState = .ok u)
    (hvalidate : (router.reasonerAt values).validate = .ok ()) :
    ∃ snapshots, router.reasonerForState fieldState =
      .ok (router.reasonerAt (valueOf fieldState.values), snapshots) := by
  have hbound : ∃ bound, (router.dynamicBindings.insertionSort fun a b => a.name ≤ b.name).mapM
      (bindVariable fieldState.values) = .ok bound := by
    apply exists_mapM
    intro binding hbinding
    have hmem := (List.mem_insertionSort _).mp hbinding
    obtain ⟨hlookup, hnonneg⟩ := value_of_binding hvalid hmem
    obtain ⟨-, hscale, hscaleNonneg⟩ := binding_spec hmem
    have hvalue : DynamicStateController.indexed (strip binding.fieldVariable) fieldState.values =
        .ok (.number (valueOf fieldState.values (strip binding.fieldVariable))) := by
      unfold DynamicStateController.indexed
      rw [hlookup]
    unfold bindVariable
    refine ⟨_, bind_eq_ok.mpr ⟨_, hvalue, bind_eq_ok.mpr ⟨valueOf fieldState.values
      (strip binding.fieldVariable), ?_, bind_eq_ok.mpr ⟨binding.scale.value, ?_, rfl⟩⟩⟩⟩
    · exact RelationalField.requireNonnegativeFinite_eq_ok.mpr ⟨rfl, hnonneg⟩
    · exact RelationalField.requireNonnegativeFinite_eq_ok.mpr ⟨hscale, hscaleNonneg⟩
  obtain ⟨bound, hbound⟩ := hbound
  have hspecs := map_of_mapM (fun binding bound hb => bindVariable_eq_ok hb) hbound
  refine ⟨bound.map (·.1), ?_⟩
  unfold reasonerForState
  obtain rfl : u = () := rfl
  refine bind_eq_ok.mpr ⟨_, hvalid, bind_eq_ok.mpr ⟨_, hbound, bind_eq_ok.mpr ⟨(), ?_, ?_⟩⟩⟩
  · rw [hspecs]
    exact validate_reasonerAt hvalidate
  · rw [hspecs]
    rfl

end Reasoner

/-! ## Costs and the values of the variables -/

section Costs

variable {rt : DynamicRuntime} {σ : Type} {router : FieldAwareRouter rt σ} {source target : σ}

theorem orWrapped_eq_ok {α : Type} {cls : ErrorClass} {message : String} {result : Except PyError α}
    {value : α} : orWrapped cls message result = .ok value ↔ result = .ok value := by
  unfold orWrapped
  cases result with
  | ok other => exact Iff.rfl
  | error e =>
      by_cases hcls : e.cls = cls ∨ ¬ e.cls.isException
      · simp only [if_pos hcls, reduceCtorEq]
      · simp only [if_neg hcls, reduceCtorEq]

theorem relationCost_nonneg {spec : RelationCostSpec σ} {cost : RelationCost}
    (hweight : 0 ≤ spec.weight.value)
    (h : RelationalField.relationCost source target spec = .ok cost) : 0 ≤ cost.weightedCost := by
  unfold RelationalField.relationCost at h
  obtain ⟨raw, hraw, h⟩ := bind_eq_ok.mp h
  obtain ⟨_, -, hraw⟩ := bind_eq_ok.mp (orWrapped_eq_ok.mp hraw)
  rw [← Except.ok.inj h]
  exact mul_nonneg (RelationalField.requireNonnegativeFinite_eq_ok.mp hraw).2 hweight

theorem axisChange_nonneg {spec : FieldAxisSpec σ} {change : AxisChange}
    (hweight : 0 ≤ spec.weight.value)
    (h : RelationalField.axisChange source target spec = .ok change) : 0 ≤ change.weightedCost := by
  unfold RelationalField.axisChange at h
  obtain ⟨⟨sourceValue, targetValue⟩, -, h⟩ := bind_eq_ok.mp h
  rw [← Except.ok.inj h]
  exact mul_nonneg (abs_nonneg _) hweight

theorem sum_mapM_nonneg {α β : Type} {f : α → Except PyError β} {cost : β → ℚ} {l : List α}
    {r : List β} (hr : l.mapM f = .ok r) (hsteps : ∀ a ∈ l, ∀ b, f a = .ok b → 0 ≤ cost b) :
    0 ≤ (r.map cost).sum := by
  apply List.sum_nonneg
  intro c hc
  obtain ⟨b, hb, rfl⟩ := List.mem_map.mp hc
  obtain ⟨a, ha, hab⟩ := (mem_of_mapM hr).2 b hb
  exact hsteps a ha b hab

/-- The cost that a binding adds grows with the value of its variable. -/
theorem boundCost_mono {values values' : String → ℚ} {binding : DynamicCostBinding σ}
    {cost : RelationCost} (hscale : 0 ≤ binding.scale.value)
    (hnonneg : 0 ≤ values' (strip binding.fieldVariable))
    (h : RelationalField.relationCost source target (boundCost values binding) = .ok cost) :
    ∃ cost', RelationalField.relationCost source target (boundCost values' binding) = .ok cost' ∧
      ((∀ name, values name ≤ values' name) → cost.weightedCost ≤ cost'.weightedCost) := by
  unfold RelationalField.relationCost at h ⊢
  obtain ⟨raw, hraw, h⟩ := bind_eq_ok.mp h
  obtain ⟨measured, hmeasured, hraw⟩ := bind_eq_ok.mp (orWrapped_eq_ok.mp hraw)
  obtain ⟨rfl, -⟩ := RelationalField.requireNonnegativeFinite_eq_ok.mp hraw
  obtain ⟨susceptibility, hsusceptibility, hmeasured⟩ := bind_eq_ok.mp hmeasured
  obtain ⟨_, -, hevaluated⟩ := bind_eq_ok.mp (orWrapped_eq_ok.mp hsusceptibility)
  have hfactor := (RelationalField.requireNonnegativeFinite_eq_ok.mp hevaluated).2
  obtain rfl := PyReal.number.inj (Except.ok.inj hmeasured)
  have hmeasure : boundRelationMeasure binding.name binding.evaluate
      (values' (strip binding.fieldVariable)) source target =
        .ok (.number (values' (strip binding.fieldVariable) * susceptibility)) :=
    bind_eq_ok.mpr ⟨susceptibility, hsusceptibility, rfl⟩
  refine ⟨_, bind_eq_ok.mpr ⟨values' (strip binding.fieldVariable) * susceptibility,
    orWrapped_eq_ok.mpr (bind_eq_ok.mpr ⟨_, hmeasure, ?_⟩), rfl⟩, ?_⟩
  · exact RelationalField.requireNonnegativeFinite_eq_ok.mpr ⟨rfl, mul_nonneg hnonneg hfactor⟩
  · intro hle
    rw [← Except.ok.inj h]
    exact mul_le_mul_of_nonneg_right (mul_le_mul_of_nonneg_right (hle _) hfactor) hscale

/-- The same for all bindings together. The induction is on the bindings. -/
theorem boundCosts_mono {values values' : String → ℚ} {bindings : List (DynamicCostBinding σ)}
    {costs : List RelationCost} (hscale : ∀ binding ∈ bindings, 0 ≤ binding.scale.value)
    (hnonneg : ∀ binding ∈ bindings, 0 ≤ values' (strip binding.fieldVariable))
    (h : (bindings.map (boundCost values)).mapM (RelationalField.relationCost source target) =
      .ok costs) :
    ∃ costs', (bindings.map (boundCost values')).mapM (RelationalField.relationCost source target) =
        .ok costs' ∧
      ((∀ name, values name ≤ values' name) →
        (costs.map (·.weightedCost)).sum ≤ (costs'.map (·.weightedCost)).sum) := by
  induction bindings generalizing costs with
  | nil =>
      obtain rfl := Except.ok.inj h
      exact ⟨[], rfl, fun _ => le_refl _⟩
  | cons binding bindings ih =>
      rw [List.map_cons, List.mapM_cons] at h
      obtain ⟨cost, hcost, h⟩ := bind_eq_ok.mp h
      obtain ⟨rest, hrest, h⟩ := bind_eq_ok.mp h
      obtain ⟨hhead, hscale⟩ := List.forall_mem_cons.mp hscale
      obtain ⟨hvalue, hnonneg⟩ := List.forall_mem_cons.mp hnonneg
      obtain ⟨cost', hcost', hle⟩ := boundCost_mono hhead hvalue hcost
      obtain ⟨rest', hrest', hsum⟩ := ih hscale hnonneg hrest
      refine ⟨cost' :: rest', ?_, ?_⟩
      · rw [List.map_cons, List.mapM_cons]
        exact bind_eq_ok.mpr ⟨cost', hcost', bind_eq_ok.mpr ⟨rest', hrest', rfl⟩⟩
      · intro hvalues
        rw [← Except.ok.inj h, List.map_cons, List.map_cons, List.sum_cons, List.sum_cons]
        exact add_le_add (hle hvalues) (hsum hvalues)

/-- The values decide nothing about whether a transition is blocked, and its cost grows
with them.
SOURCE: core/relational_field.py:197-297 -/
theorem assessTransition_mono {values values' : String → ℚ} {baseCost : PyReal}
    {receipt : TransitionReceipt} (hvalidate : (router.reasonerAt values).validate = .ok ())
    (hnonneg : ∀ binding ∈ router.dynamicBindings, 0 ≤ values' (strip binding.fieldVariable))
    (h : (router.reasonerAt values).assessTransition rt.toFieldRuntime source target baseCost =
      .ok receipt) :
    ∃ receipt', (router.reasonerAt values').assessTransition rt.toFieldRuntime source target
        baseCost = .ok receipt' ∧
      (receipt.status = "blocked" ↔ receipt'.status = "blocked") ∧
      ((∀ name, values name ≤ values' name) → ∀ cost cost', receipt.totalCost = some cost →
        receipt'.totalCost = some cost' → cost ≤ cost') := by
  have hweights : (∀ spec ∈ router.axes, 0 ≤ spec.weight.value) ∧
      ∀ spec ∈ router.relationCosts, 0 ≤ spec.weight.value := by
    unfold RelationalField.validate at hvalidate
    obtain ⟨_, _, _, hvalidate⟩ := ok_past_three hvalidate
    obtain ⟨_, haxes, hrelations⟩ := bind_eq_ok.mp hvalidate
    have hchecked : ∀ {weight : PyReal} {label : String},
        (do let _ ← requireNonnegativeFinite RelationalField.cls weight label) = .ok () →
          0 ≤ weight.value := by
      intro weight label hweight
      obtain ⟨q, hq, -⟩ := bind_eq_ok.mp hweight
      obtain ⟨rfl, hnonneg⟩ := RelationalField.requireNonnegativeFinite_eq_ok.mp hq
      exact hnonneg
    exact ⟨fun spec hspec => hchecked (forM_eq_ok.mp haxes spec hspec),
      fun spec hspec => hchecked (forM_eq_ok.mp hrelations spec (List.mem_append_left _ hspec))⟩
  unfold RelationalField.assessTransition at h ⊢
  obtain ⟨base, hbase, h⟩ := bind_eq_ok.mp h
  obtain ⟨sourceId, hsource, h⟩ := bind_eq_ok.mp h
  obtain ⟨targetId, htarget, h⟩ := bind_eq_ok.mp h
  obtain ⟨blockedBy, hblockedBy, h⟩ := bind_eq_ok.mp h
  by_cases hblocked : blockedBy ≠ []
  · rw [if_pos hblocked] at h
    refine ⟨receipt, bind_eq_ok.mpr ⟨base, hbase, bind_eq_ok.mpr ⟨sourceId, hsource,
      bind_eq_ok.mpr ⟨targetId, htarget, bind_eq_ok.mpr ⟨blockedBy, hblockedBy, ?_⟩⟩⟩⟩, Iff.rfl, ?_⟩
    · rw [if_pos hblocked]
      exact h
    · rw [← Except.ok.inj h]
      intro _ cost cost' hcost
      cases hcost
  · rw [if_neg hblocked] at h
    obtain ⟨axisChanges, haxes, h⟩ := bind_eq_ok.mp h
    obtain ⟨relationCosts, hrelations, h⟩ := bind_eq_ok.mp h
    obtain ⟨total, htotal, h⟩ := bind_eq_ok.mp h
    have hsplit : (router.relationCosts ++ (router.dynamicBindings.insertionSort
        fun a b => a.name ≤ b.name).map (boundCost values)).mapM
          (RelationalField.relationCost source target) = .ok relationCosts := hrelations
    rw [List.mapM_append] at hsplit
    obtain ⟨static, hstatic, hsplit⟩ := bind_eq_ok.mp hsplit
    obtain ⟨bound, hbound, hsplit⟩ := bind_eq_ok.mp hsplit
    obtain rfl : static ++ bound = relationCosts := Except.ok.inj hsplit
    have hsorted : ∀ {binding}, binding ∈ router.dynamicBindings.insertionSort
        (fun a b => a.name ≤ b.name) → binding ∈ router.dynamicBindings :=
      fun hmem => (List.mem_insertionSort _).mp hmem
    obtain ⟨bound', hbound', hle⟩ := boundCosts_mono
      (fun binding hmem => (binding_spec (hsorted hmem)).2.2)
      (fun binding hmem => hnonneg binding (hsorted hmem)) hbound
    have hrelations' : (router.reasonerAt values').relationCosts.mapM
        (RelationalField.relationCost source target) = .ok (static ++ bound') := by
      unfold reasonerAt
      rw [List.mapM_append]
      exact bind_eq_ok.mpr ⟨static, hstatic, bind_eq_ok.mpr ⟨bound', hbound', rfl⟩⟩
    have haxesNonneg : 0 ≤ (axisChanges.map (·.weightedCost)).sum := by
      apply sum_mapM_nonneg haxes
      intro spec hspec change hchange
      exact axisChange_nonneg (hweights.1 spec hspec) hchange
    have hcostsNonneg : 0 ≤ ((static ++ bound').map (·.weightedCost)).sum := by
      apply sum_mapM_nonneg hrelations'
      intro spec hspec cost hcost
      refine relationCost_nonneg ?_ hcost
      rcases List.mem_append.mp hspec with hspec | hspec
      · exact hweights.2 spec hspec
      · obtain ⟨binding, hbinding, rfl⟩ := List.mem_map.mp hspec
        exact (binding_spec (hsorted hbinding)).2.2
    obtain ⟨htotal, -⟩ := RelationalField.requireNonnegativeFinite_eq_ok.mp htotal
    have hbaseNonneg := (RelationalField.requireNonnegativeFinite_eq_ok.mp hbase).2
    have hnonneg' : 0 ≤ base + (axisChanges.map (·.weightedCost)).sum +
        ((static ++ bound').map (·.weightedCost)).sum :=
      add_nonneg (add_nonneg hbaseNonneg haxesNonneg) hcostsNonneg
    refine ⟨_, bind_eq_ok.mpr ⟨base, hbase, bind_eq_ok.mpr ⟨sourceId, hsource,
      bind_eq_ok.mpr ⟨targetId, htarget, bind_eq_ok.mpr ⟨blockedBy, hblockedBy,
        (if_neg hblocked).trans (bind_eq_ok.mpr ⟨axisChanges, haxes, bind_eq_ok.mpr ⟨_, hrelations',
          bind_eq_ok.mpr ⟨_, RelationalField.requireNonnegativeFinite_eq_ok.mpr ⟨rfl, hnonneg'⟩,
            rfl⟩⟩⟩)⟩⟩⟩⟩, ?_, ?_⟩
    · rw [← Except.ok.inj h]
      exact Iff.rfl
    · intro hvalues cost cost' hcost hcost'
      rw [← Except.ok.inj h] at hcost
      obtain rfl : total = cost := Option.some.inj hcost
      rw [← PyReal.number.inj htotal, ← Option.some.inj hcost', List.map_append, List.map_append,
        List.sum_append, List.sum_append]
      have hsum := hle hvalues
      linarith

end Costs

/-! ## Paths -/

section Paths

variable {rt : DynamicRuntime} {σ : Type} {router : FieldAwareRouter rt σ}
  {reasoner : RelationalField σ} {starts : List σ} {expand : σ → Except PyError (List σ)}
  {goal : σ → Except PyError Bool} {input : FieldInput} {baseCost : PyReal}

/-- The loop of an assessment sums up the costs of a walk. -/
theorem assessSteps_of_walk {base : ℚ} {states : List σ} {cost : ℚ}
    (h : Walk (reasoner.graph rt.toFieldRuntime base starts expand goal) states cost)
    (index : ℕ) (hashes : List String) (total : ℚ) :
    ∃ hashes', assessSteps rt.toFieldRuntime reasoner (.number base) index states hashes total =
      .ok ⟨hashes', none, some (total + cost)⟩ := by
  induction h generalizing index hashes total with
  | last s =>
      refine ⟨hashes, ?_⟩
      rw [add_zero]
      rfl
  | @step states c w s t hstep rest ih =>
      obtain ⟨-, receipt, hassess, hstatus, hcost⟩ := hstep
      obtain ⟨hashes', hrest⟩ := ih (index + 1) (hashes ++ [receipt.receiptSha256]) (total + w)
      refine ⟨hashes', ?_⟩
      unfold assessSteps
      refine bind_eq_ok.mpr ⟨receipt, asRouting_eq_ok.mpr hassess, ?_⟩
      rw [if_neg (by rw [hstatus]; decide), hcost, ← add_assoc]
      exact hrest

/-- Where the loop of an assessment is not blocked, its states are a walk.
SOURCE: core/field_aware_routing.py:256-277 -/
theorem walk_of_assessSteps {base : ℚ} {states : List σ} {index : ℕ} {hashes : List String}
    {total : ℚ} {steps : PathSteps} (hne : states ≠ [])
    (halong : states.IsChain fun source target =>
      ∃ neighbors, expand source = .ok neighbors ∧ target ∈ neighbors)
    (h : assessSteps rt.toFieldRuntime reasoner (.number base) index states hashes total = .ok steps)
    (hopen : steps.blockedIndex = none) :
    ∃ cost, steps.total = some (total + cost) ∧
      Walk (reasoner.graph rt.toFieldRuntime base starts expand goal) states cost := by
  induction states generalizing index hashes total with
  | nil => exact absurd rfl hne
  | cons source states ih =>
      cases states with
      | nil =>
          obtain rfl := Except.ok.inj h
          refine ⟨0, ?_, .last source⟩
          rw [add_zero]
      | cons target states =>
          obtain ⟨hexpand, halong⟩ := List.isChain_cons_cons.mp halong
          unfold assessSteps at h
          obtain ⟨receipt, hassess, h⟩ := bind_eq_ok.mp h
          rw [asRouting_eq_ok] at hassess
          by_cases hblocked : receipt.status = "blocked"
          · rw [if_pos hblocked] at h
            rw [← Except.ok.inj h] at hopen
            cases hopen
          · rw [if_neg hblocked] at h
            rcases RelationalField.assessTransition_cases hassess with ⟨hstatus, -⟩ |
              ⟨hstatus, w, hw, -⟩
            · exact absurd hstatus hblocked
            · rw [hw] at h
              obtain ⟨cost, htotal, hwalk⟩ := ih (List.cons_ne_nil _ _) halong h
              refine ⟨w + cost, by rw [htotal, add_assoc], ?_⟩
              exact .step ⟨hexpand, receipt, hassess, hstatus, hw⟩ hwalk

/-- The states lead from a start to a goal along `expand`. -/
structure Connects (starts : List σ) (expand : σ → Except PyError (List σ))
    (goal : σ → Except PyError Bool) (states : List σ) : Prop where
  begins : ∃ start ∈ starts, states.head? = some start
  along : states.IsChain fun source target =>
    ∃ neighbors, expand source = .ok neighbors ∧ target ∈ neighbors
  ends : ∃ last, states.getLast? = some last ∧ goal last = .ok true

theorem isChain_of_walk {base : ℚ} {states : List σ} {cost : ℚ}
    (h : Walk (reasoner.graph rt.toFieldRuntime base starts expand goal) states cost) :
    states.IsChain fun source target =>
      ∃ neighbors, expand source = .ok neighbors ∧ target ∈ neighbors := by
  induction h with
  | last s => exact .singleton s
  | step hstep rest ih => exact List.isChain_cons_cons.mpr ⟨hstep.1, ih⟩

/-- What an assessment says. -/
theorem assessPath_eq_ok {states : List σ} {assessment : FieldAwarePathAssessmentReceipt} :
    router.assessPath input states baseCost = .ok assessment →
    ∃ fieldState snapshots steps, router.resolveFieldState input = .ok fieldState ∧
      router.reasonerForState fieldState =
        .ok (router.reasonerAt (valueOf fieldState.values), snapshots) ∧ states ≠ [] ∧
      states.mapM (fun state => requireStateId cls (router.stateId state)) = .ok assessment.pathIds ∧
      assessSteps rt.toFieldRuntime (router.reasonerAt (valueOf fieldState.values)) baseCost 0 states
        [] 0 = .ok steps ∧
      assessment.status = (if steps.blockedIndex.isSome then "blocked" else "admissible") ∧
      assessment.totalCost = steps.total := by
  intro h
  unfold assessPath at h
  obtain ⟨fieldState, hresolve, h⟩ := bind_eq_ok.mp h
  obtain ⟨⟨reasoner, snapshots⟩, hreasoner, h⟩ := bind_eq_ok.mp h
  obtain ⟨_, hne, h⟩ := bind_eq_ok.mp h
  obtain ⟨pathIds, hids, h⟩ := bind_eq_ok.mp h
  obtain ⟨steps, hsteps, hassessment⟩ := bind_eq_ok.mp h
  obtain ⟨-, rfl, -⟩ := reasonerForState_eq_ok hreasoner
  rw [← Except.ok.inj hassessment]
  refine ⟨fieldState, snapshots, steps, hresolve, hreasoner, ?_, hids, hsteps, rfl, rfl⟩
  intro hnil
  exact raiseIf_eq_ok.mp hne (by rw [hnil]; rfl)

/-- An assessment is made where its parts are. -/
theorem exists_assessPath {states : List σ} {fieldState : DynamicFieldState}
    {snapshots : List DynamicBindingSnapshot} {pathIds : List String} {steps : PathSteps}
    (hresolve : router.resolveFieldState input = .ok fieldState)
    (hreasoner : router.reasonerForState fieldState = .ok (reasoner, snapshots))
    (hne : states ≠ [])
    (hids : states.mapM (fun state => requireStateId cls (router.stateId state)) = .ok pathIds)
    (hsteps : assessSteps rt.toFieldRuntime reasoner baseCost 0 states [] 0 = .ok steps) :
    ∃ assessment, router.assessPath input states baseCost = .ok assessment ∧
      assessment.pathIds = pathIds ∧ assessment.totalCost = steps.total ∧
      assessment.status = (if steps.blockedIndex.isSome then "blocked" else "admissible") := by
  unfold assessPath
  refine ⟨_, bind_eq_ok.mpr ⟨fieldState, hresolve, bind_eq_ok.mpr ⟨_, hreasoner, bind_eq_ok.mpr
    ⟨(), raiseIf_eq_ok.mpr ?_, bind_eq_ok.mpr ⟨pathIds, hids, bind_eq_ok.mpr ⟨steps, hsteps,
      rfl⟩⟩⟩⟩⟩, rfl, rfl, rfl⟩
  cases states with
  | nil => exact absurd rfl hne
  | cons state states => exact Bool.false_ne_true

/-- The states of a route are assessed with its cost, and those of any other admissible
path with no less. -/
theorem assessPath_of_route [DecidableEq σ] {maxStates : ℤ} {receipt : FieldAwareRouteReceipt}
    (h : router.route input starts expand goal baseCost maxStates = .ok receipt)
    (hfound : receipt.status = "found") :
    ∃ states assessment cost, Connects starts expand goal states ∧
      router.assessPath input states baseCost = .ok assessment ∧
      assessment.pathIds = receipt.pathIds ∧ assessment.status = "admissible" ∧
      assessment.totalCost = some cost ∧ receipt.totalCost = some cost ∧
      ∀ {states' assessment'}, Connects starts expand goal states' →
        router.assessPath input states' baseCost = .ok assessment' →
        assessment'.status = "admissible" → ∃ cost', assessment'.totalCost = some cost' ∧
          cost ≤ cost' := by
  unfold route at h
  obtain ⟨fieldState, hresolve, h⟩ := bind_eq_ok.mp h
  obtain ⟨⟨reasoner, snapshots⟩, hreasoner, h⟩ := bind_eq_ok.mp h
  obtain ⟨path, hpath, h⟩ := bind_eq_ok.mp h
  rw [asRouting_eq_ok] at hpath
  obtain ⟨-, hat, -⟩ := reasonerForState_eq_ok hreasoner
  obtain rfl := Except.ok.inj h
  have hstarts := RelationalField.requireId_of_leastCostPath hpath
  obtain ⟨base, rfl, hroute, -⟩ := RelationalField.leastCostPath_optimal hpath
  obtain ⟨states, cost, state, hroute, hgoal, hids, htotal, hleast⟩ := hroute hfound
  obtain ⟨hwalk, start, hstart, hhead⟩ := hroute.walk
  obtain ⟨hashes, hsteps⟩ := assessSteps_of_walk hwalk 0 [] 0
  have hnames : states.mapM (fun state => requireStateId cls (router.stateId state)) =
      .ok (states.map reasoner.nameOf) := by
    have hnamed := RelationalField.requireId_of_route hroute hstarts
    clear hwalk hroute hsteps hhead hids
    induction states with
    | nil => rfl
    | cons state states ih =>
        obtain ⟨hstate, hnamed⟩ := List.forall_mem_cons.mp hnamed
        have hid : requireStateId cls (router.stateId state) = .ok (reasoner.nameOf state) := by
          rw [hat] at hstate ⊢
          exact requireStateId_eq_ok hstate
        rw [List.mapM_cons]
        exact bind_eq_ok.mpr ⟨_, hid, bind_eq_ok.mpr ⟨_, ih hnamed, rfl⟩⟩
  obtain ⟨assessment, hassess, hpathIds, hcost, hstatus⟩ :=
    exists_assessPath hresolve hreasoner hroute.ne_nil hnames hsteps
  refine ⟨states, assessment, cost, ⟨⟨start, hstart, hhead⟩, isChain_of_walk hwalk, state,
    hroute.getLast?, hgoal⟩, hassess, hpathIds.trans hids.symm, hstatus, ?_, htotal, ?_⟩
  · rw [hcost, zero_add]
  · rintro states' assessment' ⟨⟨start', hstart', hhead'⟩, halong', last', hlast', hgoal'⟩ hassess'
      hadmissible
    obtain ⟨fieldState', snapshots', steps', hresolve', -, hne', -, hsteps', hstatus', htotal'⟩ :=
      assessPath_eq_ok hassess'
    obtain rfl : fieldState = fieldState' := Except.ok.inj (hresolve.symm.trans hresolve')
    rw [← hat] at hsteps'
    have hopen : steps'.blockedIndex = none := by
      cases hblocked : steps'.blockedIndex with
      | none => rfl
      | some index =>
          rw [hstatus', hblocked] at hadmissible
          simp at hadmissible
    obtain ⟨cost', hcost', hwalk'⟩ : ∃ cost', steps'.total = some (0 + cost') ∧
        Walk (reasoner.graph rt.toFieldRuntime base starts expand goal) states' cost' :=
      walk_of_assessSteps hne' halong' hsteps' hopen
    refine ⟨cost', by rw [htotal', hcost', zero_add], ?_⟩
    cases states' with
    | nil => exact absurd rfl hne'
    | cons first rest =>
        obtain rfl : first = start' := Option.some.inj hhead'
        obtain ⟨last, hlast, hroute'⟩ := hwalk'.route hstart'
        obtain rfl : last = last' := Option.some.inj (hlast.symm.trans hlast')
        exact hleast hroute' hgoal'

/-- A transition is blocked at all valid states or at none, and its cost grows with the
values. -/
theorem assessPath_mono {input' : FieldInput} {state state' : DynamicFieldState} {source target : σ}
    {assessment : FieldAwarePathAssessmentReceipt}
    (hresolve : router.resolveFieldState input = .ok state)
    (hresolve' : router.resolveFieldState input' = .ok state')
    (hvalid' : router.dynamicField.validateState rt state' = .ok ())
    (h : router.assessPath input [source, target] baseCost = .ok assessment) :
    ∃ assessment', router.assessPath input' [source, target] baseCost = .ok assessment' ∧
      (assessment.status = "blocked" ↔ assessment'.status = "blocked") ∧
      ((∀ name, valueOf state.values name ≤ valueOf state'.values name) →
        ∀ cost cost', assessment.totalCost = some cost → assessment'.totalCost = some cost' →
          cost ≤ cost') := by
  obtain ⟨fieldState, snapshots, steps, hresolved, hreasoner, hne, hids, hsteps, hstatus, htotal⟩ :=
    assessPath_eq_ok h
  obtain rfl : state = fieldState := Except.ok.inj (hresolve.symm.trans hresolved)
  obtain ⟨-, -, hvalidate⟩ := reasonerForState_eq_ok hreasoner
  obtain ⟨snapshots', hreasoner'⟩ := exists_reasonerForState hvalid' hvalidate
  have hloop := hsteps
  unfold assessSteps at hloop
  obtain ⟨receipt, hassess, -⟩ := bind_eq_ok.mp hloop
  obtain ⟨receipt', hassess', hblocked, hmono⟩ := assessTransition_mono hvalidate
    (fun binding hbinding => (value_of_binding hvalid' hbinding).2) (asRouting_eq_ok.mp hassess)
  -- the loop ends after this one transition
  have hrun : ∀ {values : String → ℚ} {r : TransitionReceipt}, (router.reasonerAt values).assessTransition
      rt.toFieldRuntime source target baseCost = .ok r → ∃ steps, assessSteps rt.toFieldRuntime
        (router.reasonerAt values) baseCost 0 [source, target] [] 0 = .ok steps ∧
        (r.status = "blocked" ↔ steps.blockedIndex.isSome = true) ∧ steps.total = r.totalCost := by
    intro values r hr
    unfold assessSteps
    rcases RelationalField.assessTransition_cases hr with ⟨hs, ht⟩ | ⟨hs, cost, ht, -⟩
    · refine ⟨_, bind_eq_ok.mpr ⟨r, asRouting_eq_ok.mpr hr, if_pos hs⟩, iff_of_true hs rfl, ht.symm⟩
    · have hopen : r.status ≠ "blocked" := by
        rw [hs]
        decide
      refine ⟨⟨[] ++ [r.receiptSha256], none, some (0 + cost)⟩,
        bind_eq_ok.mpr ⟨r, asRouting_eq_ok.mpr hr, ?_⟩, iff_of_false hopen Bool.false_ne_true, ?_⟩
      · rw [if_neg hopen, ht]
        rfl
      · rw [ht, zero_add]
  obtain ⟨steps₁, hsteps₁, hblocked₁, htotal₁⟩ := hrun (asRouting_eq_ok.mp hassess)
  obtain ⟨steps', hsteps', hblocked', htotal'⟩ := hrun hassess'
  obtain rfl : steps = steps₁ := Except.ok.inj (hsteps.symm.trans hsteps₁)
  obtain ⟨assessment', hassess₂, -, hcost', hstatus'⟩ :=
    exists_assessPath hresolve' hreasoner' hne hids hsteps'
  have hstatusIff : ∀ blocked : Bool,
      (if blocked then "blocked" else "admissible") = "blocked" ↔ blocked = true := by
    decide
  refine ⟨assessment', hassess₂, ?_, ?_⟩
  · rw [hstatus, hstatus', hstatusIff, hstatusIff, ← hblocked₁, ← hblocked']
    exact hblocked
  · intro hvalues cost cost' hcost₁ hcost₂
    rw [htotal, htotal₁] at hcost₁
    rw [hcost', htotal'] at hcost₂
    exact hmono hvalues cost cost' hcost₁ hcost₂

/-- MAIN: **the states of a route are assessed as admissible with its cost, and any other admissible
path from a start to a goal with no less; a transition is blocked at one valid state exactly when it
is blocked at another, and raising values never lowers its cost.** -/
theorem route_assessed [DecidableEq σ] (router : FieldAwareRouter rt σ) :
    (∀ {input : FieldInput} {starts : List σ} {expand : σ → Except PyError (List σ)}
      {goal : σ → Except PyError Bool} {baseCost : PyReal} {maxStates : ℤ}
      {receipt : FieldAwareRouteReceipt},
      router.route input starts expand goal baseCost maxStates = .ok receipt →
      receipt.status = "found" →
      ∃ states assessment cost, Connects starts expand goal states ∧
        router.assessPath input states baseCost = .ok assessment ∧
        assessment.pathIds = receipt.pathIds ∧ assessment.status = "admissible" ∧
        assessment.totalCost = some cost ∧ receipt.totalCost = some cost ∧
        ∀ {states' assessment'}, Connects starts expand goal states' →
          router.assessPath input states' baseCost = .ok assessment' →
          assessment'.status = "admissible" → ∃ cost', assessment'.totalCost = some cost' ∧
            cost ≤ cost') ∧
    ∀ {input input' : FieldInput} {state state' : DynamicFieldState} {source target : σ}
      {baseCost : PyReal} {assessment : FieldAwarePathAssessmentReceipt},
      router.resolveFieldState input = .ok state → router.resolveFieldState input' = .ok state' →
      router.dynamicField.validateState rt state' = .ok () →
      router.assessPath input [source, target] baseCost = .ok assessment →
      ∃ assessment', router.assessPath input' [source, target] baseCost = .ok assessment' ∧
        (assessment.status = "blocked" ↔ assessment'.status = "blocked") ∧
        ((∀ name, valueOf state.values name ≤ valueOf state'.values name) →
          ∀ cost cost', assessment.totalCost = some cost → assessment'.totalCost = some cost' →
            cost ≤ cost') :=
  ⟨assessPath_of_route, assessPath_mono⟩

/-- A runtime whose digests are all the same. -/
def plainRuntime : DynamicRuntime where
  sha256 := fun _ => ""
  floatText := fun _ => ""
  textSha256 := fun _ => ""
  iso := ⟨fun _ => none, fun _ => ""⟩

/-- A field with one variable. -/
def riskField : DynamicField where
  law := ⟨"risk-law", "1", [⟨"risk", .number 0, .number 1, .number 0, ["observe"], .number 1⟩]⟩
  rules := [("risk", ⟨"risk", .number 0, .number 1, .number 0, ["observe"], .number 1⟩)]
  valid := by decide +kernel

/-- A router on the states of `detour` that avoids `b` where the risk is high. -/
def riskRouter : FieldAwareRouter plainRuntime String where
  dynamicField := riskField
  stateId := RelationalField.detour.stateId
  axes := []
  relationCosts := RelationalField.detour.relationCosts
  constraints := RelationalField.detour.constraints
  dynamicBindings := [{
    name := "risk-of-detours", fieldVariable := "risk"
    evaluate := fun _ target => .ok (.number (if target = "b" then 7 else 0)) }]
  requireDynamicStateReceipt := false
  dynamicStateController := none
  valid := by decide +kernel

/-- The state of `riskField` with this risk. -/
def riskState (risk : ℚ) : DynamicFieldState :=
  riskField.buildState plainRuntime 0 [("risk", .number risk)] [] ""

/-- WITNESS: the detour is a route without risk; raising the risk does not make the transition to `b`
cheaper. -/
theorem route_assessed_detour :
    (∃ states assessment cost, Connects ["a"] RelationalField.detourExpand
        (fun state => .ok (state = "c")) states ∧
      riskRouter.assessPath (.state (riskState 0)) states (.number 1) = .ok assessment ∧
      assessment.status = "admissible" ∧ assessment.totalCost = some cost) ∧
    ∃ assessment', riskRouter.assessPath (.state (riskState 1)) ["a", "b"] (.number 1) =
        .ok assessment' ∧
      ∀ cost', assessment'.totalCost = some cost' → 1 ≤ cost' := by
  obtain ⟨hroute, hmono⟩ := route_assessed riskRouter
  constructor
  · have hrun : (riskRouter.route (.state (riskState 0)) ["a"] RelationalField.detourExpand
        (fun state => .ok (state = "c")) (.number 1) 10).map (·.status) = .ok "found" := by
      decide +kernel
    cases h : riskRouter.route (.state (riskState 0)) ["a"] RelationalField.detourExpand
        (fun state => .ok (state = "c")) (.number 1) 10 with
    | error e =>
        rw [h] at hrun
        cases hrun
    | ok receipt =>
        rw [h] at hrun
        obtain ⟨states, assessment, cost, hconnects, hassess, -, hstatus, hcost, -⟩ :=
          hroute h (Except.ok.inj hrun)
        exact ⟨states, assessment, cost, hconnects, hassess, hstatus, hcost⟩
  · have hrun : (riskRouter.assessPath (.state (riskState 0)) ["a", "b"] (.number 1)).map
        (·.totalCost) = .ok (some 1) := by
      decide +kernel
    cases h : riskRouter.assessPath (.state (riskState 0)) ["a", "b"] (.number 1) with
    | error e =>
        rw [h] at hrun
        cases hrun
    | ok assessment =>
        rw [h] at hrun
        have hvalid : riskField.validateState plainRuntime (riskState 1) = .ok () := by
          decide +kernel
        have hresolve : ∀ risk, riskRouter.resolveFieldState (.state (riskState risk)) =
            .ok (riskState risk) := fun _ => rfl
        obtain ⟨assessment', hassess', -, hle⟩ := hmono (hresolve 0) (hresolve 1) hvalid h
        refine ⟨assessment', hassess', ?_⟩
        intro cost' hcost'
        apply hle _ 1 cost' (Except.ok.inj hrun) hcost'
        intro name
        unfold valueOf riskState DynamicField.buildState
        by_cases hname : name = "risk"
        · rw [hname]
          decide +kernel
        · have hkey : (name == "risk") = false := beq_false_of_ne hname
          simp [List.lookup_cons, hkey]

end Paths

end FieldAwareRouter

end PhiOS
