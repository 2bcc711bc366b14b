import PhiOS.Analysis.FieldEvents

/-!
# The states of a dynamic field

From `initialize` on, no event and no temporal transition leads out of the governing law: every state
reached is one that `validate_state` accepts, with each value inside its bounds. A well-formed event
is applied there or blocked, and never fails.
-/

set_option autoImplicit false

namespace PhiOS

open KeyOrder

namespace DynamicField

variable {rt : DynamicRuntime} {field : DynamicField} {state next : DynamicFieldState}
  {event event' : FieldEvent} {receipt : FieldUpdateReceipt} {entry : String × PyReal}

/-- The states that events and temporal transitions lead to. -/
inductive Reaches (rt : DynamicRuntime) (field : DynamicField) : DynamicFieldState → Prop
  | start : Reaches rt field (field.initialState rt)
  | event {state next : DynamicFieldState} {receipt : FieldUpdateReceipt}
      (reached : Reaches rt field state) (event : FieldEvent)
      (h : field.applyEvent rt state event = .ok (next, receipt)) : Reaches rt field next
  | transition {state next : DynamicFieldState} (reached : Reaches rt field state)
      (transitionId transitionSha256 : String) (values : List (String × PyReal))
      (h : field.materializeTemporalTransition rt state transitionId transitionSha256 values =
        .ok next) : Reaches rt field next

/-- A value of a variable of the law, inside its bounds. -/
def Governed (field : DynamicField) (entry : String × PyReal) : Prop :=
  ∃ rule, field.rules.lookup entry.1 = some rule ∧ entry.2 = .number entry.2.value ∧
    rule.minimum.value ≤ entry.2.value ∧ entry.2.value ≤ rule.maximum.value

theorem rule_eq_ok {name : String} {rule : FieldVariableRule} :
    field.rule name = .ok rule ↔ field.rules.lookup name = some rule := by
  unfold DynamicField.rule
  cases field.rules.lookup name with
  | none => simp
  | some other => simp

theorem requireFinite_eq_ok {cls : ErrorClass} {value : PyReal} {label : String} {q : ℚ} :
    requireFinite cls value label = .ok q ↔ value = .number q := by
  cases value with
  | number value => exact ⟨fun h => congrArg _ (Except.ok.inj h), fun h => congrArg _ (PyReal.number.inj h)⟩
  | notFinite => exact ⟨nofun, nofun⟩
  | notNumeric => exact ⟨nofun, nofun⟩

theorem validateValue_eq_ok {kind : String} {q : ℚ} :
    field.validateValue kind entry = .ok q ↔ field.Governed entry ∧ entry.2 = .number q := by
  obtain ⟨name, value⟩ := entry
  unfold validateValue Governed
  simp only [bind_eq_ok, rule_eq_ok, requireFinite_eq_ok, raiseIf_eq_ok, not_or, not_lt]
  constructor
  · rintro ⟨rule, hrule, numeric, hvalue, -, ⟨hlow, hhigh⟩, hsame⟩
    rw [← Except.ok.inj hsame]
    rw [hvalue]
    exact ⟨⟨rule, hrule, rfl, hlow, hhigh⟩, rfl⟩
  · rintro ⟨⟨rule, hrule, -, hlow, hhigh⟩, hvalue⟩
    rw [hvalue] at hlow hhigh
    exact ⟨rule, hrule, q, hvalue, (), ⟨hlow, hhigh⟩, rfl⟩

/-- What `validate_state` asks of a state. -/
theorem validateState_iff : field.validateState rt state = .ok () ↔
    state.schema = "phios.dynamic_field_state.v0.3" ∧ state.lawSha256 = field.lawSha256 rt ∧
      state.actionAuthority = false ∧ state.revision = state.appliedEventIds.length ∧
      state.values.map (·.1) = field.sortedNames ∧ state.appliedEventIds.Nodup ∧
      (∀ entry ∈ state.values, field.Governed entry) ∧
      field.stateDigest rt state.revision state.values state.appliedEventIds
        state.eventChainSha256 = state.stateSha256 := by
  have hvalue : ∀ entry, (∃ q, field.validateValue "state" entry = .ok q ∧
      (pure () : Except PyError Unit) = .ok ()) ↔ field.Governed entry := by
    intro entry
    constructor
    · rintro ⟨q, hq, -⟩
      exact (validateValue_eq_ok.mp hq).1
    · intro hgoverned
      have ⟨rule, _, hnumber, _⟩ := hgoverned
      exact ⟨_, validateValue_eq_ok.mpr ⟨hgoverned, hnumber⟩, rfl⟩
  unfold validateState
  simp only [bind_eq_ok, raiseIf_eq_ok, forM_eq_ok, hvalue, not_not, exists_and_left,
    exists_const, Bool.not_eq_true]

/-! ## The initial state -/

/-- The initial values of checked rules are inside their bounds, and no name is taken twice. The
induction is on the rules. SOURCE: dynamic_field.py:352-404 -/
theorem governed_of_rules {law : List FieldVariableRule} {rules rules' : FieldRules}
    (h : law.foldlM validateRule rules = .ok rules') (hkeys : (rules.map (·.1)).Nodup)
    (hrules : ∀ entry ∈ rules, entry.2.initial = .number entry.2.initial.value ∧
      entry.2.minimum.value ≤ entry.2.initial.value ∧
      entry.2.initial.value ≤ entry.2.maximum.value) :
    (rules'.map (·.1)).Nodup ∧
      ∀ entry ∈ rules', entry.2.initial = .number entry.2.initial.value ∧
        entry.2.minimum.value ≤ entry.2.initial.value ∧
        entry.2.initial.value ≤ entry.2.maximum.value := by
  induction law generalizing rules with
  | nil =>
      have hsame : rules = rules' := Except.ok.inj h
      rw [← hsame]
      exact ⟨hkeys, hrules⟩
  | cons rule law ih =>
      rw [List.foldlM_cons] at h
      obtain ⟨between, hfirst, hrest⟩ := bind_eq_ok.mp h
      obtain ⟨hnew, checked, hbetween, -, -, -, hbounds⟩ := validateRule_eq_ok hfirst
      rw [hbetween] at hrest
      apply ih hrest
      · rw [List.map_append, List.nodup_append]
        refine ⟨hkeys, by simp, fun name hname other hother => ?_⟩
        rw [List.mem_singleton.mp hother]
        rintro rfl
        obtain ⟨old, hold, hsame⟩ := List.mem_map.mp hname
        have hne := List.lookup_eq_none_iff.mp hnew old hold
        simp [hsame] at hne
      · intro entry hentry
        rcases List.mem_append.mp hentry with hold | hadded
        · exact hrules entry hold
        · rw [List.mem_singleton.mp hadded]
          exact hbounds

variable (rt field) in
theorem validateState_initial : field.validateState rt (field.initialState rt) = .ok () := by
  have hvalid := field.valid
  unfold validateLaw at hvalid
  obtain ⟨_, _, _, hvalid⟩ := ok_past_three hvalid
  obtain ⟨hkeys, hrules⟩ := governed_of_rules hvalid List.nodup_nil nofun
  refine validateState_iff.mpr ⟨rfl, rfl, rfl, rfl, ?_, List.nodup_nil, ?_, rfl⟩
  · unfold sortedNames
    refine (List.map_insertionSort (r := fun a b : String × PyReal => a.1 ≤ b.1) (s := (· ≤ ·))
      (·.1) _ fun _ _ _ _ => Iff.rfl).trans ?_
    rw [List.map_map]
    rfl
  · intro entry hentry
    obtain ⟨⟨name, rule⟩, hrule, hsame⟩ := List.mem_map.mp ((List.mem_insertionSort _).mp hentry)
    rw [← hsame]
    exact ⟨rule, lookup_of_mem hkeys hrule, hrules _ hrule⟩

/-! ## Events and transitions -/

theorem ordered_of_valid (h : field.validateState rt state = .ok ()) : Ordered state.values := by
  obtain ⟨-, -, -, -, hnames, -⟩ := validateState_iff.mp h
  have hvalid := field.valid
  unfold validateLaw at hvalid
  obtain ⟨_, _, _, hvalid⟩ := ok_past_three hvalid
  have hkeys := (governed_of_rules hvalid List.nodup_nil nofun).1
  have hle : field.sortedNames.Pairwise (· ≤ ·) := List.pairwise_insertionSort _ _
  have hne : field.sortedNames.Nodup := (List.perm_insertionSort _ _).nodup_iff.mpr hkeys
  rw [← hnames] at hle hne
  exact List.pairwise_map.mp ((hle.and hne).imp fun h => lt_of_le_of_ne h.1 h.2)

/-- A delta that is not refused leads to a value inside the bounds. -/
theorem governed_of_assessDelta {kind : String} {current : List (String × PyReal)}
    {change : FieldValueChange} (h : field.assessDelta kind current entry = .ok (.inr change)) :
    change.name ∈ current.map (·.1) ∧ field.Governed (change.name, .number change.after) := by
  unfold assessDelta at h
  obtain ⟨rule, hrule, h⟩ := bind_eq_ok.mp h
  split at h
  · cases h
  · split at h
    · cases h
    · split at h
      · cases h
      · rename_i before hbefore
        dsimp only at h
        split at h
        · cases h
        · rename_i hinside
          obtain ⟨hlow, hhigh⟩ := not_or.mp hinside
          rw [← Sum.inr.inj (Except.ok.inj h)]
          exact ⟨List.mem_map.mpr ⟨_, mem_of_lookup hbefore, rfl⟩, rule, rule_eq_ok.mp hrule, rfl,
            not_lt.mp hlow, not_lt.mp hhigh⟩

/-- Changes of variables of the law keep the names and the bounds. The induction is on the changes. -/
theorem governed_of_changes {changes : List FieldValueChange} {values : List (String × PyReal)}
    (hordered : Ordered values) (hvalues : ∀ entry ∈ values, field.Governed entry)
    (hchanges : ∀ change ∈ changes, change.name ∈ values.map (·.1) ∧
      field.Governed (change.name, .number change.after)) :
    (changes.foldl (fun dict change => insertEntry change.name (.number change.after) dict)
        values).map (·.1) = values.map (·.1) ∧
      ∀ entry ∈ changes.foldl (fun dict change =>
        insertEntry change.name (.number change.after) dict) values, field.Governed entry := by
  induction changes generalizing values with
  | nil => exact ⟨rfl, hvalues⟩
  | cons change changes ih =>
      obtain ⟨hname, hgoverned⟩ := hchanges change List.mem_cons_self
      have hkeys := keys_insertEntry (v := PyReal.number change.after) hordered hname
      obtain ⟨hnames, hall⟩ := ih (ordered_insertEntry change.name _ hordered)
        (fun entry hentry => (mem_insertEntry hentry).elim (fun h => h ▸ hgoverned)
          (hvalues entry))
        (fun other hother => by
          rw [hkeys]
          exact hchanges other (List.mem_cons_of_mem _ hother))
      exact ⟨hnames.trans hkeys, hall⟩

/-- An event leads from a valid state to a valid state. SOURCE: dynamic_field.py:219-290 -/
theorem validateState_applyEvent (h : field.applyEvent rt state event = .ok (next, receipt)) :
    field.validateState rt next = .ok () := by
  unfold applyEvent at h
  obtain ⟨⟨⟩, hstate, h⟩ := bind_eq_ok.mp h
  obtain ⟨event', -, h⟩ := bind_eq_ok.mp h
  dsimp only at h
  obtain ⟨assessed, hassessed, h⟩ := bind_eq_ok.mp h
  obtain ⟨-, -, -, hrevision, hnames, hids, hvalues, -⟩ := validateState_iff.mp hstate
  generalize hreplay : (if event'.eventId ∈ state.appliedEventIds then ["event_replay"] else []) =
    replayed at h
  split at h
  · rw [← (Prod.mk.inj (Except.ok.inj h)).1]
    exact hstate
  · rename_i hclear
    have hreplayed := (List.append_eq_nil_iff.mp (not_not.mp hclear)).1
    have hfresh : event'.eventId ∉ state.appliedEventIds := by
      intro hmem
      rw [if_pos hmem, hreplayed] at hreplay
      cases hreplay
    have hchanges : ∀ change ∈ assessed.filterMap Sum.getRight?,
        change.name ∈ state.values.map (·.1) ∧
          field.Governed (change.name, .number change.after) := by
      intro change hchange
      obtain ⟨outcome, houtcome, hright⟩ := List.mem_filterMap.mp hchange
      rw [Sum.getRight?_eq_some_iff.mp hright] at houtcome
      obtain ⟨entry, -, hentry⟩ := (mem_of_mapM hassessed).2 _ houtcome
      exact governed_of_assessDelta hentry
    obtain ⟨hkeys, hgoverned⟩ := governed_of_changes (ordered_of_valid hstate) hvalues hchanges
    rw [← (Prod.mk.inj (Except.ok.inj h)).1]
    refine validateState_iff.mpr ⟨rfl, rfl, rfl, ?_, hkeys.trans hnames, ?_, hgoverned, rfl⟩
    · show state.revision + 1 = _
      rw [hrevision]
      simp [buildState]
    · rw [← List.concat_eq_append]
      exact hids.concat hfresh

/-- A temporal transition leads from a valid state to a valid state.
SOURCE: dynamic_field.py:292-347 -/
theorem validateState_materialize {transitionId transitionSha256 : String}
    {values : List (String × PyReal)}
    (h : field.materializeTemporalTransition rt state transitionId transitionSha256 values =
      .ok next) : field.validateState rt next = .ok () := by
  unfold materializeTemporalTransition at h
  obtain ⟨⟨⟩, hstate, h⟩ := bind_eq_ok.mp h
  obtain ⟨⟨⟩, -, h⟩ := bind_eq_ok.mp h
  obtain ⟨⟨⟩, -, h⟩ := bind_eq_ok.mp h
  obtain ⟨⟨⟩, hfresh, h⟩ := bind_eq_ok.mp h
  obtain ⟨⟨⟩, -, h⟩ := bind_eq_ok.mp h
  obtain ⟨nextValues, hnext, h⟩ := bind_eq_ok.mp h
  obtain ⟨-, -, -, hrevision, -, hids, -⟩ := validateState_iff.mp hstate
  have hnames : nextValues.map (·.1) = field.sortedNames.map id := by
    refine map_of_mapM (fun name entry hentry => ?_) hnext
    split at hentry
    · cases hentry
    · obtain ⟨q, -, hentry⟩ := bind_eq_ok.mp hentry
      rw [← Except.ok.inj hentry]
      rfl
  have hvalues : ∀ entry ∈ nextValues, field.Governed entry := by
    intro entry hmem
    obtain ⟨name, -, hentry⟩ := (mem_of_mapM hnext).2 entry hmem
    split at hentry
    · cases hentry
    · obtain ⟨q, hq, hentry⟩ := bind_eq_ok.mp hentry
      obtain ⟨hgoverned, hvalue⟩ := validateValue_eq_ok.mp hq
      rw [← Except.ok.inj hentry, ← hvalue]
      exact hgoverned
  split at h
  · rw [← Except.ok.inj h]
    exact hstate
  · rw [← Except.ok.inj h]
    refine validateState_iff.mpr ⟨rfl, rfl, rfl, ?_, ?_, ?_, hvalues, rfl⟩
    · show state.revision + 1 = _
      rw [hrevision]
      simp [buildState]
    · exact hnames.trans (List.map_id _)
    · rw [← List.concat_eq_append]
      exact hids.concat (raiseIf_eq_ok.mp hfresh)

/-- At a valid state a well-formed event is applied or blocked.
SOURCE: dynamic_field.py:219-290 -/
theorem exists_applyEvent (hstate : field.validateState rt state = .ok ())
    (hevent : field.validateEvent event = .ok event') :
    ∃ outcome, field.applyEvent rt state event = .ok outcome := by
  obtain ⟨-, hordered, hdeltas, hknown⟩ := validateEvent_eq_ok hevent
  have hkeys : (event'.deltas.map (·.1)).Nodup :=
    (List.pairwise_map.mpr hordered).imp fun hlt => ne_of_lt hlt
  obtain ⟨-, -, -, -, -, -, hvalues, -⟩ := validateState_iff.mp hstate
  have hassess : ∀ entry ∈ event'.deltas, ∃ outcome,
      field.assessDelta event'.kind state.values entry = .ok outcome := by
    rintro ⟨name, delta⟩ hentry
    have hlookup := lookup_of_mem hkeys hentry
    rw [hdeltas name] at hlookup
    have hrequests : event.requests name ≠ [] := by
      intro hnone
      rw [hnone] at hlookup
      cases hlookup
    obtain ⟨before, hbefore⟩ :=
      Option.isSome_iff_exists.mp (isSome_of_requests hstate hknown hrequests)
    obtain ⟨rule, hrule, -⟩ := hvalues _ (mem_of_lookup hbefore)
    unfold assessDelta
    dsimp only
    rw [rule_eq_ok.mpr hrule, hbefore]
    dsimp only [bind, Except.bind]
    split_ifs <;> exact ⟨_, rfl⟩
  obtain ⟨assessed, hassessed⟩ := exists_mapM hassess
  unfold applyEvent
  rw [hstate, hevent]
  dsimp only [bind, Except.bind]
  rw [hassessed]
  dsimp only
  split_ifs <;> exact ⟨_, rfl⟩

/-- MAIN: **a dynamic field never leaves its law and never gets stuck.** Every state that events and
temporal transitions lead to from the initial one is valid: it has the variables of the law, each
inside its bounds, a revision that counts its ids, which are distinct, its own digest, and no
authority. A well-formed event is applied there or blocked. SOURCE: dynamic_field.py:202-347 -/
theorem field_state_valid (h : Reaches rt field state) :
    field.validateState rt state = .ok () ∧ (∀ entry ∈ state.values, field.Governed entry) ∧
      ∀ event event', field.validateEvent event = .ok event' →
        ∃ outcome, field.applyEvent rt state event = .ok outcome := by
  have hvalid : field.validateState rt state = .ok () := by
    cases h with
    | start => exact validateState_initial rt field
    | event _ _ h => exact validateState_applyEvent h
    | transition _ _ _ _ h => exact validateState_materialize h
  exact ⟨hvalid, (validateState_iff.mp hvalid).2.2.2.2.2.2.1, fun _ _ => exists_applyEvent hvalid⟩

open FieldAwareRouter in
/-- WITNESS: After an event and a transition the state is valid, and the event again does not fail. -/
theorem field_state_valid_observed : ∃ state, Reaches plainRuntime loadField state ∧
    state.revision = 2 ∧ loadField.validateState plainRuntime state = .ok () ∧
    ∃ outcome, loadField.applyEvent plainRuntime state twiceNamed = .ok outcome := by
  obtain ⟨⟨first, receipt⟩, hfirst, hstate⟩ : ∃ outcome, loadField.applyEvent plainRuntime
      (loadField.initialState plainRuntime) twiceNamed = .ok outcome ∧
        outcome.1 = loadField.buildState plainRuntime 1 [("load", .number 2)] ["event"] "" := by
    apply exists_ok_of_decide
    decide +kernel
  obtain ⟨state, hsecond, hrevision⟩ : ∃ state, loadField.materializeTemporalTransition plainRuntime
      (loadField.buildState plainRuntime 1 [("load", .number 2)] ["event"] "") "dynamic-state:rest"
        (String.ofList (List.replicate 64 '0')) [("load", .number 1)] = .ok state ∧ state.revision = 2 := by
    apply exists_ok_of_decide
    decide +kernel
  obtain ⟨event, hevent, -⟩ : ∃ event, loadField.validateEvent twiceNamed = .ok event ∧ True := by
    apply exists_ok_of_decide
    decide +kernel
  rw [← show first = _ from hstate] at hsecond
  have hreaches : Reaches plainRuntime loadField state :=
    .transition (.event .start twiceNamed hfirst) _ _ _ hsecond
  have hmain := field_state_valid hreaches
  exact ⟨state, hreaches, hrevision, hmain.1, hmain.2.2 twiceNamed event hevent⟩

end DynamicField

end PhiOS
