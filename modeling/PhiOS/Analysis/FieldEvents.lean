import Mathlib.Data.List.Induction
import PhiOS.Analysis.FieldAwareRoutes

/-!
# Events on a dynamic field

An event is applied as a whole or not at all, and once. What it adds to a variable is what it
requests under the last of the names that denote the variable: the names are stripped, and of two
that are the same then the later one stays.
-/

set_option autoImplicit false

namespace PhiOS

open KeyOrder

/-! ## Requests -/

namespace FieldEvent

/-- The deltas that an event requests for a variable, one after the other. -/
def requests (event : FieldEvent) (name : String) : List ℚ :=
  (event.deltas.filter fun entry => strip entry.1 = name).map (·.2.value)

/-- What it requests of the variable. -/
def requested (event : FieldEvent) (name : String) : ℚ := (event.requests name).sum

/-- The requests for a variable before the last come to nothing, as where each variable has one
name only. -/
def Unambiguous (event : FieldEvent) : Prop := ∀ name, (event.requests name).dropLast.sum = 0

end FieldEvent

section Requests

variable {α β : Type}

/-- Of the values put under one key, the last one stays. The induction is on the
entries. -/
theorem lookup_foldl_insertEntry {key : α → String} {value : α → β} (items : List α)
    (entries : List (String × β)) (name : String) :
    (items.foldl (fun dict item => insertEntry (key item) (value item) dict) entries).lookup name =
      (((items.filter fun item => key item = name).map value).getLast?.or
        (entries.lookup name)) := by
  induction items generalizing entries with
  | nil => rfl
  | cons item items ih =>
      rw [List.foldl_cons, ih, lookup_insertEntry]
      by_cases hname : name = key item
      · simp only [List.filter_cons, hname, decide_true, if_true, List.map_cons]
        rw [List.getLast?_cons]
        cases ((items.filter fun other => key other = key item).map value).getLast? with
        | none => rfl
        | some last => rfl
      · have hne : ¬key item = name := fun h => hname h.symm
        simp only [List.filter_cons, hne, decide_false, Bool.false_eq_true, if_false, hname]

theorem sum_eq_dropLast_add (values : List ℚ) :
    values.sum = values.dropLast.sum + values.getLast?.getD 0 := by
  rcases List.eq_nil_or_concat values with rfl | ⟨front, last, rfl⟩
  · simp
  · simp

/-- SOURCE: dynamic_field.py:418-427 -/
theorem ordered_foldl_insertEntry {key : α → String} {value : α → β} (items : List α)
    {entries : List (String × β)} (h : Ordered entries) :
    Ordered (items.foldl (fun dict item => insertEntry (key item) (value item) dict) entries) := by
  induction items generalizing entries with
  | nil => exact h
  | cons item items ih => exact ih (ordered_insertEntry _ _ h)

end Requests

/-! ## One event -/

namespace DynamicField

variable {rt : DynamicRuntime} {field : DynamicField} {state next : DynamicFieldState}
  {event event' : FieldEvent} {receipt : FieldUpdateReceipt}

/-- A delta that is taken over is a number of a variable of the law. -/
theorem validateDelta_eq_ok {entry entry' : String × PyReal}
    (h : field.validateDelta entry = .ok entry') :
    (field.rules.lookup (strip entry.1)).isSome ∧
      entry' = (strip entry.1, .number entry.2.value) := by
  unfold validateDelta at h
  obtain ⟨⟨⟩, hknown, h⟩ := bind_eq_ok.mp h
  obtain ⟨delta, hdelta, h⟩ := bind_eq_ok.mp h
  have hentry := Except.ok.inj h
  refine ⟨by simpa using raiseIf_eq_ok.mp hknown, ?_⟩
  rw [← hentry]
  cases hvalue : entry.2 with
  | number value =>
      rw [hvalue] at hdelta
      have hsame : value = delta := Except.ok.inj hdelta
      rw [← hsame]
      rfl
  | notFinite =>
      rw [hvalue] at hdelta
      cases hdelta
  | notNumeric =>
      rw [hvalue] at hdelta
      cases hdelta

/-- The deltas of an accepted event are the last requests, in the order of the names. -/
theorem validateEvent_eq_ok (h : field.validateEvent event = .ok event') :
    event'.eventId = strip event.eventId ∧ Ordered event'.deltas ∧
      (∀ name, event'.deltas.lookup name = (event.requests name).getLast?.map .number) ∧
      ∀ entry ∈ event.deltas, (field.rules.lookup (strip entry.1)).isSome := by
  unfold validateEvent at h
  obtain ⟨⟨⟩, -, h⟩ := bind_eq_ok.mp h
  obtain ⟨⟨⟩, -, h⟩ := bind_eq_ok.mp h
  obtain ⟨⟨⟩, -, h⟩ := bind_eq_ok.mp h
  obtain ⟨⟨⟩, -, h⟩ := bind_eq_ok.mp h
  obtain ⟨deltas, hdeltas, h⟩ := bind_eq_ok.mp h
  obtain ⟨⟨⟩, -, h⟩ := bind_eq_ok.mp h
  have hevent := Except.ok.inj h
  have hmap : deltas.map id =
      event.deltas.map fun entry => (strip entry.1, PyReal.number entry.2.value) :=
    map_of_mapM (fun entry entry' hentry => (validateDelta_eq_ok hentry).2) hdeltas
  rw [List.map_id] at hmap
  rw [← hevent]
  refine ⟨rfl, ordered_foldl_insertEntry deltas List.Pairwise.nil, fun name => ?_,
    fun entry hentry => ?_⟩
  · have hlast := @lookup_foldl_insertEntry (String × PyReal) PyReal (·.1) (·.2) deltas [] name
    refine hlast.trans ?_
    unfold FieldEvent.requests
    rw [hmap, List.lookup_nil, Option.or_none, List.filter_map, List.map_map, ← List.getLast?_map,
      List.map_map]
    rfl
  · obtain ⟨entry', -, hentry'⟩ := (mem_of_mapM hdeltas).1 entry hentry
    exact (validateDelta_eq_ok hentry').1

/-- A delta that is not refused is added. -/
theorem assessDelta_eq_inr {kind : String} {current : List (String × PyReal)}
    {entry : String × PyReal} {change : FieldValueChange}
    (h : field.assessDelta kind current entry = .ok (.inr change)) :
    change.name = entry.1 ∧ ∃ before, current.lookup entry.1 = some before ∧
      change.after = before.value + entry.2.value := by
  unfold assessDelta at h
  obtain ⟨rule, -, h⟩ := bind_eq_ok.mp h
  split at h
  · cases h
  · split at h
    · cases h
    · split at h
      · cases h
      · rename_i before hbefore
        dsimp only at h
        split at h
        · cases h
        · have hchange := Sum.inr.inj (Except.ok.inj h)
          rw [← hchange]
          exact ⟨rfl, before, hbefore, rfl⟩

/-- Where no delta is refused, each is added to the value of its variable. The induction
is on the deltas. SOURCE: dynamic_field.py:236-273 -/
theorem lookup_applied {kind : String} {current entries deltas : List (String × PyReal)}
    {assessed : List (String ⊕ FieldValueChange)}
    (h : deltas.mapM (field.assessDelta kind current) = .ok assessed)
    (hclear : assessed.filterMap Sum.getLeft? = []) (hkeys : (deltas.map (·.1)).Nodup)
    (name : String) :
    ((assessed.filterMap Sum.getRight?).foldl
      (fun dict change => insertEntry change.name (.number change.after) dict) entries).lookup
        name = match deltas.lookup name with
          | none => entries.lookup name
          | some delta => (current.lookup name).map fun value =>
              .number (value.value + delta.value) := by
  induction deltas generalizing assessed entries with
  | nil =>
      have hnil : [] = assessed := Except.ok.inj h
      rw [← hnil]
      rfl
  | cons entry deltas ih =>
      rw [List.mapM_cons] at h
      obtain ⟨outcome, houtcome, h⟩ := bind_eq_ok.mp h
      obtain ⟨rest, hrest, h⟩ := bind_eq_ok.mp h
      have hassessed := Except.ok.inj h
      rw [← hassessed] at hclear ⊢
      rw [List.map_cons, List.nodup_cons] at hkeys
      cases outcome with
      | inl reason => simp at hclear
      | inr change =>
          have hclearRest : rest.filterMap Sum.getLeft? = [] := by simpa using hclear
          obtain ⟨hname, before, hbefore, hafter⟩ := assessDelta_eq_inr houtcome
          rw [List.filterMap_cons]
          show ((rest.filterMap Sum.getRight?).foldl _ (insertEntry change.name
            (PyReal.number change.after) entries)).lookup name = _
          rw [ih hrest hclearRest hkeys.2, lookup_insertEntry, hname, hafter]
          by_cases hkey : name = entry.1
          · have hnone : deltas.lookup name = none := by
              rw [List.lookup_eq_none_iff]
              intro other hother
              have hne : name ≠ other.1 := by
                rw [hkey]
                intro hsame
                exact hkeys.1 (List.mem_map.mpr ⟨other, hother, hsame.symm⟩)
              simpa using hne
            have hsome : List.lookup name (entry :: deltas) = some entry.2 := by
              rw [hkey]
              exact lookup_cons_self entry.1 entry.2 deltas
            rw [hnone, hsome, hkey, hbefore]
            simp
          · have hsame : List.lookup name (entry :: deltas) = deltas.lookup name :=
              lookup_cons_of_ne hkey entry.2 deltas
            rw [hsame, if_neg hkey]

/-- The values after the event are those before it with all that it requests added. -/
def Adds (state next : DynamicFieldState) (event : FieldEvent) : Prop :=
  ∀ name, next.values.lookup name =
    (state.values.lookup name).map fun value => .number (value.value + event.requested name)

/-- What an applied event does to the state. -/
structure Applied (field : DynamicField) (state next : DynamicFieldState) (event : FieldEvent) :
    Prop where
  fresh : strip event.eventId ∉ state.appliedEventIds
  ids : next.appliedEventIds = state.appliedEventIds ++ [strip event.eventId]
  values : ∀ name, next.values.lookup name = (state.values.lookup name).map fun value =>
    .number (value.value + (event.requests name).getLast?.getD 0)
  known : ∀ name, event.requests name ≠ [] → (state.values.lookup name).isSome

/-- The variables that an accepted event names have a value. -/
theorem isSome_of_requests (hstate : field.validateState rt state = .ok ())
    (hknown : ∀ entry ∈ event.deltas, (field.rules.lookup (strip entry.1)).isSome) {name : String}
    (hname : event.requests name ≠ []) : (state.values.lookup name).isSome := by
  obtain ⟨request, hrequest⟩ := List.exists_mem_of_ne_nil _ hname
  obtain ⟨entry, hentry, -⟩ := List.mem_map.mp hrequest
  obtain ⟨hmem, hkey⟩ := List.mem_filter.mp hentry
  have hrule := hknown entry hmem
  rw [of_decide_eq_true hkey] at hrule
  obtain ⟨rule, hrule⟩ := Option.isSome_iff_exists.mp hrule
  have hnames := (FieldAwareRouter.values_of_validateState hstate).1
  have hin : name ∈ state.values.map (·.1) := by
    rw [hnames]
    unfold sortedNames
    rw [List.mem_insertionSort]
    exact List.mem_map.mpr ⟨_, mem_of_lookup hrule, rfl⟩
  obtain ⟨⟨name', value⟩, hvalue, hsame⟩ := List.mem_map.mp hin
  cases hlookup : state.values.lookup name with
  | some found => rfl
  | none =>
      have hne := List.lookup_eq_none_iff.mp hlookup _ hvalue
      rw [show name' = name from hsame] at hne
      simp at hne

/-- An event is blocked and leaves the state, or is applied.
SOURCE: dynamic_field.py:219-290 -/
theorem applyEvent_cases (h : field.applyEvent rt state event = .ok (next, receipt)) :
    (receipt.status = "blocked" ∧ next = state) ∨
      (receipt.status = "applied" ∧ Applied field state next event) := by
  unfold applyEvent at h
  obtain ⟨⟨⟩, hstate, h⟩ := bind_eq_ok.mp h
  obtain ⟨event', hevent, h⟩ := bind_eq_ok.mp h
  obtain ⟨hid, hordered, hdeltas, hknown⟩ := validateEvent_eq_ok hevent
  dsimp only at h
  obtain ⟨assessed, hassessed, h⟩ := bind_eq_ok.mp h
  generalize hreplay : (if event'.eventId ∈ state.appliedEventIds then ["event_replay"] else []) =
    replayed at h
  split at h
  · obtain ⟨hnext, hreceipt⟩ := Prod.mk.inj (Except.ok.inj h)
    rw [← hnext, ← hreceipt]
    exact .inl ⟨rfl, rfl⟩
  · rename_i hclear
    obtain ⟨hreplayed, hrefused⟩ := List.append_eq_nil_iff.mp (not_not.mp hclear)
    obtain ⟨hnext, hreceipt⟩ := Prod.mk.inj (Except.ok.inj h)
    rw [← hnext, ← hreceipt]
    have hfresh : event'.eventId ∉ state.appliedEventIds := by
      intro hmem
      rw [if_pos hmem, hreplayed] at hreplay
      cases hreplay
    rw [hid] at hfresh
    have hkeys : (event'.deltas.map (·.1)).Nodup :=
      (List.pairwise_map.mpr hordered).imp fun hlt => ne_of_lt hlt
    refine .inr ⟨rfl, hfresh, congrArg (fun id => state.appliedEventIds ++ [id]) hid, fun name => ?_,
      fun name => isSome_of_requests hstate hknown⟩
    have hlookup := @lookup_applied field event'.kind state.values state.values event'.deltas
      assessed hassessed hrefused hkeys name
    refine hlookup.trans ?_
    rw [hdeltas name]
    cases hlast : (event.requests name).getLast? with
    | some delta => rfl
    | none =>
        -- a variable that is not named keeps its value, which is a number
        dsimp only [Option.map_none, Option.getD_none]
        cases hvalue : state.values.lookup name with
        | none => rfl
        | some value =>
            obtain ⟨rule, -, hnumber, -⟩ :=
              (FieldAwareRouter.values_of_validateState hstate).2 _ (mem_of_lookup hvalue)
            have hnumber : value = .number value.value := hnumber
            rw [Option.map_some, add_zero, ← hnumber]

/-- An applied event adds all that it requests exactly if no variable is requested twice
to an effect. -/
theorem Applied.adds_iff (h : Applied field state next event) :
    Adds state next event ↔ event.Unambiguous := by
  unfold Adds FieldEvent.Unambiguous FieldEvent.requested
  apply forall_congr'
  intro name
  rw [h.values name]
  constructor
  · intro hsame
    by_cases hname : event.requests name = []
    · rw [hname]
      rfl
    · obtain ⟨value, hvalue⟩ := Option.isSome_iff_exists.mp (h.known name hname)
      rw [hvalue, Option.map_some, Option.map_some] at hsame
      have hsum := PyReal.number.inj (Option.some.inj hsame)
      have hsplit := sum_eq_dropLast_add (event.requests name)
      linarith
  · intro hzero
    rw [sum_eq_dropLast_add (event.requests name), hzero, zero_add]

/-! ## Sequences of events -/

/-- The initial value of a checked rule is a number. The induction is on the rules. -/
theorem number_of_rules {law : List FieldVariableRule} {rules rules' : FieldRules}
    (h : law.foldlM validateRule rules = .ok rules')
    (hrules : ∀ entry ∈ rules, entry.2.initial = .number entry.2.initial.value) :
    ∀ entry ∈ rules', entry.2.initial = .number entry.2.initial.value := by
  induction law generalizing rules with
  | nil =>
      have hsame : rules = rules' := Except.ok.inj h
      rw [← hsame]
      exact hrules
  | cons rule law ih =>
      rw [List.foldlM_cons] at h
      obtain ⟨between, hfirst, hrest⟩ := bind_eq_ok.mp h
      obtain ⟨-, checked, hbetween, -, -, -, hnumber, -⟩ := validateRule_eq_ok hfirst
      apply ih hrest
      intro entry hentry
      rw [hbetween] at hentry
      rcases List.mem_append.mp hentry with hold | hnew
      · exact hrules entry hold
      · rw [List.mem_singleton.mp hnew]
        exact hnumber

theorem number_of_initial {entry : String × PyReal}
    (h : entry ∈ (field.initialState rt).values) : entry.2 = .number entry.2.value := by
  have hvalid := field.valid
  unfold validateLaw at hvalid
  obtain ⟨⟨⟩, -, hvalid⟩ := bind_eq_ok.mp hvalid
  obtain ⟨⟨⟩, -, hvalid⟩ := bind_eq_ok.mp hvalid
  obtain ⟨⟨⟩, -, hvalid⟩ := bind_eq_ok.mp hvalid
  have hrules := number_of_rules hvalid (fun entry hentry => by cases hentry)
  unfold initialState buildState at h
  obtain ⟨⟨name, rule⟩, hrule, hentry⟩ := List.mem_map.mp ((List.mem_insertionSort _).mp h)
  rw [← hentry]
  exact hrules _ hrule

/-- A call of `apply_event` on the state that the calls before it have left, and the events applied
so far. A call that raises returns no state. -/
def callEvent (rt : DynamicRuntime) (field : DynamicField)
    (run : List FieldEvent × DynamicFieldState) (event : FieldEvent) :
    List FieldEvent × DynamicFieldState :=
  match field.applyEvent rt run.2 event with
  | .ok (next, receipt) =>
      (if receipt.status = "applied" then run.1 ++ [event] else run.1, next)
  | .error _ => run

/-- The events applied by a sequence of calls from `initialize` on, and the state after it. -/
def runEvents (rt : DynamicRuntime) (field : DynamicField) (events : List FieldEvent) :
    List FieldEvent × DynamicFieldState :=
  events.foldl (field.callEvent rt) ([], field.initialState rt)

variable (rt field) in
/-- One more call leaves everything as it was, or applies its event. -/
theorem runEvents_concat (events : List FieldEvent) (event : FieldEvent) :
    field.runEvents rt (events ++ [event]) = field.runEvents rt events ∨
      ∃ next receipt, field.applyEvent rt (field.runEvents rt events).2 event =
          .ok (next, receipt) ∧ receipt.status = "applied" ∧
        Applied field (field.runEvents rt events).2 next event ∧
        field.runEvents rt (events ++ [event]) =
          ((field.runEvents rt events).1 ++ [event], next) := by
  have hconcat : field.runEvents rt (events ++ [event]) =
      field.callEvent rt (field.runEvents rt events) event := by
    unfold runEvents
    rw [List.foldl_concat]
  rw [hconcat]
  unfold callEvent
  cases hcall : field.applyEvent rt (field.runEvents rt events).2 event with
  | error e => exact .inl rfl
  | ok outcome =>
      obtain ⟨next, receipt⟩ := outcome
      dsimp only
      rcases applyEvent_cases hcall with ⟨hblocked, hnext⟩ | ⟨happlied, hspec⟩
      · have hnot : receipt.status ≠ "applied" := by
          rw [hblocked]
          decide
        rw [if_neg hnot, hnext]
        exact .inl rfl
      · rw [if_pos happlied]
        exact .inr ⟨next, receipt, rfl, happlied, hspec, rfl⟩

/-- The ids of the applied events, each of them once. The induction is on the calls, from
the last one on. -/
theorem ids_of_run (events : List FieldEvent) :
    (field.runEvents rt events).2.appliedEventIds =
        (field.runEvents rt events).1.map (fun event => strip event.eventId) ∧
      (field.runEvents rt events).2.appliedEventIds.Nodup := by
  induction events using List.reverseRecOn with
  | nil => exact ⟨rfl, List.nodup_nil⟩
  | append_singleton events event ih =>
      rcases runEvents_concat rt field events event with
        hsame | ⟨next, receipt, -, -, hspec, happlied⟩
      · rw [hsame]
        exact ih
      · rw [happlied]
        refine ⟨?_, ?_⟩
        · rw [hspec.ids, ih.1, List.map_append]
          rfl
        · rw [hspec.ids]
          rw [← List.concat_eq_append]
          exact ih.2.concat hspec.fresh

/-- The applied events alone lead to the same state. The induction is on the calls, from
the last one on. -/
theorem run_of_applied (events : List FieldEvent) :
    field.runEvents rt (field.runEvents rt events).1 = field.runEvents rt events := by
  induction events using List.reverseRecOn with
  | nil => rfl
  | append_singleton events event ih =>
      rcases runEvents_concat rt field events event with
        hsame | ⟨next, receipt, hcall, hstatus, -, happlied⟩
      · rw [hsame]
        exact ih
      · rw [happlied]
        unfold runEvents at ih ⊢
        rw [List.foldl_concat, ih]
        show field.callEvent rt (field.runEvents rt events) event = _
        unfold callEvent
        rw [hcall]
        show (if receipt.status = "applied" then _ else _, next) = _
        rw [if_pos hstatus]
        rfl

/-- Where no variable is requested twice to an effect, the values are the initial ones
with the requests of the applied events. The induction is on the calls, from the last one on. -/
theorem values_of_run (events : List FieldEvent)
    (h : ∀ event ∈ (field.runEvents rt events).1, event.Unambiguous) (name : String) :
    (field.runEvents rt events).2.values.lookup name =
      ((field.initialState rt).values.lookup name).map fun value =>
        .number (value.value + ((field.runEvents rt events).1.map (·.requested name)).sum) := by
  induction events using List.reverseRecOn with
  | nil =>
      show (field.initialState rt).values.lookup name = _
      cases hvalue : (field.initialState rt).values.lookup name with
      | none => rfl
      | some value =>
          have hnumber := number_of_initial (mem_of_lookup hvalue)
          show some value = some (.number (value.value + 0))
          rw [add_zero, ← hnumber]
  | append_singleton events event ih =>
      rcases runEvents_concat rt field events event with
        hsame | ⟨next, receipt, -, -, hspec, happlied⟩
      · rw [hsame] at h ⊢
        exact ih h
      · rw [happlied] at h ⊢
        have hbefore := ih fun other hother => h other (List.mem_append_left _ hother)
        have hadds := hspec.adds_iff.mpr (h event (List.mem_append_right _ List.mem_cons_self)) name
        show next.values.lookup name = _
        rw [hadds, hbefore, Option.map_map]
        congr 1
        funext value
        simp only [Function.comp_apply, PyReal.value, List.map_append, List.map_cons, List.map_nil,
          List.sum_append, List.sum_cons, List.sum_nil, add_zero, add_assoc]

/-- MAIN: **field events are applied all or nothing, and once.** For every law and every sequence of
calls from `initialize` on: no event id is applied twice; a call that returns leaves the very same
state and is blocked, or is applied, and then adds to every variable all that it requests exactly if
no variable has, under several of the event's names, requests before the last that come to
something; the applied events alone lead to the same state; and where all of them are such, every
value is its initial one with what they request. SOURCE: dynamic_field.py:202-290, 406-445 -/
theorem field_events_all_or_nothing (rt : DynamicRuntime) (field : DynamicField)
    (events : List FieldEvent) :
    ((field.runEvents rt events).2.appliedEventIds =
        (field.runEvents rt events).1.map (fun event => strip event.eventId) ∧
      (field.runEvents rt events).2.appliedEventIds.Nodup) ∧
    (∀ event next receipt,
      field.applyEvent rt (field.runEvents rt events).2 event = .ok (next, receipt) →
        (receipt.status = "blocked" ∧ next = (field.runEvents rt events).2) ∨
          (receipt.status = "applied" ∧
            (Adds (field.runEvents rt events).2 next event ↔ event.Unambiguous))) ∧
    field.runEvents rt (field.runEvents rt events).1 = field.runEvents rt events ∧
    ((∀ event ∈ (field.runEvents rt events).1, event.Unambiguous) →
      ∀ name, (field.runEvents rt events).2.values.lookup name =
        ((field.initialState rt).values.lookup name).map fun value =>
          .number (value.value + ((field.runEvents rt events).1.map (·.requested name)).sum)) := by
  refine ⟨ids_of_run events, fun event next receipt h => ?_, run_of_applied events,
    values_of_run events⟩
  exact (applyEvent_cases h).imp_right fun happlied => ⟨happlied.1, happlied.2.adds_iff⟩

/-! ### Two names of one variable -/

/-- A field with one variable, between 0 and 10. -/
def loadField : DynamicField where
  law := ⟨"load-law", "1", [⟨"load", .number 0, .number 10, .number 0, ["observe"], .number 5⟩]⟩
  rules := [("load", ⟨"load", .number 0, .number 10, .number 0, ["observe"], .number 5⟩)]
  valid := by decide +kernel

/-- An event that requests 1 and 2 of the variable, under two names. -/
def twiceNamed : FieldEvent where
  eventId := "event"
  kind := "observe"
  deltas := [("load", .number 1), (" load", .number 2)]
  sourceLabel := "sensor"

open FieldAwareRouter in
/-- COUNTEREXAMPLE: the event is applied and adds 2 of the 3 that it requests. -/
theorem twiceNamed_drops_request :
    (twiceNamed.deltas.map (·.1)).Nodup ∧ twiceNamed.requested "load" = 3 ∧
      (loadField.initialState plainRuntime).values.lookup "load" = some (.number 0) ∧
      ∃ next receipt, loadField.applyEvent plainRuntime (loadField.initialState plainRuntime)
          twiceNamed = .ok (next, receipt) ∧ receipt.status = "applied" ∧
        next.values.lookup "load" = some (.number 2) := by
  refine ⟨by decide, by decide +kernel, by decide +kernel, ?_⟩
  have h : ∃ outcome, loadField.applyEvent plainRuntime (loadField.initialState plainRuntime)
      twiceNamed = .ok outcome ∧ outcome.2.status = "applied" ∧
        outcome.1.values.lookup "load" = some (.number 2) := by
    apply exists_ok_of_decide
    decide +kernel
  obtain ⟨⟨next, receipt⟩, hcall, hstatus, hvalue⟩ := h
  exact ⟨next, receipt, hcall, hstatus, hvalue⟩

end DynamicField

end PhiOS
