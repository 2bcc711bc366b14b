import PhiOS.Library.KeyedBlocks
import PhiOS.Model.CanonicalJson
import PhiOS.Model.MacroRunner

/-!
# The structured meaning of a macro

What a macro definition means for fixed resolutions, read off the tree of its steps: an `IF` runs
the chosen branch, a `LOOP` runs its body `max_iterations` times and a `FOREACH` runs its body once
per item, each time it is reached. `meaning` is the sequence of instruction paths this gives.

`flows` says the same as a flow of repeated blocks, the key of a block being the digest of its step:
`meaning_eq_runs`. If the digest tells the payloads of the definition's steps apart, then the flow
follows the shapes of its keys (`follows_flows`), since the control of a step can be read off its
canonical payload (`outline_payload`).
-/

set_option autoImplicit false

namespace PhiOS

open KeyOrder KeyedBlocks

/-- The condition is resolved to true. -/
def ResolutionIndex.holds (index : ResolutionIndex) (conditionId : String) : Bool :=
  ((index.conditions.get? conditionId).map (·.value)).getD false

/-- The items that the collection is resolved to. -/
def ResolutionIndex.items (index : ResolutionIndex) (collectionRef : String) : List Json :=
  ((index.collections.get? collectionRef).map (·.items)).getD []

namespace Analysis

/-! ## The meaning -/

section Meaning

variable (index : ResolutionIndex)

mutual

/-- The instruction paths that the rest of a block passes, from its `localIndex`-th step on. -/
def meaning (blockPath : String) : List MacroStep → (localIndex : ℕ) → List String
  | [], _ => []
  | step :: steps, localIndex =>
      meaningStep step (blockPath ++ "." ++ toString localIndex) ++
        meaning blockPath steps (localIndex + 1)

/-- The instruction paths that one step passes. -/
def meaningStep : MacroStep → (path : String) → List String
  | .ifStep conditionId thenSteps elseSteps, path =>
      if index.holds conditionId then meaning (path ++ ".then") thenSteps 0
      else meaning (path ++ ".else") elseSteps 0
  | .loopStep _ maxIterations body, path =>
      (List.replicate maxIterations.toNat (meaning (path ++ ".body") body 0)).flatten
  | .forEachStep _ collectionRef _ body, path =>
      (index.items collectionRef).flatMap fun _ => meaning (path ++ ".body") body 0
  | .doStep _, path | .callStep _ _ _, path | .checkpointStep _, path | .approveStep _ _ _, path =>
      [path]

end

variable (sha256 : Json → String)

mutual

/-- The resolutions fit the rest of a block: every condition and every collection has one, with at
most `max_items` items, and so has every operation, call, checkpoint and approval, with matching
scope and success. -/
def resolves (blockPath : String) : List MacroStep → (localIndex : ℕ) → Bool
  | [], _ => true
  | step :: steps, localIndex =>
      resolvesStep step (blockPath ++ "." ++ toString localIndex) &&
        resolves blockPath steps (localIndex + 1)

/-- The resolutions fit one step. -/
def resolvesStep : MacroStep → (path : String) → Bool
  | .doStep operation, path =>
      match index.operations.get? path with
      | some r => r.operationHash = operation.operationHash sha256 && r.status = .succeeded
      | none => false
  | .ifStep conditionId thenSteps elseSteps, path =>
      (index.conditions.get? conditionId).isSome && resolves (path ++ ".then") thenSteps 0 &&
        resolves (path ++ ".else") elseSteps 0
  | .loopStep _ _ body, path => resolves (path ++ ".body") body 0
  | .forEachStep _ collectionRef maxItems body, path =>
      (match index.collections.get? collectionRef with
      | some r => (r.items.length : ℤ) ≤ maxItems
      | none => false) && resolves (path ++ ".body") body 0
  | .callStep macroId macroVersion arguments, path =>
      match index.calls.get? path with
      | some r => r.macroId = macroId && r.macroVersion = macroVersion &&
          r.argumentsSha256 = sha256 arguments && r.status = .succeeded
      | none => false
  | .checkpointStep label, path =>
      match index.checkpoints.get? path with
      | some r => r.label = label && r.status = .succeeded
      | none => false
  | .approveStep barrierId requiredCapabilities _, _ =>
      match index.approvals.get? barrierId with
      | some r => r.requiredCapabilities = requiredCapabilities && r.approved
      | none => false

end

/-! ## The meaning as a flow -/

/-- The two kinds of repeated blocks, whose iterations the runner counts apart. -/
inductive BlockKind
  | loop
  | forEach
  deriving DecidableEq

mutual

/-- The flow of the rest of a block. -/
def flows (blockPath : String) :
    List MacroStep → (localIndex : ℕ) → List (Flow (BlockKind × String) String)
  | [], _ => []
  | step :: steps, localIndex =>
      flowsStep step (blockPath ++ "." ++ toString localIndex) ++
        flows blockPath steps (localIndex + 1)

/-- The flow of one step. -/
def flowsStep : MacroStep → (path : String) → List (Flow (BlockKind × String) String)
  | .ifStep conditionId thenSteps elseSteps, path =>
      if index.holds conditionId then flows (path ++ ".then") thenSteps 0
      else flows (path ++ ".else") elseSteps 0
  | .loopStep loopId maxIterations body, path =>
      [.block (.loop, sourceHash sha256 (.loopStep loopId maxIterations body)) maxIterations.toNat
        (flows (path ++ ".body") body 0)]
  | .forEachStep itemName collectionRef maxItems body, path =>
      [.block (.forEach, sourceHash sha256 (.forEachStep itemName collectionRef maxItems body))
        (index.items collectionRef).length (flows (path ++ ".body") body 0)]
  | .doStep _, path | .callStep _ _ _, path | .checkpointStep _, path | .approveStep _ _ _, path =>
      [.pass path]

end

/-- The keys of the `LOOP` and `FOREACH` steps that pass something, in the order in which the
structured interpretation reaches them. -/
def blocksReached (steps : List MacroStep) : List (BlockKind × String) :=
  visits (flows index sha256 "root" steps 0)

end Meaning

section Flow

variable {index : ResolutionIndex} {sha256 : Json → String}

theorem flatMap_const {α β : Type} (items : List α) (l : List β) :
    (items.flatMap fun _ => l) = (List.replicate items.length l).flatten := by
  induction items with
  | nil => rfl
  | cons item items ih =>
      rw [List.flatMap_cons, ih, List.length_cons, List.replicate_succ, List.flatten_cons]

mutual

theorem meaning_eq_runs (blockPath : String) : (steps : List MacroStep) → (localIndex : ℕ) →
    meaning index blockPath steps localIndex = runs (flows index sha256 blockPath steps localIndex)
  | [], _ => by
      unfold meaning flows runs
      rfl
  | step :: steps, localIndex => by
      unfold meaning flows
      rw [runs_append, meaningStep_eq_runs step, meaning_eq_runs blockPath steps]

/-- The same for one step. -/
theorem meaningStep_eq_runs : (step : MacroStep) → (path : String) →
    meaningStep index step path = runs (flowsStep index sha256 step path)
  | .ifStep conditionId thenSteps elseSteps, path => by
      unfold meaningStep flowsStep
      split
      · exact meaning_eq_runs (path ++ ".then") thenSteps 0
      · exact meaning_eq_runs (path ++ ".else") elseSteps 0
  | .loopStep loopId maxIterations body, path => by
      unfold meaningStep flowsStep
      rw [runs_singleton, meaning_eq_runs (path ++ ".body") body 0]
      unfold run
      rfl
  | .forEachStep itemName collectionRef maxItems body, path => by
      unfold meaningStep flowsStep
      rw [runs_singleton, flatMap_const, meaning_eq_runs (path ++ ".body") body 0]
      unfold run
      rfl
  | .doStep _, path | .callStep _ _ _, path | .checkpointStep _, path | .approveStep _ _ _, path => by
      unfold meaningStep flowsStep
      rw [runs_singleton]
      rfl

end

end Flow

/-! ## Digests that tell steps apart -/

mutual

/-- The steps of a block, with all steps nested in them. -/
def partsAll : List MacroStep → List MacroStep
  | [] => []
  | step :: steps => parts step ++ partsAll steps

/-- A step with all steps nested in it. -/
def parts : MacroStep → List MacroStep
  | .ifStep conditionId thenSteps elseSteps =>
      .ifStep conditionId thenSteps elseSteps :: (partsAll thenSteps ++ partsAll elseSteps)
  | .loopStep loopId maxIterations body => .loopStep loopId maxIterations body :: partsAll body
  | .forEachStep itemName collectionRef maxItems body =>
      .forEachStep itemName collectionRef maxItems body :: partsAll body
  | step => [step]

end

/-- The steps nested in a step. -/
def nested : MacroStep → List MacroStep
  | .ifStep _ thenSteps elseSteps => partsAll thenSteps ++ partsAll elseSteps
  | .loopStep _ _ body | .forEachStep _ _ _ body => partsAll body
  | .doStep _ | .callStep _ _ _ | .checkpointStep _ | .approveStep _ _ _ => []

/-- SOURCE: macro_graph.py:97-160 -/
theorem parts_eq_cons (step : MacroStep) : parts step = step :: nested step := by
  cases step <;> simp [parts, nested]

/-- SOURCE: macro_graph.py:97-160 -/
theorem mem_parts_self (step : MacroStep) : step ∈ parts step := by
  rw [parts_eq_cons]
  exact List.mem_cons_self

/-- The digest tells the payloads of the steps apart: two of them have the same digest only if
they print the same canonical JSON. -/
def CollisionFree (sha256 : Json → String) (steps : List MacroStep) : Prop :=
  ∀ s ∈ partsAll steps, ∀ s' ∈ partsAll steps, sourceHash sha256 s = sourceHash sha256 s' →
    (stepPayload sha256 s).canonical = (stepPayload sha256 s').canonical

section Canonical

theorem sizeOf_of_lookup {name : String} {value : Json} {fields : List (String × Json)}
    (h : fields.lookup name = some value) : sizeOf value < sizeOf fields := by
  induction fields with
  | nil => cases h
  | cons field fields ih =>
      obtain ⟨name', value'⟩ := field
      by_cases hname : name = name'
      · rw [hname, lookup_cons_self] at h
        obtain rfl := Option.some.inj h
        simp only [List.cons.sizeOf_spec, Prod.mk.sizeOf_spec]
        omega
      · rw [lookup_cons_of_ne hname] at h
        have hrest := ih h
        simp only [List.cons.sizeOf_spec]
        omega

theorem sizeOf_canonical_lt_of_field (name : String) {fields : List (String × Json)}
    {items : List Json} (h : fields.lookup name = some (.arr items)) {item : Json}
    (hitem : item ∈ Json.canonicals items) :
    sizeOf item < sizeOf (Json.canonical (.obj fields)) := by
  have hfield : (Json.canonicalFields fields).lookup name = some (.arr (Json.canonicals items)) := by
    rw [Json.lookup_canonicalFields, h, Option.map_some, Json.canonical]
  have hlt := sizeOf_of_lookup hfield
  have hmem := List.sizeOf_lt_of_mem hitem
  rw [Json.canonical]
  simp only [Json.arr.sizeOf_spec, Json.obj.sizeOf_spec] at hlt ⊢
  omega

variable {sha256 : Json → String}

theorem mem_canonicals {step : MacroStep} {steps : List MacroStep} (h : step ∈ steps) :
    (stepPayload sha256 step).canonical ∈ Json.canonicals (stepPayloads sha256 steps) := by
  induction steps with
  | nil => cases h
  | cons first rest ih =>
      rw [stepPayloads, Json.canonicals]
      rcases List.mem_cons.mp h with rfl | h
      · exact List.mem_cons_self
      · exact List.mem_cons_of_mem _ (ih h)

/-- The size of what the digest of a step is made from. -/
noncomputable def payloadSize (sha256 : Json → String) (step : MacroStep) : ℕ :=
  sizeOf (stepPayload sha256 step).canonical

theorem payloadSize_lt_of_block (name : String) {fields : List (String × Json)}
    {steps : List MacroStep} {size : ℕ}
    (h : fields.lookup name = some (.arr (stepPayloads sha256 steps)))
    (hle : ∃ step ∈ steps, size ≤ payloadSize sha256 step) :
    size < sizeOf (Json.canonical (.obj fields)) := by
  obtain ⟨step, hmem, hle⟩ := hle
  exact lt_of_le_of_lt hle (sizeOf_canonical_lt_of_field name h (mem_canonicals hmem))

mutual

theorem exists_le_of_mem_partsAll {inner : MacroStep} : (steps : List MacroStep) →
    inner ∈ partsAll steps → ∃ step ∈ steps, payloadSize sha256 inner ≤ payloadSize sha256 step
  | [], h => by
      unfold partsAll at h
      cases h
  | step :: steps, h => by
      unfold partsAll at h
      rcases List.mem_append.mp h with h | h
      · refine ⟨step, List.mem_cons_self, ?_⟩
        rw [parts_eq_cons] at h
        rcases List.mem_cons.mp h with rfl | h
        · exact Nat.le_refl _
        · exact (payloadSize_lt_of_mem_nested step h).le
      · obtain ⟨step', hmem, hle⟩ := exists_le_of_mem_partsAll steps h
        exact ⟨step', List.mem_cons_of_mem _ hmem, hle⟩

/-- What is nested in a step is smaller than it. -/
theorem payloadSize_lt_of_mem_nested {inner : MacroStep} : (step : MacroStep) →
    inner ∈ nested step → payloadSize sha256 inner < payloadSize sha256 step
  | .ifStep conditionId thenSteps elseSteps, h => by
      unfold nested at h
      rw [payloadSize.eq_1 sha256 (.ifStep _ _ _), stepPayload]
      rcases List.mem_append.mp h with h | h
      · exact payloadSize_lt_of_block "then_steps" rfl (exists_le_of_mem_partsAll thenSteps h)
      · exact payloadSize_lt_of_block "else_steps" rfl (exists_le_of_mem_partsAll elseSteps h)
  | .loopStep loopId maxIterations body, h => by
      unfold nested at h
      rw [payloadSize.eq_1 sha256 (.loopStep _ _ _), stepPayload]
      exact payloadSize_lt_of_block "body" rfl (exists_le_of_mem_partsAll body h)
  | .forEachStep itemName collectionRef maxItems body, h => by
      unfold nested at h
      rw [payloadSize.eq_1 sha256 (.forEachStep _ _ _ _), stepPayload]
      exact payloadSize_lt_of_block "body" rfl (exists_le_of_mem_partsAll body h)
  | .doStep _, h | .callStep _ _ _, h | .checkpointStep _, h | .approveStep _ _ _, h => by
      unfold nested at h
      cases h

end

theorem sourceHash_ne_of_mem_nested {steps : List MacroStep} (hfree : CollisionFree sha256 steps)
    {step inner : MacroStep} (hstep : step ∈ partsAll steps) (hinner : inner ∈ partsAll steps)
    (h : inner ∈ nested step) : sourceHash sha256 inner ≠ sourceHash sha256 step := by
  intro heq
  have hlt : payloadSize sha256 inner < payloadSize sha256 step :=
    payloadSize_lt_of_mem_nested step h
  unfold payloadSize at hlt
  rw [hfree inner hinner step hstep heq] at hlt
  exact Nat.lt_irrefl _ hlt

end Canonical

/-! ## The outline of a payload -/

/-- The text of a field. -/
def fieldText (fields : List (String × Json)) (name : String) : String :=
  match fields.lookup name with
  | some (.str text) => text
  | _ => ""

/-- The integer of a field. -/
def fieldInt (fields : List (String × Json)) (name : String) : ℤ :=
  match fields.lookup name with
  | some (.int n) => n
  | _ => 0

section Outline

variable (index : ResolutionIndex)

/-- The shapes of the flow of a step, read off its payload; `blocks` holds those of its fields. -/
def stepOutline (fields : List (String × Json)) (blocks : List (String × List Shape)) :
    List Shape :=
  let block := fun name => (blocks.lookup name).getD []
  if fieldText fields "kind" = "IF" then
    if index.holds (fieldText fields "condition_id") then block "then_steps" else block "else_steps"
  else if fieldText fields "kind" = "LOOP" then
    [.block (fieldInt fields "max_iterations").toNat (block "body")]
  else if fieldText fields "kind" = "FOREACH" then
    [.block (index.items (fieldText fields "collection_ref")).length (block "body")]
  else [.pass]

mutual

/-- The outline of the payload of a step, or of the payloads of a block. -/
def outline : Json → List Shape
  | .obj fields => stepOutline index fields (outlineFields fields)
  | .arr items => outlineItems items
  | _ => []

/-- The outlines of the items of a list, one after the other. -/
def outlineItems : List Json → List Shape
  | [] => []
  | item :: items => outline item ++ outlineItems items

/-- The outlines of the fields of an object. -/
def outlineFields : List (String × Json) → List (String × List Shape)
  | [] => []
  | (name, value) :: fields => (name, outline value) :: outlineFields fields

end

variable {index}

theorem lookup_outlineFields (name : String) (fields : List (String × Json)) :
    (outlineFields index fields).lookup name = (fields.lookup name).map (outline index) := by
  induction fields with
  | nil => rfl
  | cons field fields ih =>
      obtain ⟨name', value⟩ := field
      unfold outlineFields
      by_cases h : name = name'
      · rw [h, lookup_cons_self, lookup_cons_self]
        rfl
      · rw [lookup_cons_of_ne h, lookup_cons_of_ne h, ih]

theorem fieldText_canonicalFields (fields : List (String × Json)) (name : String) :
    fieldText (Json.canonicalFields fields) name = fieldText fields name := by
  unfold fieldText
  rw [Json.lookup_canonicalFields]
  cases fields.lookup name with
  | none => rfl
  | some value => cases value <;> simp [Json.canonical]

theorem fieldInt_canonicalFields (fields : List (String × Json)) (name : String) :
    fieldInt (Json.canonicalFields fields) name = fieldInt fields name := by
  unfold fieldInt
  rw [Json.lookup_canonicalFields]
  cases fields.lookup name with
  | none => rfl
  | some value => cases value <;> simp [Json.canonical]

variable {sha256 : Json → String}

theorem lookup_outlineFields_canonical {fields : List (String × Json)} {name : String}
    {items : List Json} (h : fields.lookup name = some (.arr items)) :
    ((outlineFields index (Json.canonicalFields fields)).lookup name).getD [] =
      outlineItems index (Json.canonicals items) := by
  rw [lookup_outlineFields, Json.lookup_canonicalFields, h, Option.map_some, Option.map_some,
    Option.getD_some, Json.canonical, outline]

mutual

theorem outline_payloads : (steps : List MacroStep) → (blockPath : String) → (localIndex : ℕ) →
    outlineItems index (Json.canonicals (stepPayloads sha256 steps)) =
      shapes (flows index sha256 blockPath steps localIndex)
  | [], blockPath, localIndex => by
      rw [stepPayloads, Json.canonicals, outlineItems, flows, shapes]
  | step :: steps, blockPath, localIndex => by
      rw [stepPayloads, Json.canonicals, outlineItems, flows, shapes_append,
        outline_payload step (blockPath ++ "." ++ toString localIndex),
        outline_payloads steps blockPath (localIndex + 1)]

/-- The shapes of the flow of a step can be read off its canonical payload. -/
theorem outline_payload : (step : MacroStep) → (path : String) →
    outline index (stepPayload sha256 step).canonical = shapes (flowsStep index sha256 step path)
  | .ifStep conditionId thenSteps elseSteps, path => by
      rw [stepPayload, Json.canonical, outline, stepOutline, fieldText_canonicalFields,
        fieldText_canonicalFields, flowsStep]
      show (if index.holds conditionId then _ else _) = _
      split
      · exact (lookup_outlineFields_canonical rfl).trans
          (outline_payloads thenSteps (path ++ ".then") 0)
      · exact (lookup_outlineFields_canonical rfl).trans
          (outline_payloads elseSteps (path ++ ".else") 0)
  | .loopStep loopId maxIterations body, path => by
      rw [stepPayload, Json.canonical, outline, stepOutline, fieldText_canonicalFields,
        fieldInt_canonicalFields, flowsStep, shapes, shapes, shape,
        ← outline_payloads body (path ++ ".body") 0]
      exact congrArg (fun block => [Shape.block maxIterations.toNat block])
        (lookup_outlineFields_canonical rfl)
  | .forEachStep itemName collectionRef maxItems body, path => by
      rw [stepPayload, Json.canonical, outline, stepOutline, fieldText_canonicalFields,
        fieldText_canonicalFields, flowsStep, shapes, shapes, shape,
        ← outline_payloads body (path ++ ".body") 0]
      exact congrArg (fun block => [Shape.block (index.items collectionRef).length block])
        (lookup_outlineFields_canonical rfl)
  | .doStep _, path | .callStep _ _ _, path | .checkpointStep _, path | .approveStep _ _ _, path => by
      rw [stepPayload, Json.canonical, outline, stepOutline, fieldText_canonicalFields, flowsStep,
        shapes, shapes, shape]
      rfl

end

end Outline

/-! ## The flow follows its keys -/

section Forms

variable {index : ResolutionIndex} {sha256 : Json → String} {whole : List MacroStep}

/-- The shape that belongs to the digest of a step of the definition. -/
def forms (index : ResolutionIndex) (sha256 : Json → String) (whole : List MacroStep)
    (key : BlockKind × String) : Shape :=
  match (partsAll whole).find? (sourceHash sha256 · = key.2) with
  | some step => (shapes (flowsStep index sha256 step "")).headD .pass
  | none => .pass

/-- The shape that belongs to the digest of a step is that of its flow. -/
theorem forms_eq (hfree : CollisionFree sha256 whole) {step : MacroStep}
    (hstep : step ∈ partsAll whole) (kind : BlockKind) (path : String) {form : Shape}
    (hshapes : shapes (flowsStep index sha256 step path) = [form]) :
    forms index sha256 whole (kind, sourceHash sha256 step) = form := by
  unfold forms
  cases hfind : (partsAll whole).find? (sourceHash sha256 · = sourceHash sha256 step) with
  | none =>
      have hnone := List.find?_eq_none.mp hfind step hstep
      exact absurd (decide_eq_true rfl) hnone
  | some first =>
      have hhash : sourceHash sha256 first = sourceHash sha256 step := by
        simpa using List.find?_some hfind
      have hcanonical := hfree first (List.mem_of_find?_eq_some hfind) step hstep hhash
      have hsame : outline index (stepPayload sha256 first).canonical = _ :=
        outline_payload first ""
      rw [hcanonical, outline_payload step path, hshapes] at hsame
      show (shapes (flowsStep index sha256 first "")).headD .pass = form
      rw [← hsame]
      rfl

mutual

theorem follows_flows (hfree : CollisionFree sha256 whole) : (steps : List MacroStep) →
    (∀ s ∈ partsAll steps, s ∈ partsAll whole) → (blockPath : String) → (localIndex : ℕ) →
    FollowsAll (forms index sha256 whole) (flows index sha256 blockPath steps localIndex)
  | [], _, blockPath, localIndex => by
      rw [flows, FollowsAll]
      trivial
  | step :: steps, h, blockPath, localIndex => by
      have hcons : partsAll (step :: steps) = parts step ++ partsAll steps := by rw [partsAll]
      rw [hcons] at h
      rw [flows]
      exact followsAll_append _ _
        (follows_flowsStep hfree step (fun s hs => h s (List.mem_append_left _ hs)) _)
        (follows_flows hfree steps (fun s hs => h s (List.mem_append_right _ hs)) _ _)

/-- The same for one step. -/
theorem follows_flowsStep (hfree : CollisionFree sha256 whole) : (step : MacroStep) →
    (∀ s ∈ parts step, s ∈ partsAll whole) → (path : String) →
    FollowsAll (forms index sha256 whole) (flowsStep index sha256 step path)
  | .ifStep conditionId thenSteps elseSteps, h, path => by
      unfold parts at h
      unfold flowsStep
      split
      · exact follows_flows hfree thenSteps
          (fun s hs => h s (List.mem_cons_of_mem _ (List.mem_append_left _ hs))) _ _
      · exact follows_flows hfree elseSteps
          (fun s hs => h s (List.mem_cons_of_mem _ (List.mem_append_right _ hs))) _ _
  | .loopStep loopId maxIterations body, h, path => by
      unfold parts at h
      rw [flowsStep, FollowsAll, Follows, FollowsAll]
      refine ⟨⟨forms_eq hfree (h _ List.mem_cons_self) _ path ?_, ?_⟩, trivial⟩
      · rw [flowsStep, shapes, shapes, shape]
      · exact follows_flows hfree body (fun s hs => h s (List.mem_cons_of_mem _ hs)) _ _
  | .forEachStep itemName collectionRef maxItems body, h, path => by
      unfold parts at h
      rw [flowsStep, FollowsAll, Follows, FollowsAll]
      refine ⟨⟨forms_eq hfree (h _ List.mem_cons_self) _ path ?_, ?_⟩, trivial⟩
      · rw [flowsStep, shapes, shapes, shape]
      · exact follows_flows hfree body (fun s hs => h s (List.mem_cons_of_mem _ hs)) _ _
  | .doStep _, _, path | .callStep _ _ _, _, path | .checkpointStep _, _, path
  | .approveStep _ _ _, _, path => by
      rw [flowsStep, FollowsAll, Follows, FollowsAll]
      exact ⟨trivial, trivial⟩

end

/-- Counting per digest passes what the structured meaning passes if and only if no
digest of a block that passes anything is reached twice. -/
theorem counteds_eq_meaning_iff (hfree : CollisionFree sha256 whole) :
    (counteds (flows index sha256 "root" whole 0) fun _ => 0).1 = meaning index "root" whole 0 ↔
      (blocksReached index sha256 whole).Nodup := by
  rw [show meaning index "root" whole 0 = runs (flows index sha256 "root" whole 0) from
    meaning_eq_runs _ _ _]
  exact counteds_eq_runs_iff (follows_flows hfree whole (fun _ hs => hs) "root" 0)

end Forms

end Analysis

end PhiOS
