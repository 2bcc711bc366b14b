import PhiOS.Analysis.MacroRefinement

/-!
# Runs of a compiled macro under budgets

`advances` calls `advance` again and again with the same inputs. However the transition budgets cut
the run up, it is completed in the end and passes what the moves of the runner pass
(`advances_of_moves`). With the simulation of the plan this settles what a run passes.
-/

set_option autoImplicit false

namespace PhiOS.Analysis

open KeyOrder KeyedBlocks MacroRunner MacroGraphPlanner

/-- Calls of `advance` one after the other, with the same inputs: the paths passed, and the state
reached. -/
def advances (sha256 : Json → String) (plan : MacroPlan) (inputs : RunnerInputs) :
    (budgets : List ℤ) → MacroRunState → Except PyError (List String × MacroRunState)
  | [], state => .ok ([], state)
  | budget :: budgets, state => do
      let (passed, next) ← advancePassing sha256 plan state inputs budget
      let (rest, final) ← advances sha256 plan inputs budgets next
      return (passed ++ rest, final)

/-- The budgets that `advance` accepts. -/
def ValidBudget (budget : ℤ) : Prop := 1 ≤ budget ∧ budget ≤ maxAdvanceTransitions

/-! ## Sound positions -/

section Sound

variable {sha256 : Json → String} {plan : MacroPlan} {index : ResolutionIndex}
  {config next : Config} {instruction : PlanInstruction}

/-- What `MacroRunState` demands of the counters and of the last path. -/
structure Sound (config : Config) : Prop where
  loops : ∀ entry ∈ config.loops.entries, isSha256Text entry.1 = true
  forEach : ∀ entry ∈ config.foreach.entries, isSha256Text entry.1 = true
  lastPath : ∀ path, config.lastPath = some path → Legible path

/-- What `MacroPlan` and its instructions promise. -/
structure SoundPlan (plan : MacroPlan) : Prop where
  macroId : Legible plan.macroId
  macroVersion : Legible plan.macroVersion ∧ plan.macroVersion.length ≤ 128
  paths : ∀ instruction ∈ plan.instructions, Legible instruction.path
  hashes : ∀ instruction ∈ plan.instructions, isSha256Text instruction.sourceStepSha256 = true

/-- A dictionary is left alone, or gets one more entry under the given key. -/
def SetsAt (hash : String) (before after : Dict String ℕ) : Prop :=
  after = before ∨ ∃ value, after = before.set hash value

/-- SOURCE: macro_runner.py:538-548 -/
theorem SetsAt.keys {hash : String} {before after : Dict String ℕ} (h : SetsAt hash before after)
    (hhash : isSha256Text hash = true)
    (hbefore : ∀ entry ∈ before.entries, isSha256Text entry.1 = true) :
    ∀ entry ∈ after.entries, isSha256Text entry.1 = true := by
  rcases h with rfl | ⟨value, rfl⟩
  · exact hbefore
  · intro entry hentry
    rcases mem_insertEntry hentry with rfl | hentry
    · exact hhash
    · exact hbefore entry hentry

/-- What an instruction that is passed changes. SOURCE: macro_runner.py:429-642 -/
theorem sets_of_pass (h : passInstruction plan index config instruction = .ok (.moved next)) :
    SetsAt instruction.sourceStepSha256 config.loops next.loops ∧
      SetsAt instruction.sourceStepSha256 config.foreach next.foreach ∧
      next.lastPath = config.lastPath := by
  have hcursor : ∀ {cursor : ℕ}, Passage.moved { config with cursor } = .moved next →
      SetsAt instruction.sourceStepSha256 config.loops next.loops ∧
      SetsAt instruction.sourceStepSha256 config.foreach next.foreach ∧
      next.lastPath = config.lastPath := by
    intro cursor heq
    obtain rfl := Passage.moved.inj heq
    exact ⟨.inl rfl, .inl rfl, rfl⟩
  have hresolution : ∀ {status : ResolutionStatus} {held failed : String},
      resolutionBoundary config status held failed = .moved next →
      SetsAt instruction.sourceStepSha256 config.loops next.loops ∧
      SetsAt instruction.sourceStepSha256 config.foreach next.foreach ∧
      next.lastPath = config.lastPath := by
    intro status held failed heq
    cases status with
    | succeeded => exact hcursor heq
    | held => cases heq
    | failed => cases heq
  unfold passInstruction at h
  split at h
  case h_1 =>
    split at h
    · cases h
    · obtain ⟨expected, -, h⟩ := bind_eq_ok.mp h
      split at h
      · cases h
      · exact hresolution (Except.ok.inj h)
  case h_2 =>
    obtain ⟨conditionId, -, h⟩ := bind_eq_ok.mp h
    split at h
    · cases h
    · split at h
      · exact hcursor (Except.ok.inj h)
      · obtain ⟨elseIndex, -, h⟩ := bind_eq_ok.mp h
        exact hcursor (Except.ok.inj h)
  case h_3 =>
    obtain ⟨endIndex, -, h⟩ := bind_eq_ok.mp h
    exact hcursor (Except.ok.inj h)
  case h_4 => exact hcursor (Except.ok.inj h)
  case h_5 =>
    obtain ⟨maximum, -, h⟩ := bind_eq_ok.mp h
    split at h
    · obtain ⟨endIndex, -, h⟩ := bind_eq_ok.mp h
      exact hcursor (Except.ok.inj h)
    · exact hcursor (Except.ok.inj h)
  case h_6 =>
    obtain ⟨beginIndex, -, h⟩ := bind_eq_ok.mp h
    obtain rfl := Passage.moved.inj (Except.ok.inj h)
    exact ⟨.inr ⟨_, rfl⟩, .inl rfl, rfl⟩
  case h_7 =>
    obtain ⟨collectionRef, -, h⟩ := bind_eq_ok.mp h
    obtain ⟨itemName, -, h⟩ := bind_eq_ok.mp h
    obtain ⟨maximum, -, h⟩ := bind_eq_ok.mp h
    split at h
    · cases h
    · split at h
      · cases h
      · split at h
        · obtain ⟨endIndex, -, h⟩ := bind_eq_ok.mp h
          obtain rfl := Passage.moved.inj (Except.ok.inj h)
          exact ⟨.inl rfl, .inl rfl, rfl⟩
        · obtain rfl := Passage.moved.inj (Except.ok.inj h)
          exact ⟨.inl rfl, .inl rfl, rfl⟩
  case h_8 =>
    obtain ⟨beginIndex, -, h⟩ := bind_eq_ok.mp h
    obtain rfl := Passage.moved.inj (Except.ok.inj h)
    exact ⟨.inl rfl, .inr ⟨_, rfl⟩, rfl⟩
  case h_9 =>
    split at h
    · cases h
    · obtain ⟨macroId, -, h⟩ := bind_eq_ok.mp h
      obtain ⟨macroVersion, -, h⟩ := bind_eq_ok.mp h
      obtain ⟨argumentsSha256, -, h⟩ := bind_eq_ok.mp h
      split at h
      · cases h
      · exact hresolution (Except.ok.inj h)
  case h_10 =>
    split at h
    · cases h
    · obtain ⟨label, -, h⟩ := bind_eq_ok.mp h
      split at h
      · cases h
      · exact hresolution (Except.ok.inj h)
  case h_11 =>
    obtain ⟨barrierId, -, h⟩ := bind_eq_ok.mp h
    split at h
    · cases h
    · obtain ⟨required, -, h⟩ := bind_eq_ok.mp h
      split at h
      · cases h
      · split at h
        · cases h
        · exact hcursor (Except.ok.inj h)

theorem Sound.passes {path : List String} (hplan : SoundPlan plan) (hconfig : Sound config)
    (h : Passes plan index config path next) : Sound next := by
  obtain ⟨instruction, hat, hpass, -⟩ := h
  have hmem : instruction ∈ plan.instructions := List.mem_of_getElem? hat
  obtain ⟨hloops, hforeach, hlast⟩ := sets_of_pass hpass
  constructor
  · exact hloops.keys (hplan.hashes _ hmem) hconfig.loops
  · exact hforeach.keys (hplan.hashes _ hmem) hconfig.forEach
  · intro path hpath
    rw [hlast] at hpath
    obtain rfl := Option.some.inj hpath
    exact hplan.paths _ hmem

/-- The position that a run state keeps. -/
def configOf (state : MacroRunState) : Config where
  cursor := state.cursor
  loops := .ofPairs state.loopIterations
  foreach := .ofPairs state.foreachIndices
  runVariables := .ofPairs state.runVariables
  transitions := state.transitions
  lastPath := state.lastInstructionPath

/-- The runner can write down every sound position, and read it back.
SOURCE: macro_runner.py:745-800, macro_runner.py:830-850 -/
theorem exists_state (hsha : ∀ payload, isSha256Text (sha256 payload) = true)
    (hplan : SoundPlan plan) (hconfig : Sound config)
    (hcursor : config.cursor ≤ plan.instructions.length) (status : RunnerStatus)
    (reason : String) (hreason : Legible reason) (waitingOn : List (String × Json)) :
    ∃ s, state sha256 plan config status reason waitingOn = .ok s ∧ s.status = status ∧
      configOf s = config ∧ validateResume sha256 plan s = .ok () := by
  have hloops : (config.loops.entries.forM fun entry => do
      let _ ← requireSha256 .macroRunnerContractError entry.1 "loop source_step_sha256") =
      .ok () := by
    refine forM_eq_ok.mpr fun entry hentry => ?_
    rw [requireSha256_of_isSha256Text (hconfig.loops entry hentry)]
    rfl
  have hforeach : (config.foreach.entries.forM fun entry => do
      let _ ← requireSha256 .macroRunnerContractError entry.1 "foreach source_step_sha256") =
      .ok () := by
    refine forM_eq_ok.mpr fun entry hentry => ?_
    rw [requireSha256_of_isSha256Text (hconfig.forEach entry hentry)]
    rfl
  let result : MacroRunState := {
    macroId := plan.macroId, macroVersion := plan.macroVersion
    planSha256 := plan.planSha256 sha256, cursor := config.cursor, status, reason
    loopIterations := config.loops.entries, foreachIndices := config.foreach.entries
    runVariables := config.runVariables.entries, waitingOn, lastInstructionPath := config.lastPath
    transitions := config.transitions }
  have hdigest : isSha256Text result.planSha256 = true := hsha _
  have hpost : result.postInit = .ok () := by
    unfold MacroRunState.postInit
    show (raiseIf _ _ >>= fun _ => _) = _
    rw [raiseIf, if_neg (not_not_intro rfl), requireText_of_legible hplan.macroId hplan.macroId.2.1,
      requireText_of_legible hplan.macroVersion.1 hplan.macroVersion.2,
      requireSha256_of_isSha256Text hdigest, requireText_of_legible hreason hreason.2.1]
    cases hpath : config.lastPath with
    | none =>
        rw [show result.lastInstructionPath = none from hpath]
        show (_ >>= fun _ => _ >>= fun _ => _) = _
        rw [hloops, hforeach]
        rfl
    | some path =>
        have hlegible := hconfig.lastPath path hpath
        rw [show result.lastInstructionPath = some path from hpath]
        show (requireText _ 512 path _ >>= fun _ => _) = _
        rw [requireText_of_legible hlegible hlegible.2.1, hloops, hforeach]
        rfl
  have hresume : validateResume sha256 plan result = .ok () := by
    unfold validateResume
    rw [raiseIf, if_neg (by simp [result]), raiseIf, if_neg (by simp [result]), raiseIf,
      if_neg (Nat.not_lt.mpr hcursor)]
    rfl
  have hconfigOf : configOf result = config := by
    simp only [configOf, result, Dict.ofPairs_entries]
  refine ⟨result, ?_, rfl, hconfigOf, hresume⟩
  unfold state
  show (result.postInit >>= fun _ => _) = _
  rw [hpost]
  rfl

end Sound

/-! ## Budgets -/

section Budgets

variable {sha256 : Json → String} {plan : MacroPlan} {index : ResolutionIndex}
  {inputs : RunnerInputs} {final : Config}

/-- A state from which the runner still passes `passed` in `n` moves until the plan is completed. -/
structure Ahead (sha256 : Json → String) (plan : MacroPlan) (index : ResolutionIndex) (final : Config)
    (n : ℕ) (passed : List String) (s : MacroRunState) : Prop where
  resumes : validateResume sha256 plan s = .ok ()
  sound : Sound (configOf s)
  moves : Moves plan index n (configOf s) passed final

/-- The loop of `advance` completes the plan, or stops for its budget on the way.
SOURCE: macro_runner.py:417-450 -/
theorem advanceLoop_of_moves (hsha : ∀ payload, isSha256Text (sha256 payload) = true)
    (hplan : SoundPlan plan) (hfinal : final.cursor = plan.instructions.length) (remaining : ℕ)
    {n : ℕ} {config : Config} {passed : List String} (hconfig : Sound config)
    (hmoves : Moves plan index n config passed final) :
    ∃ p₁ s, advanceLoop sha256 plan index remaining config = .ok (p₁, s) ∧
      ((s.status = .completed ∧ p₁ = passed ∧ validateResume sha256 plan s = .ok ()) ∨
        (s.status = .held ∧ ∃ m p₂, m + remaining = n ∧ passed = p₁ ++ p₂ ∧
          Ahead sha256 plan index final m p₂ s)) := by
  induction remaining generalizing n config passed with
  | zero =>
      cases hmoves with
      | refl =>
          have hnone : plan.instructions[final.cursor]? = none :=
            List.getElem?_eq_none (Nat.le_of_eq hfinal.symm)
          obtain ⟨s, hs, hstatus, -, hresumes⟩ := exists_state hsha hplan hconfig
            (Nat.le_of_eq hfinal) .completed "plan_completed"
            (by unfold Legible; decide) []
          refine ⟨[], s, ?_, .inl ⟨hstatus, rfl, hresumes⟩⟩
          unfold advanceLoop
          rw [hnone]
          show (_ >>= fun s => _) = _
          rw [hs]
          rfl
      | step first rest =>
          obtain ⟨instruction, hat, hpass, hpath⟩ := first
          have hlt : config.cursor < plan.instructions.length := (List.getElem?_eq_some_iff.mp hat).1
          obtain ⟨s, hs, hstatus, hconfigOf, hresumes⟩ := exists_state hsha hplan hconfig
            (Nat.le_of_lt hlt) .held "advance_transition_budget_exhausted"
            (by unfold Legible; decide) [("cursor", .int config.cursor)]
          refine ⟨[], s, ?_, .inr ⟨hstatus, _, _, Nat.add_zero _, rfl, hresumes, ?_, ?_⟩⟩
          · unfold advanceLoop
            rw [hat]
            show (_ >>= fun s => _) = _
            rw [hs]
            rfl
          · rw [hconfigOf]
            exact hconfig
          · rw [hconfigOf]
            exact .step ⟨instruction, hat, hpass, hpath⟩ rest
  | succ remaining ih =>
      cases hmoves with
      | refl =>
          have hnone : plan.instructions[final.cursor]? = none :=
            List.getElem?_eq_none (Nat.le_of_eq hfinal.symm)
          obtain ⟨s, hs, hstatus, -, hresumes⟩ := exists_state hsha hplan hconfig
            (Nat.le_of_eq hfinal) .completed "plan_completed"
            (by unfold Legible; decide) []
          refine ⟨[], s, ?_, .inl ⟨hstatus, rfl, hresumes⟩⟩
          unfold advanceLoop
          rw [hnone]
          show (_ >>= fun s => _) = _
          rw [hs]
          rfl
      | step first rest =>
          have hnext := hconfig.passes hplan first
          obtain ⟨instruction, hat, hpass, rfl⟩ := first
          obtain ⟨p₁, s, hloop, h⟩ := ih hnext rest
          refine ⟨passedPath instruction ++ p₁, s, ?_, ?_⟩
          · unfold advanceLoop
            rw [hat]
            show (passInstruction plan index (noted config instruction) instruction >>=
              fun passage => _) = _
            rw [hpass]
            show (advanceLoop sha256 plan index remaining _ >>= fun result => _) = _
            rw [hloop]
            rfl
          · rcases h with ⟨hstatus, rfl, hresumes⟩ | ⟨hstatus, m, p₂, hm, rfl, hahead⟩
            · exact .inl ⟨hstatus, rfl, hresumes⟩
            · exact .inr ⟨hstatus, m, p₂, by omega, (List.append_assoc _ _ _).symm, hahead⟩

omit inputs in
theorem advancePassing_eq {inputs : Option RunnerInputs} {s : MacroRunState} {budget : ℤ}
    (hresumes : validateResume sha256 plan s = .ok ()) (hstatus : s.status.terminal = false)
    (hbudget : ValidBudget budget) (hindex : (inputs.getD {}).index = .ok index) :
    advancePassing sha256 plan s inputs budget =
      advanceLoop sha256 plan index budget.toNat (configOf s) := by
  have hrange : ¬ (budget < 1 ∨ (maxAdvanceTransitions : ℤ) < budget) := by
    unfold ValidBudget at hbudget
    omega
  unfold advancePassing
  rw [hresumes]
  show (if s.status.terminal = true then _ else _) = _
  rw [hstatus, if_neg Bool.false_ne_true, raiseIf, if_neg hrange]
  show ((inputs.getD {}).index >>= fun index => _) = _
  rw [hindex]
  rfl

/-- One call of `advance`. -/
theorem advancePassing_of_ahead (hsha : ∀ payload, isSha256Text (sha256 payload) = true)
    (hplan : SoundPlan plan) (hfinal : final.cursor = plan.instructions.length)
    (hindex : inputs.index = .ok index) {n : ℕ} {passed : List String} {s : MacroRunState}
    (hahead : Ahead sha256 plan index final n passed s) (hstatus : s.status.terminal = false)
    {budget : ℤ} (hbudget : ValidBudget budget) :
    ∃ p₁ s', advancePassing sha256 plan s inputs budget = .ok (p₁, s') ∧
      ((s'.status = .completed ∧ p₁ = passed ∧ validateResume sha256 plan s' = .ok ()) ∨
        (s'.status = .held ∧ ∃ m p₂, m < n ∧ passed = p₁ ++ p₂ ∧
          Ahead sha256 plan index final m p₂ s')) := by
  obtain ⟨p₁, s', hloop, h⟩ := advanceLoop_of_moves hsha hplan hfinal budget.toNat hahead.sound
    hahead.moves
  refine ⟨p₁, s', ?_, ?_⟩
  · have hsupplied : ((some inputs).getD {}).index = .ok index := hindex
    rw [advancePassing_eq hahead.resumes hstatus hbudget hsupplied]
    exact hloop
  · have hpos : 0 < budget.toNat := by
      unfold ValidBudget at hbudget
      omega
    refine h.imp_right fun ⟨hheld, m, p₂, hm, hpassed, hahead'⟩ => ?_
    exact ⟨hheld, m, p₂, by omega, hpassed, hahead'⟩

/-- A state that is completed stays as it is. -/
theorem advances_of_terminal {s : MacroRunState} (hresumes : validateResume sha256 plan s = .ok ())
    (hstatus : s.status.terminal = true) (budgets : List ℤ) :
    advances sha256 plan inputs budgets s = .ok ([], s) := by
  induction budgets with
  | nil => rfl
  | cons budget budgets ih =>
      have hadvance : advancePassing sha256 plan s inputs budget = .ok ([], s) := by
        unfold advancePassing
        rw [hresumes]
        show (if s.status.terminal = true then _ else _) = _
        rw [if_pos hstatus]
        rfl
      unfold advances
      rw [hadvance]
      show (advances sha256 plan inputs budgets s >>= fun result => _) = _
      rw [ih]
      rfl

/-- However the budgets cut the run up, it passes what the moves pass, and it takes no more
calls than there are moves. SOURCE: macro_runner.py:359-450 -/
theorem advances_of_ahead (hsha : ∀ payload, isSha256Text (sha256 payload) = true)
    (hplan : SoundPlan plan) (hfinal : final.cursor = plan.instructions.length)
    (hindex : inputs.index = .ok index) (budgets : List ℤ)
    (hbudgets : ∀ budget ∈ budgets, ValidBudget budget) {n : ℕ} {passed : List String}
    {s : MacroRunState} (hahead : Ahead sha256 plan index final n passed s)
    (hstatus : s.status.terminal = false) :
    ∃ p₁ s', advances sha256 plan inputs budgets s = .ok (p₁, s') ∧
      ((s'.status = .completed ∧ p₁ = passed) ∨
        (s'.status ≠ .completed ∧ budgets.length ≤ n)) := by
  induction budgets generalizing n passed s with
  | nil =>
      refine ⟨[], s, rfl, .inr ⟨fun h => ?_, Nat.zero_le n⟩⟩
      rw [h] at hstatus
      cases hstatus
  | cons budget budgets ih =>
      obtain ⟨hbudget, hbudgets⟩ := List.forall_mem_cons.mp hbudgets
      obtain ⟨p₁, s', hadvance, h⟩ :=
        advancePassing_of_ahead hsha hplan hfinal hindex hahead hstatus hbudget
      have hunfold : advances sha256 plan inputs (budget :: budgets) s =
          advances sha256 plan inputs budgets s' >>= fun result =>
            .ok (p₁ ++ result.1, result.2) := by
        rw [advances, hadvance]
        rfl
      rw [hunfold]
      rcases h with ⟨hcompleted, rfl, hresumes⟩ | ⟨hheld, m, p₂, hm, rfl, hahead'⟩
      · have hterminal : s'.status.terminal = true := by
          rw [hcompleted]
          rfl
        rw [advances_of_terminal hresumes hterminal]
        exact ⟨_, s', rfl, .inl ⟨hcompleted, List.append_nil p₁⟩⟩
      · have hrunning : s'.status.terminal = false := by
          rw [hheld]
          rfl
        obtain ⟨p, final', hrun, h⟩ := ih hbudgets hahead' hrunning
        rw [hrun]
        refine ⟨p₁ ++ p, final', rfl, h.imp ?_ ?_⟩
        · intro hdone
          exact ⟨hdone.1, by rw [hdone.2]⟩
        · intro hopen
          refine ⟨hopen.1, ?_⟩
          rw [List.length_cons]
          omega

end Budgets

/-! ## The whole run -/

section Run

variable {sha256 : Json → String} {definition : MacroDefinition} {plan : MacroPlan}
  {index : ResolutionIndex} {inputs : RunnerInputs}

theorem eq_of_plan (h : MacroGraphPlanner.plan sha256 definition = .ok plan) :
    validate definition = .ok () ∧
      plan.instructions = emitSteps sha256 "root" definition.steps 0 0 ∧
      (∀ i ∈ plan.instructions, i.postInit = .ok ()) ∧ plan.postInit = .ok () := by
  unfold MacroGraphPlanner.plan at h
  obtain ⟨_, hvalidate, h⟩ := bind_eq_ok.mp h
  obtain ⟨_, hinstructions, h⟩ := bind_eq_ok.mp h
  obtain ⟨_, hplan, h⟩ := bind_eq_ok.mp h
  obtain rfl := Except.ok.inj h
  exact ⟨hvalidate, rfl, forM_eq_ok.mp hinstructions, hplan⟩

theorem legible_of_validate (h : validate definition = .ok ()) :
    ∀ s ∈ partsAll definition.steps, LegibleStep s := by
  unfold validate at h
  obtain ⟨_, _, h⟩ := ok_past_two h
  obtain ⟨count, hblock, -⟩ := bind_eq_ok.mp h
  exact legible_of_validateBlock definition.steps hblock

/-- A plan that the planner made is sound. -/
theorem soundPlan_of_plan (hsha : ∀ payload, isSha256Text (sha256 payload) = true)
    (h : MacroGraphPlanner.plan sha256 definition = .ok plan) : SoundPlan plan := by
  obtain ⟨-, hcode, hinstructions, hplan⟩ := eq_of_plan h
  unfold MacroPlan.postInit at hplan
  obtain ⟨_, -, hplan⟩ := bind_eq_ok.mp hplan
  obtain ⟨text, hid, hplan⟩ := bind_eq_ok.mp hplan
  obtain ⟨text', hversion, -⟩ := bind_eq_ok.mp hplan
  refine ⟨legible_of_requireText hid (by omega), ⟨legible_of_requireText hversion (by omega), ?_⟩,
    fun i hi => ?_, fun i hi => ?_⟩
  · unfold requireText at hversion
    obtain ⟨_, -, hversion⟩ := bind_eq_ok.mp hversion
    obtain ⟨_, hlength, -⟩ := bind_eq_ok.mp hversion
    rw [raiseIf_eq_ok] at hlength
    omega
  · obtain ⟨text, hpath, -⟩ := bind_eq_ok.mp (hinstructions i hi)
    exact legible_of_requireText hpath (by omega)
  · rw [hcode] at hi
    obtain ⟨s, -, hhash⟩ := exists_part_of_mem_emitSteps _ _ _ _ hi
    rw [hhash]
    exact hsha _

/-- The plan does what the counted reading of the definition's flow does, and leaves
nothing to do. -/
theorem exists_moves (hsha : ∀ payload, isSha256Text (sha256 payload) = true)
    (hplan : MacroGraphPlanner.plan sha256 definition = .ok plan)
    (hfree : CollisionFree sha256 definition.steps)
    (hresolves : resolves index sha256 "root" definition.steps 0 = true) :
    ∃ n final, Moves plan index n ⟨0, .empty, .empty, .empty, 0, none⟩
      (counteds (flows index sha256 "root" definition.steps 0) fun _ => 0).1 final ∧
      final.cursor = plan.instructions.length := by
  obtain ⟨hvalidate, hcode, -, -⟩ := eq_of_plan hplan
  have hlocated : Located plan 0 (emitSteps sha256 "root" definition.steps 0 0) :=
    ⟨[], [], by rw [hcode]; simp, rfl⟩
  have hsimulates := simulates_steps hfree hsha definition.steps
    (fun s hs => ⟨hs, legible_of_validate hvalidate s hs⟩) "root" 0 0 hlocated hresolves
  have hcounts : counts ⟨0, .empty, .empty, .empty, 0, none⟩ = fun _ => 0 := by
    funext ⟨kind, hash⟩
    cases kind <;> rfl
  obtain ⟨n, final, hmoves, hcursor, -⟩ := hsimulates ⟨0, .empty, .empty, .empty, 0, none⟩ rfl
  rw [hcounts] at hmoves
  refine ⟨n, final, hmoves, ?_⟩
  rw [hcursor, hcode, Nat.zero_add]

/-- MAIN: **a run passes what the structured meaning says exactly if no block is reached twice.**
Every run of an accepted definition whose resolutions fit is completed after finitely many calls of
`advance`, whatever their budgets; the paths it has passed by then are those of the structured
meaning if and only if no `LOOP` or `FOREACH` that passes anything is reached a second time, be it
from an enclosing block or at an identical step.
SOURCE: macro_runner.py:359-642, macro_graph.py:540-714 -/
theorem macro_follows_meaning_iff (hsha : ∀ payload, isSha256Text (sha256 payload) = true)
    (hplan : MacroGraphPlanner.plan sha256 definition = .ok plan)
    (hfree : CollisionFree sha256 definition.steps) (hindex : inputs.index = .ok index)
    (hresolves : resolves index sha256 "root" definition.steps 0 = true) :
    ∃ initial, start sha256 plan = .ok initial ∧
      (∃ calls, ∀ budgets : List ℤ, (∀ budget ∈ budgets, ValidBudget budget) →
        calls ≤ budgets.length → ∃ passed final,
          advances sha256 plan inputs budgets initial = .ok (passed, final) ∧
          final.status = .completed) ∧
      ∀ (budgets : List ℤ) (passed : List String) (final : MacroRunState),
        (∀ budget ∈ budgets, ValidBudget budget) →
        advances sha256 plan inputs budgets initial = .ok (passed, final) →
        final.status = .completed →
        (passed = meaning index "root" definition.steps 0 ↔
          (blocksReached index sha256 definition.steps).Nodup) := by
  have hsound := soundPlan_of_plan hsha hplan
  obtain ⟨n, final, hmoves, hfinal⟩ := exists_moves hsha hplan hfree hresolves
  have hinitial : Sound ⟨0, .empty, .empty, .empty, 0, none⟩ :=
    ⟨fun _ h => (nomatch h), fun _ h => (nomatch h), fun _ h => (nomatch h)⟩
  obtain ⟨initial, hstart, hready, hconfigOf, hresumes⟩ := exists_state hsha hsound hinitial
    (Nat.zero_le _) .ready "plan_ready" (by unfold Legible; decide) []
  have hahead : Ahead sha256 plan index final n _ initial :=
    ⟨hresumes, by rw [hconfigOf]; exact hinitial, by rw [hconfigOf]; exact hmoves⟩
  have hrunning : initial.status.terminal = false := by
    rw [hready]
    rfl
  have hruns := fun (budgets : List ℤ) (hbudgets : ∀ budget ∈ budgets, ValidBudget budget) =>
    advances_of_ahead hsha hsound hfinal hindex budgets hbudgets hahead hrunning
  refine ⟨initial, hstart, ⟨n + 1, fun budgets hbudgets hcalls => ?_⟩,
    fun budgets passed final' hbudgets hrun hcompleted => ?_⟩
  · obtain ⟨passed, final', hrun, h⟩ := hruns budgets hbudgets
    rcases h with ⟨hcompleted, -⟩ | ⟨-, hle⟩
    · exact ⟨passed, final', hrun, hcompleted⟩
    · omega
  · obtain ⟨passed', final'', hrun', h⟩ := hruns budgets hbudgets
    rw [hrun] at hrun'
    obtain ⟨rfl, rfl⟩ := Prod.mk.inj (Except.ok.inj hrun')
    rcases h with ⟨-, rfl⟩ | ⟨hopen, -⟩
    · exact counteds_eq_meaning_iff hfree
    · exact absurd hcompleted hopen

/-! ### A loop in a loop -/

/-- A digest that tells the two loops below and everything else apart. -/
def loopSha256 (payload : Json) : String :=
  match payload with
  | .obj fields =>
      if fieldText fields "loop_id" = "outer" then
        "aaaaaaaaaaaaaaaaaaaaaaaaaaaaaaaaaaaaaaaaaaaaaaaaaaaaaaaaaaaaaaaa"
      else if fieldText fields "loop_id" = "inner" then
        "bbbbbbbbbbbbbbbbbbbbbbbbbbbbbbbbbbbbbbbbbbbbbbbbbbbbbbbbbbbbbbbb"
      else "cccccccccccccccccccccccccccccccccccccccccccccccccccccccccccccccc"
  | _ => "dddddddddddddddddddddddddddddddddddddddddddddddddddddddddddddddd"

theorem isSha256Text_loopSha256 (payload : Json) : isSha256Text (loopSha256 payload) = true := by
  unfold loopSha256
  split
  · split
    · decide
    · split <;> decide
  · decide

/-- A checkpoint, twice in a loop that is itself run twice. -/
def loopInLoop : MacroDefinition where
  macroId := "macro.loop"
  macroVersion := "1.0.0"
  steps := [.loopStep "outer" 2 [.loopStep "inner" 2 [.checkpointStep "mark"]]]

/-- Its plan. -/
def loopInLoopPlan : MacroPlan where
  macroId := "macro.loop"
  macroVersion := "1.0.0"
  definitionSha256 := loopInLoop.definitionSha256 loopSha256
  instructions := emitSteps loopSha256 "root" loopInLoop.steps 0 0

theorem plan_loopInLoop : MacroGraphPlanner.plan loopSha256 loopInLoop = .ok loopInLoopPlan := by
  have hvalidate : validate loopInLoop = .ok () := rfl
  have hcode : loopInLoopPlan.instructions.forM (·.postInit) = .ok () := rfl
  have hplan : loopInLoopPlan.postInit = .ok () := rfl
  show (validate loopInLoop >>= fun _ => loopInLoopPlan.instructions.forM (·.postInit) >>= fun _ =>
    loopInLoopPlan.postInit >>= fun _ => Except.ok loopInLoopPlan) = _
  rw [hvalidate, hcode, hplan]
  rfl

theorem collisionFree_loopInLoop : CollisionFree loopSha256 loopInLoop.steps := by
  have hparts : partsAll loopInLoop.steps =
      [.loopStep "outer" 2 [.loopStep "inner" 2 [.checkpointStep "mark"]],
        .loopStep "inner" 2 [.checkpointStep "mark"], .checkpointStep "mark"] := rfl
  intro s hs s' hs' h
  rw [hparts] at hs hs'
  simp only [List.mem_cons, List.not_mem_nil, or_false] at hs hs'
  rcases hs with rfl | rfl | rfl <;> rcases hs' with rfl | rfl | rfl <;>
    first | rfl | exact absurd h (by decide)

/-- The checkpoint succeeds. -/
def checkpointInputs : RunnerInputs where
  checkpoints := [⟨"root.0.body.0.body.0", "mark", .succeeded, "receipt"⟩]

/-- The dictionaries that `advance` makes of this. -/
def checkpointIndex : ResolutionIndex where
  conditions := .empty
  operations := .empty
  approvals := .empty
  calls := .empty
  checkpoints := Dict.empty.set "root.0.body.0.body.0"
    ⟨"root.0.body.0.body.0", "mark", .succeeded, "receipt"⟩
  collections := .empty

theorem macro_follows_meaning_iff_loopInLoop :
    ∃ initial, start loopSha256 loopInLoopPlan = .ok initial ∧
      (∃ calls, ∀ budgets : List ℤ, (∀ budget ∈ budgets, ValidBudget budget) →
        calls ≤ budgets.length → ∃ passed final,
          advances loopSha256 loopInLoopPlan checkpointInputs budgets initial =
            .ok (passed, final) ∧ final.status = .completed) ∧
      ∀ (budgets : List ℤ) (passed : List String) (final : MacroRunState),
        (∀ budget ∈ budgets, ValidBudget budget) →
        advances loopSha256 loopInLoopPlan checkpointInputs budgets initial = .ok (passed, final) →
        final.status = .completed →
        (passed = meaning checkpointIndex "root" loopInLoop.steps 0 ↔
          (blocksReached checkpointIndex loopSha256 loopInLoop.steps).Nodup) :=
  macro_follows_meaning_iff isSha256Text_loopSha256 plan_loopInLoop collisionFree_loopInLoop rfl rfl

/-- The inner loop is run out in the first turn of the outer loop and skipped in the second: the
checkpoint is passed twice instead of four times. -/
theorem loop_in_loop_not_rerun :
    MacroGraphPlanner.plan loopSha256 loopInLoop = .ok loopInLoopPlan ∧
      checkpointInputs.index = .ok checkpointIndex ∧
      resolves checkpointIndex loopSha256 "root" loopInLoop.steps 0 = true ∧
      (∃ initial final, start loopSha256 loopInLoopPlan = .ok initial ∧
        advances loopSha256 loopInLoopPlan checkpointInputs [100] initial =
          .ok (["root.0.body.0.body.0", "root.0.body.0.body.0"], final) ∧
        final.status = .completed) ∧
      meaning checkpointIndex "root" loopInLoop.steps 0 =
        ["root.0.body.0.body.0", "root.0.body.0.body.0", "root.0.body.0.body.0",
          "root.0.body.0.body.0"] :=
  ⟨plan_loopInLoop, rfl, rfl, ⟨_, _, rfl, rfl, rfl⟩, rfl⟩

end Run

end PhiOS.Analysis
