import PhiOS.Analysis.MacroRuns

/-!
# An advance in two parts

`advance` stops when its transition budget is used up, and its state keeps the position of the loop:
cursor, counters, variables, transitions and last path. The next call reads that position back and
goes on there, so a run with the two budgets one after the other is a run with their sum.
-/

set_option autoImplicit false

namespace PhiOS.Analysis

open KeyOrder MacroRunner

/-- `advance` has stopped because the budget is used up. -/
def OutOfBudget (state : MacroRunState) : Prop :=
  state.status = .held ∧ state.reason = "advance_transition_budget_exhausted"

section Split

variable {sha256 : Json → String} {plan : MacroPlan} {index : ResolutionIndex}
  {inputs : Option RunnerInputs} {config : Config} {instruction : PlanInstruction}
  {s mid final : MacroRunState} {status : RunnerStatus} {reason : String}
  {waitingOn extra : List (String × Json)} {passed : List String}

theorem eq_of_state (h : state sha256 plan config status reason waitingOn = .ok s) :
    s.status = status ∧ s.reason = reason ∧ s.macroId = plan.macroId ∧
      s.macroVersion = plan.macroVersion ∧ s.planSha256 = plan.planSha256 sha256 ∧
        s.cursor = config.cursor := by
  obtain ⟨⟨⟩, -, h⟩ := bind_eq_ok.mp h
  have hs := Except.ok.inj h
  rw [← hs]
  exact ⟨rfl, rfl, rfl, rfl, rfl, rfl⟩

theorem configOf_of_state (h : state sha256 plan config status reason waitingOn = .ok s) :
    configOf s = config := by
  obtain ⟨⟨⟩, -, h⟩ := bind_eq_ok.mp h
  have hs := Except.ok.inj h
  rw [← hs]
  simp only [configOf, Dict.ofPairs_entries]

/-- No instruction stops the run with the reason of a used up budget.
SOURCE: macro_runner.py:450-642 -/
theorem reason_of_pass
    (h : passInstruction plan index config instruction = .ok (.returned status reason extra)) :
    reason ≠ "advance_transition_budget_exhausted" := by
  have hreturned : ∀ {status' : RunnerStatus} {reason' : String} {extra' : List (String × Json)},
      reason' ≠ "advance_transition_budget_exhausted" →
      (.ok (.returned status' reason' extra') : Except PyError Passage) =
        .ok (.returned status reason extra) → reason ≠ "advance_transition_budget_exhausted" := by
    intro status' reason' extra' hne heq
    have hsame := Except.ok.inj heq
    injection hsame with _ hreason _
    rw [← hreason]
    exact hne
  have hresolution : ∀ {result : ResolutionStatus} {heldReason failedReason : String},
      heldReason ≠ "advance_transition_budget_exhausted" →
      failedReason ≠ "advance_transition_budget_exhausted" →
      (.ok (resolutionBoundary config result heldReason failedReason) : Except PyError Passage) =
        .ok (.returned status reason extra) → reason ≠ "advance_transition_budget_exhausted" := by
    intro result heldReason failedReason hheld hfailed heq
    cases result with
    | succeeded => cases heq
    | held => exact hreturned hheld heq
    | failed => exact hreturned hfailed heq
  unfold passInstruction at h
  split at h
  case h_1 =>
    split at h
    · exact hreturned (by decide) h
    · obtain ⟨expected, -, h⟩ := bind_eq_ok.mp h
      split at h
      · exact hreturned (by decide) h
      · exact hresolution (by decide) (by decide) h
  case h_2 =>
    obtain ⟨conditionId, -, h⟩ := bind_eq_ok.mp h
    split at h
    · exact hreturned (by decide) h
    · split at h
      · cases h
      · obtain ⟨elseIndex, -, h⟩ := bind_eq_ok.mp h
        cases h
  case h_3 =>
    obtain ⟨endIndex, -, h⟩ := bind_eq_ok.mp h
    cases h
  case h_4 => cases h
  case h_5 =>
    obtain ⟨maximum, -, h⟩ := bind_eq_ok.mp h
    split at h
    · obtain ⟨endIndex, -, h⟩ := bind_eq_ok.mp h
      cases h
    · cases h
  case h_6 =>
    obtain ⟨beginIndex, -, h⟩ := bind_eq_ok.mp h
    cases h
  case h_7 =>
    obtain ⟨collectionRef, -, h⟩ := bind_eq_ok.mp h
    obtain ⟨itemName, -, h⟩ := bind_eq_ok.mp h
    obtain ⟨maximum, -, h⟩ := bind_eq_ok.mp h
    split at h
    · exact hreturned (by decide) h
    · split at h
      · exact hreturned (by decide) h
      · split at h
        · obtain ⟨endIndex, -, h⟩ := bind_eq_ok.mp h
          cases h
        · cases h
  case h_8 =>
    obtain ⟨beginIndex, -, h⟩ := bind_eq_ok.mp h
    cases h
  case h_9 =>
    split at h
    · exact hreturned (by decide) h
    · obtain ⟨macroId, -, h⟩ := bind_eq_ok.mp h
      obtain ⟨macroVersion, -, h⟩ := bind_eq_ok.mp h
      obtain ⟨argumentsSha256, -, h⟩ := bind_eq_ok.mp h
      split at h
      · exact hreturned (by decide) h
      · exact hresolution (by decide) (by decide) h
  case h_10 =>
    split at h
    · exact hreturned (by decide) h
    · obtain ⟨label, -, h⟩ := bind_eq_ok.mp h
      split at h
      · exact hreturned (by decide) h
      · exact hresolution (by decide) (by decide) h
  case h_11 =>
    obtain ⟨barrierId, -, h⟩ := bind_eq_ok.mp h
    split at h
    · exact hreturned (by decide) h
    · obtain ⟨required, -, h⟩ := bind_eq_ok.mp h
      split at h
      · exact hreturned (by decide) h
      · split at h
        · exact hreturned (by decide) h
        · cases h

theorem advanceLoop_of_end (remaining : ℕ) (hat : plan.instructions[config.cursor]? = none) :
    advanceLoop sha256 plan index remaining config =
      (state sha256 plan config .completed "plan_completed" [] >>= fun s => .ok ([], s)) := by
  rw [advanceLoop, hat]
  rfl

theorem not_outOfBudget_of_end (remaining : ℕ)
    (hat : plan.instructions[config.cursor]? = none)
    (hloop : advanceLoop sha256 plan index remaining config = .ok (passed, mid)) :
    ¬OutOfBudget mid := by
  intro hout
  rw [advanceLoop_of_end remaining hat] at hloop
  obtain ⟨s, hstate, hs⟩ := bind_eq_ok.mp hloop
  obtain ⟨rfl, rfl⟩ := Prod.mk.inj (Except.ok.inj hs)
  have hreason := (eq_of_state hstate).2.1
  rw [hout.2] at hreason
  exact absurd hreason (by decide)

theorem advanceLoop_of_spent (hat : plan.instructions[config.cursor]? = some instruction) :
    advanceLoop sha256 plan index 0 config =
      (state sha256 plan config .held "advance_transition_budget_exhausted"
        [("cursor", .int config.cursor)] >>= fun s => .ok ([], s)) := by
  rw [advanceLoop, hat]
  rfl

theorem advanceLoop_succ (remaining : ℕ)
    (hat : plan.instructions[config.cursor]? = some instruction) :
    advanceLoop sha256 plan index (remaining + 1) config =
      (passInstruction plan index (noted config instruction) instruction >>= fun passage =>
        match passage with
        | .moved next =>
            advanceLoop sha256 plan index remaining next >>= fun result =>
              .ok (passedPath instruction ++ result.1, result.2)
        | .returned status reason extra =>
            state sha256 plan (noted config instruction) status reason
              ([("instruction_path", Json.str instruction.path),
                ("opcode", .str instruction.opcode.value)] ++ extra) >>= fun s => .ok ([], s)) := by
  rw [advanceLoop, hat]
  rfl

/-- The loop stopped by its budget: the state it returns is accepted again, and the loop
with a larger budget goes on from the position in that state. SOURCE: macro_runner.py:417-450 -/
theorem advanceLoop_split (m n : ℕ)
    (hloop : advanceLoop sha256 plan index m config = .ok (passed, mid)) (hout : OutOfBudget mid) :
    validateResume sha256 plan mid = .ok () ∧
      advanceLoop sha256 plan index (m + n) config =
        (advanceLoop sha256 plan index n (configOf mid) >>= fun result =>
          .ok (passed ++ result.1, result.2)) := by
  induction m generalizing config passed with
  | zero =>
      cases hat : plan.instructions[config.cursor]? with
      | none =>
          exact absurd hout (not_outOfBudget_of_end 0 hat hloop)
      | some instruction =>
          rw [advanceLoop_of_spent hat] at hloop
          obtain ⟨s, hstate, hs⟩ := bind_eq_ok.mp hloop
          obtain ⟨rfl, rfl⟩ := Prod.mk.inj (Except.ok.inj hs)
          obtain ⟨-, -, hid, hversion, hplan, hcursor⟩ := eq_of_state hstate
          have hlt : config.cursor < plan.instructions.length := (List.getElem?_eq_some_iff.mp hat).1
          constructor
          · unfold validateResume
            simp only [hid, hversion, hplan, hcursor, ne_eq, not_true_eq_false, or_self,
              Nat.not_lt.mpr (Nat.le_of_lt hlt), raiseIf, if_false]
            rfl
          · rw [configOf_of_state hstate, Nat.zero_add]
            cases advanceLoop sha256 plan index n config with
            | error e => rfl
            | ok result => rfl
  | succ m ih =>
      cases hat : plan.instructions[config.cursor]? with
      | none =>
          exact absurd hout (not_outOfBudget_of_end (m + 1) hat hloop)
      | some instruction =>
          rw [advanceLoop_succ m hat] at hloop
          obtain ⟨passage, hpass, hloop⟩ := bind_eq_ok.mp hloop
          cases passage with
          | moved next =>
              obtain ⟨⟨rest, s⟩, hrest, hs⟩ := bind_eq_ok.mp hloop
              have hpaths : passedPath instruction ++ rest = passed :=
                congrArg Prod.fst (Except.ok.inj hs)
              have hfinal : s = mid := congrArg Prod.snd (Except.ok.inj hs)
              rw [hfinal] at hrest
              obtain ⟨hresume, hsplit⟩ := ih hrest
              refine ⟨hresume, ?_⟩
              rw [Nat.add_right_comm, advanceLoop_succ (m + n) hat, hpass]
              show (advanceLoop sha256 plan index (m + n) next >>= fun result => _) = _
              rw [hsplit]
              cases advanceLoop sha256 plan index n (configOf mid) with
              | error e => rfl
              | ok result =>
                  show Except.ok (passedPath instruction ++ (rest ++ result.1), result.2) =
                    Except.ok (passed ++ result.1, result.2)
                  rw [← hpaths, List.append_assoc]
          | returned status reason extra =>
              obtain ⟨s, hstate, hs⟩ := bind_eq_ok.mp hloop
              obtain ⟨rfl, rfl⟩ := Prod.mk.inj (Except.ok.inj hs)
              have hreason := (eq_of_state hstate).2.1
              rw [hout.2] at hreason
              exact absurd hreason.symm (reason_of_pass hpass)

/-- A call of `advance` that ran its loop. -/
theorem loop_of_advancePassing {budget : ℤ} (hopen : mid.status.terminal = false)
    (h : advancePassing sha256 plan s inputs budget = .ok (passed, mid)) :
    validateResume sha256 plan s = .ok () ∧ s.status.terminal = false ∧
      ∃ index, (inputs.getD {}).index = .ok index ∧
        advanceLoop sha256 plan index budget.toNat (configOf s) = .ok (passed, mid) := by
  unfold advancePassing at h
  obtain ⟨⟨⟩, hresume, h⟩ := bind_eq_ok.mp h
  by_cases hterminal : s.status.terminal = true
  · rw [if_pos hterminal] at h
    have hsame : s = mid := congrArg Prod.snd (Except.ok.inj h)
    rw [hsame, hopen] at hterminal
    cases hterminal
  · rw [if_neg hterminal] at h
    obtain ⟨⟨⟩, -, h⟩ := bind_eq_ok.mp h
    obtain ⟨index, hindex, hloop⟩ := bind_eq_ok.mp h
    exact ⟨hresume, Bool.eq_false_iff.mpr hterminal, index, hindex, hloop⟩

/-- MAIN: **splitting an advance changes nothing.** When `advance` with the budget `m` stops because
it is used up, the state it returns advances with the same inputs and the budget `n` to what the
first state advances to with the budget `m + n`: to the same state, or the same error.
SOURCE: macro_runner.py:359-642 -/
theorem advance_in_two_parts {m n : ℤ} (hm : 1 ≤ m) (hn : 1 ≤ n)
    (hlimit : m + n ≤ maxAdvanceTransitions)
    (hadvance : advance sha256 plan s inputs m = .ok mid) (hout : OutOfBudget mid) :
    advance sha256 plan mid inputs n = advance sha256 plan s inputs (m + n) := by
  obtain ⟨⟨passed, mid'⟩, hpassing, hmid⟩ := bind_eq_ok.mp hadvance
  have hsame : mid' = mid := Except.ok.inj hmid
  rw [hsame] at hpassing
  have hopen : mid.status.terminal = false := by
    rw [hout.1]
    rfl
  obtain ⟨hresume, hstatus, index, hindex, hloop⟩ := loop_of_advancePassing hopen hpassing
  obtain ⟨hagain, hsplit⟩ := advanceLoop_split m.toNat n.toNat hloop hout
  have hsum : (m + n).toNat = m.toNat + n.toNat := by omega
  unfold advance
  rw [advancePassing_eq hagain hopen ⟨hn, by omega⟩ hindex,
    advancePassing_eq hresume hstatus ⟨by omega, hlimit⟩ hindex, hsum, hsplit]
  cases advanceLoop sha256 plan index n.toNat (configOf mid) with
  | error e => rfl
  | ok result => rfl

end Split

/-- WITNESS: a loop in a loop, stopped after three transitions and after five more. -/
theorem advance_in_two_parts_loopInLoop :
    ∃ initial mid, start loopSha256 loopInLoopPlan = .ok initial ∧
      advance loopSha256 loopInLoopPlan initial checkpointInputs 3 = .ok mid ∧ OutOfBudget mid ∧
        advance loopSha256 loopInLoopPlan mid checkpointInputs 5 =
          advance loopSha256 loopInLoopPlan initial checkpointInputs 8 := by
  obtain ⟨initial, mid, hinitial, hmid, hout⟩ :
      ∃ initial mid, start loopSha256 loopInLoopPlan = .ok initial ∧
        advance loopSha256 loopInLoopPlan initial checkpointInputs 3 = .ok mid ∧ OutOfBudget mid :=
    ⟨_, _, rfl, rfl, rfl, rfl⟩
  exact ⟨initial, mid, hinitial, hmid, hout,
    advance_in_two_parts (by decide) (by decide) (by decide) hmid hout⟩

end PhiOS.Analysis
