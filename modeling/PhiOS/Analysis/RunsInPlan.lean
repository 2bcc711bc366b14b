import PhiOS.Analysis.SplitAdvances

/-!
# Runs stay inside their plan

`advance` and `abort` refuse a state that is not one of their plan. Whatever the resolutions, the
budgets and the aborts are, a run of a plan never comes to such a state: its cursor stays inside the
plan, also where a jump sets it, it carries no authority, it is completed at the end of the plan
only, and no call of `advance` makes more transitions than it was given.
-/

set_option autoImplicit false

namespace PhiOS.Analysis

open KeyOrder MacroRunner

/-- The states that calls lead to from the start of a plan. -/
inductive RunReaches (sha256 : Json → String) (plan : MacroPlan) : MacroRunState → Prop
  | start {s : MacroRunState} (h : start sha256 plan = .ok s) : RunReaches sha256 plan s
  | advance {s s' : MacroRunState} (run : RunReaches sha256 plan s)
      (inputs : Option RunnerInputs) (budget : ℤ)
      (h : advance sha256 plan s inputs budget = .ok s') : RunReaches sha256 plan s'
  | abort {s s' : MacroRunState} (run : RunReaches sha256 plan s) (reason : String)
      (h : abort sha256 plan s reason = .ok s') : RunReaches sha256 plan s'

/-- A state that the next call accepts, without authority, and completed at the end only. -/
structure InPlan (sha256 : Json → String) (plan : MacroPlan) (s : MacroRunState) : Prop where
  resumes : validateResume sha256 plan s = .ok ()
  valid : s.postInit = .ok ()
  finished : s.status = .completed → s.cursor = plan.instructions.length

section InPlan

variable {sha256 : Json → String} {plan : MacroPlan} {index : ResolutionIndex} {config : Config}
  {instruction : PlanInstruction} {s s' : MacroRunState} {status : RunnerStatus} {reason : String}
  {waitingOn : List (String × Json)} {passed : List String}

theorem inPlan_of_state (h : state sha256 plan config status reason waitingOn = .ok s)
    (hcursor : config.cursor ≤ plan.instructions.length)
    (hend : status = .completed → config.cursor = plan.instructions.length) :
    InPlan sha256 plan s ∧ s.transitions = config.transitions := by
  obtain ⟨⟨⟩, hvalid, h⟩ := bind_eq_ok.mp h
  rw [← Except.ok.inj h]
  refine ⟨⟨?_, hvalid, hend⟩, rfl⟩
  have hwithin : ¬ plan.instructions.length < config.cursor := by omega
  simp [validateResume, raiseIf, hwithin, bind, Except.bind]

/-- What an instruction may come to at a position. -/
def StaysIn (plan : MacroPlan) (config : Config) : Passage → Prop
  | .moved next =>
      next.cursor ≤ plan.instructions.length ∧ next.transitions = config.transitions
  | .returned status _ _ => status ≠ .completed

/-- Every value of a computation has a property. -/
def Gives {α : Type} (P : α → Prop) (x : Except PyError α) : Prop := ∀ a, x = .ok a → P a

theorem gives_ok {α : Type} {P : α → Prop} {a : α} (h : P a) : Gives P (.ok a) := by
  rintro _ ⟨⟩
  exact h

theorem gives_bind {α β : Type} {P : β → Prop} {x : Except PyError α} {f : α → Except PyError β}
    (h : ∀ a, x = .ok a → Gives P (f a)) : Gives P (x >>= f) := by
  intro b hb
  obtain ⟨a, ha, hb⟩ := bind_eq_ok.mp hb
  exact h a ha b hb

theorem findForward_lt {opcode : PlanOpcode} {hash : String} {found : ℕ}
    (h : findForward plan config.cursor opcode hash = .ok found) :
    found < plan.instructions.length := by
  unfold findForward at h
  split at h
  · rename_i offset hoffset
    rw [← Except.ok.inj h]
    have hlt := (List.findIdx?_eq_some_iff_getElem.mp hoffset).1
    rw [List.length_drop] at hlt
    omega
  · cases h

theorem findBackward_le {opcode : PlanOpcode} {hash : String} {found : ℕ}
    (h : findBackward plan config.cursor opcode hash = .ok found) : found ≤ config.cursor := by
  unfold findBackward at h
  split at h
  · rw [← Except.ok.inj h]
    omega
  · cases h

/-- An instruction leads to a position in the plan, or to a state that is not completed.
SOURCE: macro_runner.py:450-795 -/
theorem keeps_of_pass (hlt : config.cursor < plan.instructions.length) :
    Gives (StaysIn plan config) (passInstruction plan index config instruction) := by
  have hjump : ∀ {next : Config}, next.cursor ≤ plan.instructions.length →
      next.transitions = config.transitions →
      Gives (StaysIn plan config) (.ok (.moved next)) := fun h h' => gives_ok ⟨h, h'⟩
  have hreturn : ∀ {status : RunnerStatus} {reason : String} {extra : List (String × Json)},
      status ≠ .completed → Gives (StaysIn plan config) (.ok (.returned status reason extra)) :=
    fun h => gives_ok h
  have hresolution : ∀ (result : ResolutionStatus) (held failed : String),
      Gives (StaysIn plan config) (.ok (resolutionBoundary config result held failed)) := by
    intro result held failed
    cases result with
    | succeeded => exact hjump hlt rfl
    | held => exact hreturn nofun
    | failed => exact hreturn nofun
  unfold passInstruction
  split
  case h_1 =>
    split
    · exact hreturn nofun
    · apply gives_bind
      intro expected _
      split
      · exact hreturn nofun
      · exact hresolution _ _ _
  case h_2 =>
    apply gives_bind
    intro conditionId _
    split
    · exact hreturn nofun
    · split
      · exact hjump hlt rfl
      · apply gives_bind
        intro elseIndex helse
        exact hjump (findForward_lt helse) rfl
  case h_3 =>
    apply gives_bind
    intro endIndex hend
    exact hjump (findForward_lt hend) rfl
  case h_4 => exact hjump hlt rfl
  case h_5 =>
    apply gives_bind
    intro maximum _
    split
    · apply gives_bind
      intro endIndex hend
      exact hjump (findForward_lt hend) rfl
    · exact hjump hlt rfl
  case h_6 =>
    apply gives_bind
    intro beginIndex hbegin
    exact hjump ((findBackward_le hbegin).trans hlt.le) rfl
  case h_7 =>
    apply gives_bind
    intro collectionRef _
    apply gives_bind
    intro itemName _
    apply gives_bind
    intro maximum _
    split
    · exact hreturn nofun
    · split
      · exact hreturn nofun
      · split
        · apply gives_bind
          intro endIndex hend
          exact hjump (findForward_lt hend) rfl
        · exact hjump hlt rfl
  case h_8 =>
    apply gives_bind
    intro beginIndex hbegin
    exact hjump ((findBackward_le hbegin).trans hlt.le) rfl
  case h_9 =>
    split
    · exact hreturn nofun
    · apply gives_bind
      intro macroId _
      apply gives_bind
      intro macroVersion _
      apply gives_bind
      intro arguments _
      split
      · exact hreturn nofun
      · exact hresolution _ _ _
  case h_10 =>
    split
    · exact hreturn nofun
    · apply gives_bind
      intro label _
      split
      · exact hreturn nofun
      · exact hresolution _ _ _
  case h_11 =>
    apply gives_bind
    intro barrierId _
    split
    · exact hreturn nofun
    · apply gives_bind
      intro required _
      split
      · exact hreturn nofun
      · split
        · exact hreturn nofun
        · exact hjump hlt rfl

theorem inPlan_of_end {remaining : ℕ} (hat : plan.instructions[config.cursor]? = none)
    (hcursor : config.cursor ≤ plan.instructions.length)
    (h : advanceLoop sha256 plan index remaining config = .ok (passed, s)) :
    InPlan sha256 plan s ∧ s.transitions = config.transitions := by
  rw [advanceLoop_of_end remaining hat] at h
  obtain ⟨final, hstate, h⟩ := bind_eq_ok.mp h
  rw [← (Prod.mk.inj (Except.ok.inj h)).2]
  exact inPlan_of_state hstate hcursor fun _ =>
    le_antisymm hcursor (List.getElem?_eq_none_iff.mp hat)

/-- The loop of `advance` stays in the plan, and within what is left of the budget.
SOURCE: macro_runner.py:418-795 -/
theorem inPlan_of_loop (remaining : ℕ) (hcursor : config.cursor ≤ plan.instructions.length)
    (h : advanceLoop sha256 plan index remaining config = .ok (passed, s)) :
    InPlan sha256 plan s ∧ config.transitions ≤ s.transitions ∧
      s.transitions ≤ config.transitions + remaining := by
  induction remaining generalizing config passed s with
  | zero =>
      cases hat : plan.instructions[config.cursor]? with
      | none =>
          obtain ⟨hin, hspent⟩ := inPlan_of_end hat hcursor h
          exact ⟨hin, by omega, by omega⟩
      | some instruction =>
          rw [advanceLoop_of_spent hat] at h
          obtain ⟨final, hstate, h⟩ := bind_eq_ok.mp h
          obtain ⟨hin, hspent⟩ := inPlan_of_state hstate hcursor nofun
          rw [← (Prod.mk.inj (Except.ok.inj h)).2]
          exact ⟨hin, by omega, by omega⟩
  | succ remaining ih =>
      cases hat : plan.instructions[config.cursor]? with
      | none =>
          obtain ⟨hin, hspent⟩ := inPlan_of_end hat hcursor h
          exact ⟨hin, by omega, by omega⟩
      | some instruction =>
          have hlt : (noted config instruction).cursor < plan.instructions.length :=
            (List.getElem?_eq_some_iff.mp hat).1
          have hcounted : (noted config instruction).transitions = config.transitions + 1 := rfl
          rw [advanceLoop_succ remaining hat] at h
          obtain ⟨passage, hpass, h⟩ := bind_eq_ok.mp h
          have hkeeps := keeps_of_pass hlt passage hpass
          cases passage with
          | moved next =>
              obtain ⟨⟨rest, final⟩, hrest, h⟩ := bind_eq_ok.mp h
              have hfinal : final = s := (Prod.mk.inj (Except.ok.inj h)).2
              obtain ⟨hin, hlow, hhigh⟩ := ih hkeeps.1 hrest
              rw [hfinal] at hin hlow hhigh
              have hspent := hkeeps.2
              exact ⟨hin, by omega, by omega⟩
          | returned status reason extra =>
              obtain ⟨final, hstate, h⟩ := bind_eq_ok.mp h
              obtain ⟨hin, hspent⟩ := inPlan_of_state hstate hlt.le fun hdone => absurd hdone hkeeps
              rw [← (Prod.mk.inj (Except.ok.inj h)).2]
              exact ⟨hin, by omega, by omega⟩

theorem cursor_le_of_resumes (h : validateResume sha256 plan s = .ok ()) :
    s.cursor ≤ plan.instructions.length := by
  obtain ⟨_, -, h⟩ := bind_eq_ok.mp h
  obtain ⟨_, -, h⟩ := bind_eq_ok.mp h
  exact Nat.le_of_not_lt (raiseIf_eq_ok.mp h)

theorem inPlan_of_advance {inputs : Option RunnerInputs} {budget : ℤ} (hin : InPlan sha256 plan s)
    (h : advance sha256 plan s inputs budget = .ok s') :
    InPlan sha256 plan s' ∧ s.transitions ≤ s'.transitions ∧
      s'.transitions ≤ s.transitions + budget.toNat := by
  obtain ⟨⟨passed, final⟩, hpassing, h⟩ := bind_eq_ok.mp h
  rw [← Except.ok.inj h]
  obtain ⟨_, -, hpassing⟩ := bind_eq_ok.mp hpassing
  split at hpassing
  · rw [← (Prod.mk.inj (Except.ok.inj hpassing)).2]
    exact ⟨hin, le_refl _, Nat.le_add_right _ _⟩
  · obtain ⟨_, -, hpassing⟩ := bind_eq_ok.mp hpassing
    obtain ⟨index, -, hloop⟩ := bind_eq_ok.mp hpassing
    exact inPlan_of_loop budget.toNat (cursor_le_of_resumes hin.resumes) hloop

theorem RunReaches.inPlan (h : RunReaches sha256 plan s) : InPlan sha256 plan s := by
  induction h with
  | start h => exact (inPlan_of_state h (Nat.zero_le _) nofun).1
  | advance _ inputs budget h ih => exact (inPlan_of_advance ih h).1
  | abort _ reason h ih =>
      obtain ⟨_, -, h⟩ := bind_eq_ok.mp h
      obtain ⟨text, -, h⟩ := bind_eq_ok.mp h
      exact (inPlan_of_state h (cursor_le_of_resumes ih.resumes) nofun).1

/-- MAIN: **a run stays inside its plan.** Every state that calls of `advance` and `abort` lead to
from the start of a plan, with any resolutions and budgets, is one that the next call accepts, and is
completed at the end of the plan only. A call of `advance` makes no more transitions than its budget.
SOURCE: macro_runner.py:323-795 -/
theorem run_stays_in_plan (hrun : RunReaches sha256 plan s) :
    InPlan sha256 plan s ∧ ∀ inputs budget s', advance sha256 plan s inputs budget = .ok s' →
      s.transitions ≤ s'.transitions ∧ s'.transitions ≤ s.transitions + budget.toNat :=
  ⟨hrun.inPlan, fun _ _ _ h => (inPlan_of_advance hrun.inPlan h).2⟩

end InPlan

/-- WITNESS: A loop in a loop, stopped after three transitions. -/
theorem run_stays_in_plan_loopInLoop : ∃ mid,
    RunReaches loopSha256 loopInLoopPlan mid ∧ mid.transitions = 3 ∧
      InPlan loopSha256 loopInLoopPlan mid := by
  obtain ⟨initial, mid, hinitial, hmid, hspent⟩ :
      ∃ initial mid, start loopSha256 loopInLoopPlan = .ok initial ∧
        advance loopSha256 loopInLoopPlan initial checkpointInputs 3 = .ok mid ∧
          mid.transitions = 3 := ⟨_, _, rfl, rfl, rfl⟩
  have hrun : RunReaches loopSha256 loopInLoopPlan mid := .advance (.start hinitial) _ _ hmid
  exact ⟨mid, hrun, hspent, (run_stays_in_plan hrun).1⟩

end PhiOS.Analysis
