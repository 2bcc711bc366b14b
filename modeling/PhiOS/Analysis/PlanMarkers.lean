import PhiOS.Analysis.PlanPaths
import PhiOS.Analysis.MacroRuns

/-!
# The markers of a compiled plan

A marker of a plan carries the digest of its step, which identical steps share, and the runner
looks for the nearest marker with that digest. Between the markers of one step stand only the
markers of the steps nested in it. These are smaller, so they have other digests, and the nearest
marker is the one of the same step.
-/

set_option autoImplicit false

namespace PhiOS.Analysis

open MacroRunner MacroGraphPlanner

/-! ## Brackets -/

/-- The begin and the end marker of the steps that are repeated. -/
def IsLoopPair (beginOpcode endOpcode : PlanOpcode) : Prop :=
  beginOpcode = .loopBegin ∧ endOpcode = .loopEnd ∨
    beginOpcode = .forEachBegin ∧ endOpcode = .forEachEnd

/-- The markers are properly nested brackets, and the markers of one bracket are those of the step
with the path of its begin marker. -/
inductive BracketWord : List PlanInstruction → Prop
  | nil : BracketWord []
  | boundary {i : PlanInstruction} {rest : List PlanInstruction}
      (hboundary : i.opcode.isBoundary = true) (hrest : BracketWord rest) : BracketWord (i :: rest)
  | conditional {beginMarker elseMarker endMarker : PlanInstruction}
      {thenCode elseCode rest : List PlanInstruction}
      (hopcodes : beginMarker.opcode = .ifBegin ∧ elseMarker.opcode = .elseOp ∧
        endMarker.opcode = .ifEnd)
      (helsePath : elseMarker.path = beginMarker.path ++ ".else")
      (hendPath : endMarker.path = beginMarker.path ++ ".end")
      (hthen : BracketWord thenCode) (helse : BracketWord elseCode) (hrest : BracketWord rest) :
      BracketWord (beginMarker :: thenCode ++ elseMarker :: elseCode ++ endMarker :: rest)
  | repeated {beginMarker endMarker : PlanInstruction} {code rest : List PlanInstruction}
      (hopcodes : IsLoopPair beginMarker.opcode endMarker.opcode)
      (hendPath : endMarker.path = beginMarker.path ++ ".end")
      (hcode : BracketWord code) (hrest : BracketWord rest) :
      BracketWord (beginMarker :: code ++ endMarker :: rest)

theorem BracketWord.append {code code' : List PlanInstruction} (h : BracketWord code)
    (h' : BracketWord code') : BracketWord (code ++ code') := by
  induction h with
  | nil => exact h'
  | boundary hboundary _ ih => exact .boundary hboundary ih
  | conditional hopcodes helsePath hendPath hthen helse _ _ _ ih =>
      have hword := BracketWord.conditional hopcodes helsePath hendPath hthen helse ih
      simpa only [List.append_assoc, List.cons_append] using hword
  | repeated hopcodes hendPath hcode _ _ ih =>
      have hword := BracketWord.repeated hopcodes hendPath hcode ih
      simpa only [List.append_assoc, List.cons_append] using hword

theorem BracketWord.branches {beginMarker elseMarker endMarker : PlanInstruction}
    {thenCode elseCode : List PlanInstruction}
    (hopcodes : beginMarker.opcode = .ifBegin ∧ elseMarker.opcode = .elseOp ∧
      endMarker.opcode = .ifEnd)
    (helsePath : elseMarker.path = beginMarker.path ++ ".else")
    (hendPath : endMarker.path = beginMarker.path ++ ".end")
    (hthen : BracketWord thenCode) (helse : BracketWord elseCode) :
    BracketWord ([beginMarker] ++ thenCode ++ [elseMarker] ++ elseCode ++ [endMarker]) := by
  have hword := BracketWord.conditional hopcodes helsePath hendPath hthen helse .nil
  simpa only [List.append_assoc, List.cons_append, List.nil_append] using hword

section Emitted

variable {sha256 : Json → String}

mutual

/-- SOURCE: macro_graph.py:540-560 -/
theorem bracketWord_emitSteps : (steps : List MacroStep) → (blockPath : String) →
    (localIndex start : ℕ) → BracketWord (emitSteps sha256 blockPath steps localIndex start)
  | [], _, _, _ => by
      rw [emitSteps]
      exact .nil
  | step :: steps, blockPath, localIndex, start => by
      rw [emitSteps]
      exact (bracketWord_emitStep step _ _).append (bracketWord_emitSteps steps _ _ _)

/-- The code of a step is one bracket, or one instruction that is no marker. -/
theorem bracketWord_emitStep : (step : MacroStep) → (path : String) → (start : ℕ) →
    BracketWord (emitStep sha256 step path start)
  | .ifStep conditionId thenSteps elseSteps, path, start => by
      rw [emitStep]
      exact .branches ⟨rfl, rfl, rfl⟩ rfl rfl
        (bracketWord_emitSteps thenSteps (path ++ ".then") 0 (start + 1))
        (bracketWord_emitSteps elseSteps (path ++ ".else") 0 _)
  | .loopStep loopId maxIterations body, path, start => by
      have hbody := bracketWord_emitSteps body (path ++ ".body") 0 (start + 1)
      rw [emitStep]
      exact .repeated (.inl ⟨rfl, rfl⟩) rfl hbody .nil
  | .forEachStep itemName collectionRef maxItems body, path, start => by
      have hbody := bracketWord_emitSteps body (path ++ ".body") 0 (start + 1)
      rw [emitStep]
      exact .repeated (.inr ⟨rfl, rfl⟩) rfl hbody .nil
  | .doStep _, path, start | .callStep _ _ _, path, start | .checkpointStep _, path, start
  | .approveStep _ _ _, path, start => by
      rw [emitStep]
      exact .boundary rfl .nil

end

/-! ## Indices -/

/-- The instructions are numbered from `start` on. -/
def Numbered (start : ℕ) (code : List PlanInstruction) : Prop :=
  code.map (·.index) = List.range' start code.length

omit sha256 in
theorem Numbered.append {start : ℕ} {code code' : List PlanInstruction} (h : Numbered start code)
    (h' : Numbered (start + code.length) code') : Numbered start (code ++ code') := by
  unfold Numbered at *
  rw [List.map_append, h, h', List.length_append, List.range'_append_1]

omit sha256 in
theorem Numbered.bracket {start : ℕ} {beginMarker endMarker : PlanInstruction}
    {code : List PlanInstruction} (hbegin : beginMarker.index = start)
    (hcode : Numbered (start + 1) code) (hend : endMarker.index = start + 1 + code.length) :
    Numbered start ([beginMarker] ++ code ++ [endMarker]) := by
  have hfirst : Numbered start [beginMarker] := by
    unfold Numbered
    rw [← hbegin]
    rfl
  have hlast : Numbered (start + ([beginMarker] ++ code).length) [endMarker] := by
    unfold Numbered
    rw [List.length_append, List.length_singleton, ← Nat.add_assoc, ← hend]
    rfl
  exact (hfirst.append hcode).append hlast

omit sha256 in
/-- Two pieces of code between three markers. -/
theorem Numbered.branches {start : ℕ} {beginMarker elseMarker endMarker : PlanInstruction}
    {thenCode elseCode : List PlanInstruction} (hbegin : beginMarker.index = start)
    (hthen : Numbered (start + 1) thenCode)
    (helseAt : elseMarker.index = start + 1 + thenCode.length)
    (helse : Numbered (start + 1 + thenCode.length + 1) elseCode)
    (hend : endMarker.index = start + 1 + thenCode.length + 1 + elseCode.length) :
    Numbered start
      ([beginMarker] ++ thenCode ++ [elseMarker] ++ elseCode ++ [endMarker]) := by
  have hfirst := Numbered.bracket hbegin hthen helseAt
  have hlength : start + ([beginMarker] ++ thenCode ++ [elseMarker]).length =
      start + 1 + thenCode.length + 1 := by
    simp only [List.length_append, List.length_singleton]
    omega
  rw [← hlength] at helse hend
  have hlast : Numbered (start + ([beginMarker] ++ thenCode ++ [elseMarker] ++ elseCode).length)
      [endMarker] := by
    unfold Numbered
    rw [List.length_append, ← Nat.add_assoc, ← hend]
    rfl
  exact (hfirst.append helse).append hlast

mutual

/-- SOURCE: macro_graph.py:540-560 -/
theorem numbered_emitSteps : (steps : List MacroStep) → (blockPath : String) →
    (localIndex start : ℕ) → Numbered start (emitSteps sha256 blockPath steps localIndex start)
  | [], _, _, _ => by
      rw [emitSteps]
      rfl
  | step :: steps, blockPath, localIndex, start => by
      rw [emitSteps]
      exact (numbered_emitStep step _ _).append (numbered_emitSteps steps _ _ _)

/-- SOURCE: macro_graph.py:562-714 -/
theorem numbered_emitStep : (step : MacroStep) → (path : String) → (start : ℕ) →
    Numbered start (emitStep sha256 step path start)
  | .ifStep conditionId thenSteps elseSteps, path, start => by
      rw [emitStep]
      exact Numbered.branches rfl (numbered_emitSteps thenSteps (path ++ ".then") 0 (start + 1)) rfl
        (numbered_emitSteps elseSteps (path ++ ".else") 0 _) rfl
  | .loopStep loopId maxIterations body, path, start => by
      rw [emitStep]
      exact Numbered.bracket rfl (numbered_emitSteps body (path ++ ".body") 0 (start + 1)) rfl
  | .forEachStep itemName collectionRef maxItems body, path, start => by
      rw [emitStep]
      exact Numbered.bracket rfl (numbered_emitSteps body (path ++ ".body") 0 (start + 1)) rfl
  | .doStep _, path, start | .callStep _ _ _, path, start | .checkpointStep _, path, start
  | .approveStep _ _ _, path, start => by
      rw [emitStep]
      rfl

end

end Emitted

/-! ## What the runner finds -/

/-- The plan has an instruction with this opcode and path at the position. -/
def Marks (plan : MacroPlan) (position : ℕ) (opcode : PlanOpcode) (path : String) : Prop :=
  ∃ instruction, plan.instructions[position]? = some instruction ∧
    instruction.opcode = opcode ∧ instruction.path = path

/-- What the runner looks for from the marker at the position is the marker of the same step: the
step's path is that of its begin marker, and the paths of its other markers go on from there. -/
def FindsOwn (plan : MacroPlan) (position : ℕ) (instruction : PlanInstruction) : Prop :=
  let hash := instruction.sourceStepSha256
  let findsEnd := fun opcode => ∃ target, position < target ∧
    findForward plan position opcode hash = .ok target ∧
      Marks plan target opcode (instruction.path ++ ".end")
  let findsBegin := fun opcode => ∃ target stem, target < position ∧
    instruction.path = stem ++ ".end" ∧
      findBackward plan position opcode hash = .ok target ∧ Marks plan target opcode stem
  match instruction.opcode with
  | .ifBegin => ∃ target, position < target ∧
      findForward plan position .elseOp hash = .ok target ∧
        Marks plan target .elseOp (instruction.path ++ ".else")
  | .elseOp => ∃ target beginAt stem, beginAt < position ∧ position < target ∧
      instruction.path = stem ++ ".else" ∧ Marks plan beginAt .ifBegin stem ∧
        findForward plan position .ifEnd hash = .ok target ∧
          Marks plan target .ifEnd (stem ++ ".end")
  | .loopBegin => findsEnd .loopEnd
  | .forEachBegin => findsEnd .forEachEnd
  | .loopEnd => findsBegin .loopBegin
  | .forEachEnd => findsBegin .forEachBegin
  | .ifEnd | .doOp | .callOp | .checkpoint | .approve => True

/-- The same for a piece of the plan's code from the position `start` on. -/
def FindOwn (plan : MacroPlan) (start : ℕ) (code : List PlanInstruction) : Prop :=
  ∀ k instruction, code[k]? = some instruction → FindsOwn plan (start + k) instruction

section Finds

variable {plan : MacroPlan} {start : ℕ} {hash : String}
  {beginMarker elseMarker endMarker : PlanInstruction}
  {code code' thenCode elseCode : List PlanInstruction}

theorem FindOwn.nil : FindOwn plan start [] := fun k instruction h => by simp at h

theorem FindOwn.single {instruction : PlanInstruction} (h : FindsOwn plan start instruction) :
    FindOwn plan start [instruction] := by
  intro k found hfound
  cases k with
  | zero =>
      obtain rfl : instruction = found := by simpa using hfound
      exact h
  | succ k => simp at hfound

theorem FindOwn.append (h : FindOwn plan start code)
    (h' : FindOwn plan (start + code.length) code') : FindOwn plan start (code ++ code') := by
  intro k instruction hk
  by_cases hlt : k < code.length
  · rw [List.getElem?_append_left hlt] at hk
    exact h k instruction hk
  · rw [List.getElem?_append_right (Nat.le_of_not_lt hlt)] at hk
    have hfinds := h' _ instruction hk
    have hsame : start + code.length + (k - code.length) = start + k := by omega
    rw [hsame] at hfinds
    exact hfinds

/-- A step that is repeated: its two markers find each other over code without a marker
of its digest. SOURCE: macro_runner.py:519-614, 879-913 -/
theorem findOwn_repeated (hlocated : Located plan start ([beginMarker] ++ code ++ [endMarker]))
    (hopcodes : IsLoopPair beginMarker.opcode endMarker.opcode)
    (hpath : endMarker.path = beginMarker.path ++ ".end")
    (hhash : beginMarker.sourceStepSha256 = hash ∧ endMarker.sourceStepSha256 = hash)
    (hcode : ∀ opcode, ∀ i ∈ code, isMarker opcode hash i = false)
    (hown : FindOwn plan (start + 1) code) :
    FindOwn plan start ([beginMarker] ++ code ++ [endMarker]) := by
  have hafter : Located plan (start + 1) (code ++ [endMarker]) := by
    have hwhole : Located plan start ([beginMarker] ++ (code ++ [endMarker])) := hlocated
    exact hwhole.right
  have hbegin : plan.instructions[start]? = some beginMarker := hlocated.left.left.getElem?
  have hend : plan.instructions[start + 1 + code.length]? = some endMarker :=
    hafter.right.getElem?
  have hforward : findForward plan start endMarker.opcode hash = .ok (start + 1 + code.length) :=
    findForward_eq hafter (hcode endMarker.opcode) (by simp [isMarker, hhash.2])
  have hbackward : findBackward plan (start + 1 + code.length) beginMarker.opcode hash =
      .ok start :=
    findBackward_eq hlocated.left (hcode beginMarker.opcode) (by simp [isMarker, hhash.1])
  have hfirst : FindsOwn plan start beginMarker := by
    have hfound : ∃ target, start < target ∧
        findForward plan start endMarker.opcode hash = .ok target ∧
          Marks plan target endMarker.opcode (beginMarker.path ++ ".end") :=
      ⟨_, by omega, hforward, endMarker, hend, rfl, hpath⟩
    rw [← hhash.1] at hfound
    rcases hopcodes with ⟨hb, he⟩ | ⟨hb, he⟩
    · simpa only [FindsOwn, hb, he] using hfound
    · simpa only [FindsOwn, hb, he] using hfound
  have hlast : FindsOwn plan (start + 1 + code.length) endMarker := by
    have hfound : ∃ target stem, target < start + 1 + code.length ∧
        endMarker.path = stem ++ ".end" ∧
          findBackward plan (start + 1 + code.length) beginMarker.opcode hash = .ok target ∧
            Marks plan target beginMarker.opcode stem :=
      ⟨start, _, by omega, hpath, hbackward, beginMarker, hbegin, rfl, rfl⟩
    rw [← hhash.2] at hfound
    rcases hopcodes with ⟨hb, he⟩ | ⟨hb, he⟩
    · simpa only [FindsOwn, hb, he] using hfound
    · simpa only [FindsOwn, hb, he] using hfound
  refine ((FindOwn.single hfirst).append hown).append (FindOwn.single ?_)
  rw [List.length_append, List.length_singleton, ← Nat.add_assoc]
  exact hlast

/-- A conditional: its begin marker finds its second branch, and that its end.
SOURCE: macro_runner.py:470-517, 879-895 -/
theorem findOwn_conditional
    (hlocated : Located plan start
      ([beginMarker] ++ thenCode ++ [elseMarker] ++ elseCode ++ [endMarker]))
    (hopcodes : beginMarker.opcode = .ifBegin ∧ elseMarker.opcode = .elseOp ∧
      endMarker.opcode = .ifEnd)
    (helsePath : elseMarker.path = beginMarker.path ++ ".else")
    (hendPath : endMarker.path = beginMarker.path ++ ".end")
    (hhash : beginMarker.sourceStepSha256 = hash ∧ elseMarker.sourceStepSha256 = hash ∧
      endMarker.sourceStepSha256 = hash)
    (hthen : ∀ opcode, ∀ i ∈ thenCode, isMarker opcode hash i = false)
    (helse : ∀ opcode, ∀ i ∈ elseCode, isMarker opcode hash i = false)
    (hthenOwn : FindOwn plan (start + 1) thenCode)
    (helseOwn : FindOwn plan (start + 1 + thenCode.length + 1) elseCode) :
    FindOwn plan start
      ([beginMarker] ++ thenCode ++ [elseMarker] ++ elseCode ++ [endMarker]) := by
  have hafterBegin : Located plan (start + 1)
      (thenCode ++ ([elseMarker] ++ (elseCode ++ [endMarker]))) := by
    have hwhole : Located plan start
        ([beginMarker] ++ (thenCode ++ ([elseMarker] ++ (elseCode ++ [endMarker])))) := by
      simpa only [List.append_assoc] using hlocated
    exact hwhole.right
  have hafterElse : Located plan (start + 1 + thenCode.length + 1) (elseCode ++ [endMarker]) :=
    hafterBegin.right.right
  have hbegin : plan.instructions[start]? = some beginMarker :=
    hlocated.left.left.left.left.getElem?
  have helseAt : plan.instructions[start + 1 + thenCode.length]? = some elseMarker :=
    hafterBegin.right.left.getElem?
  have hendAt : plan.instructions[start + 1 + thenCode.length + 1 + elseCode.length]? =
      some endMarker := hafterElse.right.getElem?
  have hfindElse : findForward plan start .elseOp hash = .ok (start + 1 + thenCode.length) := by
    rw [← List.append_assoc] at hafterBegin
    exact findForward_eq hafterBegin.left (hthen .elseOp) (by simp [isMarker, hopcodes, hhash])
  have hfindEnd : findForward plan (start + 1 + thenCode.length) .ifEnd hash =
      .ok (start + 1 + thenCode.length + 1 + elseCode.length) :=
    findForward_eq hafterElse (helse .ifEnd) (by simp [isMarker, hopcodes, hhash])
  have hfirst : FindsOwn plan start beginMarker := by
    have hfound : ∃ target, start < target ∧
        findForward plan start .elseOp beginMarker.sourceStepSha256 = .ok target ∧
          Marks plan target .elseOp (beginMarker.path ++ ".else") := by
      rw [hhash.1]
      exact ⟨_, by omega, hfindElse, elseMarker, helseAt, hopcodes.2.1, helsePath⟩
    simpa only [FindsOwn, hopcodes.1] using hfound
  have hsecond : FindsOwn plan (start + 1 + thenCode.length) elseMarker := by
    have hfound : ∃ target beginAt stem, beginAt < start + 1 + thenCode.length ∧
        start + 1 + thenCode.length < target ∧ elseMarker.path = stem ++ ".else" ∧
          Marks plan beginAt .ifBegin stem ∧
            findForward plan (start + 1 + thenCode.length) .ifEnd elseMarker.sourceStepSha256 =
              .ok target ∧ Marks plan target .ifEnd (stem ++ ".end") := by
      rw [hhash.2.1]
      exact ⟨_, start, beginMarker.path, by omega, by omega, helsePath,
        ⟨beginMarker, hbegin, hopcodes.1, rfl⟩, hfindEnd, endMarker, hendAt, hopcodes.2.2, hendPath⟩
    simpa only [FindsOwn, hopcodes.2.1] using hfound
  have hlast : FindsOwn plan (start + 1 + thenCode.length + 1 + elseCode.length) endMarker := by
    simp only [FindsOwn, hopcodes.2.2]
  have hfront := ((FindOwn.single hfirst).append hthenOwn).append (FindOwn.single (by
    rw [List.length_append, List.length_singleton, ← Nat.add_assoc]
    exact hsecond))
  have hlength : start + ([beginMarker] ++ thenCode ++ [elseMarker]).length =
      start + 1 + thenCode.length + 1 := by
    simp only [List.length_append, List.length_singleton]
    omega
  refine (hfront.append (by rw [hlength]; exact helseOwn)).append (FindOwn.single ?_)
  rw [List.length_append, ← Nat.add_assoc, hlength]
  exact hlast

end Finds

section Found

variable {sha256 : Json → String} {plan : MacroPlan} {whole : List MacroStep}

mutual

/-- SOURCE: macro_graph.py:540-560 -/
theorem findOwn_emitSteps (hfree : CollisionFree sha256 whole) : (steps : List MacroStep) →
    (∀ s ∈ partsAll steps, s ∈ partsAll whole) → (blockPath : String) →
    (localIndex start : ℕ) →
    Located plan start (emitSteps sha256 blockPath steps localIndex start) →
    FindOwn plan start (emitSteps sha256 blockPath steps localIndex start)
  | [], _, _, _, _, _ => by
      rw [emitSteps]
      exact .nil
  | step :: steps, hparts, blockPath, localIndex, start, hlocated => by
      have hcons : partsAll (step :: steps) = parts step ++ partsAll steps := by rw [partsAll]
      rw [hcons] at hparts
      rw [emitSteps] at hlocated ⊢
      exact (findOwn_emitStep hfree step (fun s hs => hparts s (List.mem_append_left _ hs)) _ _
        hlocated.left).append
        (findOwn_emitSteps hfree steps (fun s hs => hparts s (List.mem_append_right _ hs)) _ _ _
          hlocated.right)

/-- The markers of a step find each other. SOURCE: macro_graph.py:562-714 -/
theorem findOwn_emitStep (hfree : CollisionFree sha256 whole) : (step : MacroStep) →
    (∀ s ∈ parts step, s ∈ partsAll whole) → (path : String) → (start : ℕ) →
    Located plan start (emitStep sha256 step path start) →
    FindOwn plan start (emitStep sha256 step path start)
  | .ifStep conditionId thenSteps elseSteps, hparts, path, start, hlocated => by
      have hthen : ∀ s ∈ partsAll thenSteps,
          s ∈ nested (.ifStep conditionId thenSteps elseSteps) :=
        fun s hs => List.mem_append_left _ hs
      have helse : ∀ s ∈ partsAll elseSteps,
          s ∈ nested (.ifStep conditionId thenSteps elseSteps) :=
        fun s hs => List.mem_append_right _ hs
      have hwhole := hparts
      rw [parts_eq_cons] at hparts
      rw [emitStep] at hlocated ⊢
      have hlocatedElse := hlocated.left.right
      rw [show start + ([_] ++ _ ++ [_] : List PlanInstruction).length =
        start + 1 + (emitSteps sha256 (path ++ ".then") thenSteps 0 (start + 1)).length + 1 from by
          simp; omega] at hlocatedElse
      exact findOwn_conditional hlocated ⟨rfl, rfl, rfl⟩ rfl rfl ⟨rfl, rfl, rfl⟩
        (not_isMarker_of_nested hfree hwhole hthen) (not_isMarker_of_nested hfree hwhole helse)
        (findOwn_emitSteps hfree thenSteps
          (fun s hs => hparts s (List.mem_cons_of_mem _ (hthen s hs))) _ _ _
          hlocated.left.left.left.right)
        (findOwn_emitSteps hfree elseSteps
          (fun s hs => hparts s (List.mem_cons_of_mem _ (helse s hs))) _ _ _ hlocatedElse)
  | .loopStep loopId maxIterations body, hparts, path, start, hlocated => by
      have hwhole := hparts
      rw [parts_eq_cons] at hparts
      rw [emitStep] at hlocated ⊢
      exact findOwn_repeated hlocated (.inl ⟨rfl, rfl⟩) rfl ⟨rfl, rfl⟩
        (fun opcode => not_isMarker_of_nested hfree hwhole (fun s hs => hs) opcode)
        (findOwn_emitSteps hfree body (fun s hs => hparts s (List.mem_cons_of_mem _ hs)) _ _ _
          hlocated.left.right)
  | .forEachStep itemName collectionRef maxItems body, hparts, path, start, hlocated => by
      have hwhole := hparts
      rw [parts_eq_cons] at hparts
      rw [emitStep] at hlocated ⊢
      exact findOwn_repeated hlocated (.inr ⟨rfl, rfl⟩) rfl ⟨rfl, rfl⟩
        (fun opcode => not_isMarker_of_nested hfree hwhole (fun s hs => hs) opcode)
        (findOwn_emitSteps hfree body (fun s hs => hparts s (List.mem_cons_of_mem _ hs)) _ _ _
          hlocated.left.right)
  | .doStep _, _, path, start, _ | .callStep _ _ _, _, path, start, _
  | .checkpointStep _, _, path, start, _ | .approveStep _ _ _, _, path, start, _ => by
      rw [emitStep]
      exact .single trivial

end

/-- MAIN: **a compiled plan is well formed, and its jumps stay in their own step.** For every
accepted definition whose steps the digest tells apart: the instructions are numbered by their
positions, no two have the same path, their markers are properly nested brackets, and what the
runner finds from a marker is the marker of the same occurrence of the step.
SOURCE: macro_graph.py:540-714, macro_runner.py:879-913 -/
theorem compiled_plan_well_formed {definition : MacroDefinition}
    (hplan : MacroGraphPlanner.plan sha256 definition = .ok plan)
    (hfree : CollisionFree sha256 definition.steps) :
    (∀ (position : ℕ) (instruction : PlanInstruction),
      plan.instructions[position]? = some instruction → instruction.index = position) ∧
    (plan.instructions.map (·.path)).Nodup ∧ BracketWord plan.instructions ∧
    ∀ (position : ℕ) (instruction : PlanInstruction),
      plan.instructions[position]? = some instruction → FindsOwn plan position instruction := by
  obtain ⟨-, hcode, -, -⟩ := eq_of_plan hplan
  have hnumbered : Numbered 0 plan.instructions := by
    rw [hcode]
    exact numbered_emitSteps definition.steps "root" 0 0
  have hlocated : Located plan 0 (emitSteps sha256 "root" definition.steps 0 0) :=
    ⟨[], [], by rw [hcode]; simp, rfl⟩
  refine ⟨fun position instruction hat => ?_, nodup_paths_of_plan hplan, ?_,
    fun position instruction hat => ?_⟩
  · have hindex := congrArg (·[position]?) hnumbered
    rw [List.getElem?_map, hat, Option.map_some, List.getElem?_range'] at hindex
    · have hposition := Option.some.inj hindex
      omega
    · exact (List.getElem?_eq_some_iff.mp hat).1
  · rw [hcode]
    exact bracketWord_emitSteps definition.steps "root" 0 0
  · have hown := findOwn_emitSteps hfree definition.steps (fun s hs => hs) "root" 0 0 hlocated
    rw [← hcode] at hown
    have hfinds := hown position instruction hat
    rw [Nat.zero_add] at hfinds
    exact hfinds

/-! ### Two identical loops in a loop -/

/-- A checkpoint in two identical loops, side by side in a third one. -/
def twinLoops : MacroDefinition where
  macroId := "macro.twins"
  macroVersion := "1.0.0"
  steps := [.loopStep "outer" 2
    [.loopStep "inner" 2 [.checkpointStep "mark"], .loopStep "inner" 2 [.checkpointStep "mark"]]]

/-- Its plan. -/
def twinLoopsPlan : MacroPlan where
  macroId := "macro.twins"
  macroVersion := "1.0.0"
  definitionSha256 := twinLoops.definitionSha256 loopSha256
  instructions := emitSteps loopSha256 "root" twinLoops.steps 0 0

theorem plan_twinLoops : MacroGraphPlanner.plan loopSha256 twinLoops = .ok twinLoopsPlan := by
  have hvalidate : validate twinLoops = .ok () := rfl
  have hcode : twinLoopsPlan.instructions.forM (·.postInit) = .ok () := rfl
  have hplan : twinLoopsPlan.postInit = .ok () := rfl
  show (validate twinLoops >>= fun _ => twinLoopsPlan.instructions.forM (·.postInit) >>= fun _ =>
    twinLoopsPlan.postInit >>= fun _ => Except.ok twinLoopsPlan) = _
  rw [hvalidate, hcode, hplan]
  rfl

theorem collisionFree_twinLoops : CollisionFree loopSha256 twinLoops.steps := by
  have hparts : partsAll twinLoops.steps =
      [.loopStep "outer" 2 [.loopStep "inner" 2 [.checkpointStep "mark"],
          .loopStep "inner" 2 [.checkpointStep "mark"]],
        .loopStep "inner" 2 [.checkpointStep "mark"], .checkpointStep "mark",
        .loopStep "inner" 2 [.checkpointStep "mark"], .checkpointStep "mark"] := rfl
  intro s hs s' hs' h
  rw [hparts] at hs hs'
  simp only [List.mem_cons, List.not_mem_nil, or_false] at hs hs'
  rcases hs with rfl | rfl | rfl | rfl | rfl <;> rcases hs' with rfl | rfl | rfl | rfl | rfl <;>
    first | rfl | exact absurd h (by decide)

/-- WITNESS: identical loops side by side meet the hypotheses. -/
theorem compiled_plan_well_formed_twinLoops :
    (∀ (position : ℕ) (instruction : PlanInstruction),
      twinLoopsPlan.instructions[position]? = some instruction → instruction.index = position) ∧
    (twinLoopsPlan.instructions.map (·.path)).Nodup ∧ BracketWord twinLoopsPlan.instructions ∧
    ∀ (position : ℕ) (instruction : PlanInstruction),
      twinLoopsPlan.instructions[position]? = some instruction →
        FindsOwn twinLoopsPlan position instruction :=
  compiled_plan_well_formed plan_twinLoops collisionFree_twinLoops

end Found

end PhiOS.Analysis
