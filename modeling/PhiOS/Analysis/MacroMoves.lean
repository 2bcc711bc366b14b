import PhiOS.Analysis.MacroMeaning

/-!
# The moves of the macro runner

`Moves` is the relation between the positions of the runner that the loop of `advance` goes through
when nothing stops it, and `Simulates` says that a segment of a plan does to the counters of the
runner what a counted reading does to its own. The rules below build it up from single instructions:
`Simulates.andThen` joins segments and `Simulates.block` is the rule of `LOOP` and `FOREACH`.
-/

set_option autoImplicit false

namespace PhiOS.Analysis

open KeyOrder KeyedBlocks MacroRunner

/-! ## Texts that the runner reads -/

section Legible

variable {cls : ErrorClass} {maximum : ℕ} {value field text : String}

/-- A text that the checks of the runner accept. -/
def Legible (value : String) : Prop :=
  value ≠ "" ∧ value.length ≤ 512 ∧ ¬ (value.toList.any fun c => c.toNat < 32) = true

/-- SOURCE: macro_graph.py:44-56 -/
theorem legible_of_requireText (h : requireText cls maximum value field = .ok text)
    (hle : maximum ≤ 512) : Legible value := by
  unfold requireText at h
  obtain ⟨_, hempty, h⟩ := bind_eq_ok.mp h
  obtain ⟨_, hlength, h⟩ := bind_eq_ok.mp h
  obtain ⟨_, hcontrol, h⟩ := bind_eq_ok.mp h
  rw [raiseIf_eq_ok] at hempty hlength hcontrol
  exact ⟨hempty, by omega, hcontrol⟩

/-- SOURCE: macro_runner.py:60-74 -/
theorem requireText_of_legible (h : Legible value) (hlength : value.length ≤ maximum) :
    requireText cls maximum value field = .ok value := by
  obtain ⟨hempty, -, hcontrol⟩ := h
  unfold requireText
  rw [raiseIf, if_neg hempty, raiseIf, if_neg (by omega), raiseIf, if_neg hcontrol]
  rfl

theorem legible_of_isSha256Text (h : isSha256Text value = true) : Legible value := by
  unfold isSha256Text at h
  rw [Bool.and_eq_true, decide_eq_true_eq, List.all_eq_true] at h
  obtain ⟨hlength, hall⟩ := h
  have hlen : value.length = 64 := by rw [← String.length_toList, hlength]
  refine ⟨fun hempty => ?_, by omega, fun hany => ?_⟩
  · rw [hempty] at hlen
    cases hlen
  · obtain ⟨c, hc, hlt⟩ := List.any_eq_true.mp hany
    have hhex := hall c hc
    have hlt := of_decide_eq_true hlt
    simp only [Bool.or_eq_true, Bool.and_eq_true, decide_eq_true_eq] at hhex
    omega

/-- SOURCE: macro_runner.py:77-90 -/
theorem requireSha256_of_isSha256Text (h : isSha256Text value = true) :
    requireSha256 cls value field = .ok value := by
  have hlegible := legible_of_isSha256Text h
  have hlen : value.length = 64 := by
    unfold isSha256Text at h
    rw [Bool.and_eq_true, decide_eq_true_eq] at h
    rw [← String.length_toList, h.1]
  unfold requireSha256 requireText
  rw [raiseIf, if_neg hlegible.1, raiseIf, if_neg (by omega), raiseIf, if_neg hlegible.2.2]
  show (raiseIf _ _ >>= fun _ => _) = _
  rw [raiseIf, if_neg (not_not_intro h)]
  rfl

end Legible

/-- The texts of one step, apart from the steps nested in it, that the runner reads back. -/
def LegibleStep : MacroStep → Prop
  | .ifStep conditionId _ _ => Legible conditionId
  | .forEachStep itemName collectionRef _ _ => Legible itemName ∧ Legible collectionRef
  | .callStep macroId macroVersion _ => Legible macroId ∧ Legible macroVersion
  | .checkpointStep label => Legible label
  | .approveStep barrierId requiredCapabilities _ =>
      Legible barrierId ∧ ∀ capability ∈ requiredCapabilities, capability ≠ ""
  | _ => True

section Validate

open MacroGraphPlanner

/-- SOURCE: macro_graph.py:44-56 -/
theorem legible_of_requireName {value field : String} {u : Unit}
    (h : requireName value field = .ok u) : Legible value := by
  unfold requireName at h
  obtain ⟨text, h, -⟩ := bind_eq_ok.mp h
  exact legible_of_requireText h (by omega)

theorem ne_empty_of_validateCanonicalNames {values : List String} {field : String}
    {allowEmpty : Bool} {u : Unit} (h : validateCanonicalNames values field allowEmpty = .ok u) :
    ∀ value ∈ values, value ≠ "" := by
  unfold validateCanonicalNames at h
  obtain ⟨_, -, h⟩ := bind_eq_ok.mp h
  obtain ⟨_, h, -⟩ := bind_eq_ok.mp h
  intro value hvalue
  obtain ⟨text, htext, -⟩ := bind_eq_ok.mp (forM_eq_ok.mp h value hvalue)
  exact (legible_of_requireText htext (by omega)).1

mutual

theorem legible_of_validateBlock {depth : ℕ} : (steps : List MacroStep) → {count total : ℕ} →
    validateBlock depth steps count = .ok total → ∀ s ∈ partsAll steps, LegibleStep s
  | [], _, _, _ => fun s hs => by
      rw [partsAll] at hs
      cases hs
  | step :: steps, count, total, h => fun s hs => by
      unfold validateBlock at h
      obtain ⟨count', hstep, h⟩ := bind_eq_ok.mp h
      obtain ⟨_, -, h⟩ := bind_eq_ok.mp h
      rw [partsAll] at hs
      rcases List.mem_append.mp hs with hs | hs
      · exact legible_of_validateStep step hstep s hs
      · exact legible_of_validateBlock steps h s hs

/-- A step that is validated is legible throughout. SOURCE: macro_graph.py:423-510 -/
theorem legible_of_validateStep {depth : ℕ} : (step : MacroStep) → {count total : ℕ} →
    validateStep depth step count = .ok total → ∀ s ∈ parts step, LegibleStep s
  | .doStep _, _, _, _ => fun s hs => by
      rw [parts_eq_cons, nested, List.mem_singleton] at hs
      rw [hs]
      trivial
  | .ifStep conditionId thenSteps elseSteps, _, _, h => fun s hs => by
      unfold validateStep at h
      obtain ⟨_, hname, h⟩ := bind_eq_ok.mp h
      obtain ⟨_, _, h⟩ := ok_past_two h
      obtain ⟨thenCount, hthen, h⟩ := bind_eq_ok.mp h
      obtain ⟨elseCount, helse, -⟩ := bind_eq_ok.mp h
      rw [parts_eq_cons, nested] at hs
      rcases List.mem_cons.mp hs with rfl | hs
      · exact legible_of_requireName hname
      · rcases List.mem_append.mp hs with hs | hs
        · exact legible_of_validateBlock thenSteps hthen s hs
        · exact legible_of_validateBlock elseSteps helse s hs
  | .loopStep loopId maxIterations body, _, _, h => fun s hs => by
      unfold validateStep at h
      obtain ⟨_, _, _, _, h⟩ := ok_past_four h
      obtain ⟨bodyCount, hbody, -⟩ := bind_eq_ok.mp h
      rw [parts_eq_cons, nested] at hs
      rcases List.mem_cons.mp hs with rfl | hs
      · trivial
      · exact legible_of_validateBlock body hbody s hs
  | .forEachStep itemName collectionRef maxItems body, _, _, h => fun s hs => by
      unfold validateStep at h
      obtain ⟨_, hitem, h⟩ := bind_eq_ok.mp h
      obtain ⟨_, hcollection, h⟩ := bind_eq_ok.mp h
      obtain ⟨_, _, _, h⟩ := ok_past_three h
      obtain ⟨bodyCount, hbody, -⟩ := bind_eq_ok.mp h
      rw [parts_eq_cons, nested] at hs
      rcases List.mem_cons.mp hs with rfl | hs
      · exact ⟨legible_of_requireName hitem, legible_of_requireName hcollection⟩
      · exact legible_of_validateBlock body hbody s hs
  | .callStep macroId macroVersion arguments, _, _, h => fun s hs => by
      unfold validateStep at h
      obtain ⟨_, hid, h⟩ := bind_eq_ok.mp h
      obtain ⟨text, hversion, -⟩ := bind_eq_ok.mp h
      rw [parts_eq_cons, nested, List.mem_singleton] at hs
      rw [hs]
      exact ⟨legible_of_requireName hid, legible_of_requireText hversion (by omega)⟩
  | .checkpointStep label, _, _, h => fun s hs => by
      unfold validateStep at h
      obtain ⟨_, hlabel, -⟩ := bind_eq_ok.mp h
      rw [parts_eq_cons, nested, List.mem_singleton] at hs
      rw [hs]
      exact legible_of_requireName hlabel
  | .approveStep barrierId requiredCapabilities reason, _, _, h => fun s hs => by
      unfold validateStep at h
      obtain ⟨_, hbarrier, h⟩ := bind_eq_ok.mp h
      obtain ⟨text, -, h⟩ := bind_eq_ok.mp h
      obtain ⟨_, hnames, -⟩ := bind_eq_ok.mp h
      rw [parts_eq_cons, nested, List.mem_singleton] at hs
      rw [hs]
      exact ⟨legible_of_requireName hbarrier, ne_empty_of_validateCanonicalNames hnames⟩

end

end Validate

/-! ## Markers -/

section Markers

variable {plan : MacroPlan} {opcode : PlanOpcode} {hash : String} {start : ℕ}
  {before code after : List PlanInstruction} {marker : PlanInstruction}

/-- A segment of the plan. -/
def Located (plan : MacroPlan) (start : ℕ) (code : List PlanInstruction) : Prop :=
  ∃ before after, plan.instructions = before ++ code ++ after ∧ before.length = start

/-- SOURCE: macro_graph.py:540-714 -/
theorem Located.left {code₁ code₂ : List PlanInstruction} (h : Located plan start (code₁ ++ code₂)) :
    Located plan start code₁ := by
  obtain ⟨before, after, h, hlength⟩ := h
  exact ⟨before, code₂ ++ after, by rw [h]; simp, hlength⟩

/-- SOURCE: macro_graph.py:540-714 -/
theorem Located.right {code₁ code₂ : List PlanInstruction} (h : Located plan start (code₁ ++ code₂)) :
    Located plan (start + code₁.length) code₂ := by
  obtain ⟨before, after, h, hlength⟩ := h
  exact ⟨before ++ code₁, after, by rw [h]; simp, by rw [List.length_append, hlength]⟩

theorem Located.getElem? (h : Located plan start (marker :: code)) :
    plan.instructions[start]? = some marker := by
  obtain ⟨before, after, h, hlength⟩ := h
  rw [h, ← hlength]
  simp

theorem findForward_eq (h : Located plan (start + 1) (code ++ [marker]))
    (hcode : ∀ i ∈ code, isMarker opcode hash i = false)
    (hmarker : isMarker opcode hash marker = true) :
    findForward plan start opcode hash = .ok (start + 1 + code.length) := by
  obtain ⟨before, after, h, hlength⟩ := h
  have hdrop : plan.instructions.drop (start + 1) = code ++ marker :: after := by
    rw [h, ← hlength]
    simp
  have hnone : code.findIdx? (isMarker opcode hash) = none := by
    rw [List.findIdx?_eq_none_iff]
    exact hcode
  unfold findForward
  rw [hdrop, List.findIdx?_append, hnone, List.findIdx?_cons, hmarker]
  simp

/-- The nearest marker before a segment without one. -/
theorem findBackward_eq (h : Located plan start (marker :: code))
    (hcode : ∀ i ∈ code, isMarker opcode hash i = false)
    (hmarker : isMarker opcode hash marker = true) :
    findBackward plan (start + 1 + code.length) opcode hash = .ok start := by
  obtain ⟨before, after, h, hlength⟩ := h
  have htake : (plan.instructions.take (start + 1 + code.length)).reverse =
      code.reverse ++ marker :: before.reverse := by
    have hsplit : plan.instructions = (before ++ marker :: code) ++ after := by rw [h]
    have hlen : (before ++ marker :: code).length = start + 1 + code.length := by
      simp [hlength]
      omega
    rw [hsplit, ← hlen, List.take_left]
    simp
  have hnone : code.reverse.findIdx? (isMarker opcode hash) = none := by
    rw [List.findIdx?_eq_none_iff]
    exact fun i hi => hcode i (List.mem_reverse.mp hi)
  unfold findBackward
  rw [htake, List.findIdx?_append, hnone, List.findIdx?_cons, hmarker]
  simp

end Markers

/-! ## Moves -/

/-- What the loop of `advance` notes before it looks at the instruction. -/
def noted (config : Config) (instruction : PlanInstruction) : Config :=
  { config with transitions := config.transitions + 1, lastPath := some instruction.path }

/-- The runner moves on over the instruction at the cursor. -/
def Passes (plan : MacroPlan) (index : ResolutionIndex) (config : Config) (path : List String)
    (next : Config) : Prop :=
  ∃ instruction, plan.instructions[config.cursor]? = some instruction ∧
    passInstruction plan index (noted config instruction) instruction = .ok (.moved next) ∧
    path = passedPath instruction

/-- The runner moves on over several instructions, one after the other. -/
inductive Moves (plan : MacroPlan) (index : ResolutionIndex) :
    ℕ → Config → List String → Config → Prop
  | refl (config : Config) : Moves plan index 0 config [] config
  | step {n : ℕ} {config next final : Config} {path passed : List String}
      (first : Passes plan index config path next) (rest : Moves plan index n next passed final) :
      Moves plan index (n + 1) config (path ++ passed) final

/-- The iteration counters of the runner. -/
def counts (config : Config) : Counts (BlockKind × String)
  | (.loop, hash) => config.loops.getD hash 0
  | (.forEach, hash) => config.foreach.getD hash 0

/-- From the position `start` the runner moves on to `stop`, and passes and counts what the reading
`g` does. -/
def Simulates (plan : MacroPlan) (index : ResolutionIndex) (start stop : ℕ)
    (g : Counts (BlockKind × String) → List String × Counts (BlockKind × String)) : Prop :=
  ∀ config : Config, config.cursor = start → ∃ n final,
    Moves plan index n config (g (counts config)).1 final ∧ final.cursor = stop ∧
      counts final = (g (counts config)).2

section Simulates

variable {plan : MacroPlan} {index : ResolutionIndex} {start middle stop : ℕ}
  {g g₁ g₂ : Counts (BlockKind × String) → List String × Counts (BlockKind × String)}

theorem Moves.trans {n m : ℕ} {config middle final : Config} {passed₁ passed₂ : List String}
    (h₁ : Moves plan index n config passed₁ middle) (h₂ : Moves plan index m middle passed₂ final) :
    Moves plan index (n + m) config (passed₁ ++ passed₂) final := by
  induction h₁ with
  | refl => simpa using h₂
  | step first rest ih =>
      rw [List.append_assoc, Nat.add_right_comm]
      exact .step first (ih h₂)

theorem Simulates.nothing : Simulates plan index start start KeyedBlocks.nothing := by
  intro config hcursor
  exact ⟨0, config, .refl config, hcursor, rfl⟩

theorem Simulates.andThen (h₁ : Simulates plan index start middle g₁)
    (h₂ : Simulates plan index middle stop g₂) :
    Simulates plan index start stop (KeyedBlocks.andThen g₁ g₂) := by
  intro config hcursor
  obtain ⟨n₁, config₁, hmoves₁, hcursor₁, hcounts₁⟩ := h₁ config hcursor
  obtain ⟨n₂, config₂, hmoves₂, hcursor₂, hcounts₂⟩ := h₂ config₁ hcursor₁
  rw [hcounts₁] at hmoves₂ hcounts₂
  exact ⟨n₁ + n₂, config₂, hmoves₁.trans hmoves₂, hcursor₂, hcounts₂⟩

theorem Simulates.single {path : List String}
    (h : ∀ config : Config, config.cursor = start → ∃ next, Passes plan index config path next ∧
      next.cursor = stop ∧ counts next = counts config) :
    Simulates plan index start stop fun c => (path, c) := by
  intro config hcursor
  obtain ⟨next, hpasses, hnext, hcounts⟩ := h config hcursor
  refine ⟨1, next, ?_, hnext, hcounts⟩
  have hmoves := Moves.step hpasses (.refl next)
  rwa [List.append_nil] at hmoves

theorem Simulates.marker_andThen (h₁ : Simulates plan index start middle fun c => ([], c))
    (h₂ : Simulates plan index middle stop g) : Simulates plan index start stop g :=
  h₁.andThen h₂

theorem Simulates.andThen_marker (h₁ : Simulates plan index start middle g)
    (h₂ : Simulates plan index middle stop fun c => ([], c)) : Simulates plan index start stop g := by
  have h := h₁.andThen h₂
  rwa [show (fun c => ([], c)) = (KeyedBlocks.nothing : Counts (BlockKind × String) →
    List String × Counts (BlockKind × String)) from rfl, andThen_nothing] at h

/-- **the rule of `LOOP` and `FOREACH`.** The begin marker leaves the block once the
counter has reached the bound, the end marker counts one more iteration and goes back.
SOURCE: macro_runner.py:470-575 -/
theorem Simulates.block {key : BlockKind × String} {trips : ℕ}
    (hbegin : ∀ config : Config, config.cursor = start → ∃ next, Passes plan index config [] next ∧
      next.cursor = (if trips ≤ counts config key then stop + 1 else start + 1) ∧
      counts next = counts config)
    (hbody : Simulates plan index (start + 1) stop g) (hframe : ∀ c, (g c).2 key = c key)
    (hend : ∀ config : Config, config.cursor = stop → ∃ next, Passes plan index config [] next ∧
      next.cursor = start ∧
      counts next = Function.update (counts config) key (counts config key + 1)) :
    Simulates plan index start (stop + 1) fun c =>
      times (KeyedBlocks.andThen g (bump key)) (trips - c key) c := by
  -- by induction on the iterations that the counter lacks
  suffices hlacking : ∀ m (config : Config), config.cursor = start →
      trips - counts config key = m → ∃ n final,
        Moves plan index n config
          (times (KeyedBlocks.andThen g (bump key)) m (counts config)).1 final ∧
        final.cursor = stop + 1 ∧
        counts final = (times (KeyedBlocks.andThen g (bump key)) m (counts config)).2 from
    fun config hcursor => hlacking _ config hcursor rfl
  intro m
  induction m with
  | zero =>
      intro config hcursor hlacks
      obtain ⟨next, hpasses, hnext, hcounts⟩ := hbegin config hcursor
      rw [if_pos (by omega)] at hnext
      exact ⟨1, next, .step hpasses (.refl next), hnext, hcounts⟩
  | succ m ih =>
      intro config hcursor hlacks
      obtain ⟨entered, hpasses, hentered, hcounts⟩ := hbegin config hcursor
      rw [if_neg (by omega)] at hentered
      obtain ⟨n, done, hmoves, hdone, hcountsDone⟩ := hbody entered hentered
      rw [hcounts] at hmoves hcountsDone
      obtain ⟨back, hpassesEnd, hback, hcountsBack⟩ := hend done hdone
      have hbump : counts back = (KeyedBlocks.andThen g (bump key) (counts config)).2 := by
        rw [hcountsBack, hcountsDone]
        rfl
      have hkey : counts back key = counts config key + 1 := by
        rw [hcountsBack, Function.update_self, hcountsDone, hframe]
      obtain ⟨n', final, hrest, hfinal, hcountsFinal⟩ := ih back hback (by omega)
      rw [hbump] at hrest hcountsFinal
      have hall := Moves.step hpasses (hmoves.trans (.step hpassesEnd hrest))
      have htrace : (times (KeyedBlocks.andThen g (bump key)) (m + 1) (counts config)).1 =
          [] ++ ((g (counts config)).1 ++ ([] ++ (times (KeyedBlocks.andThen g (bump key)) m
            (KeyedBlocks.andThen g (bump key) (counts config)).2).1)) := by
        simp [times, KeyedBlocks.andThen, bump]
      rw [← htrace] at hall
      exact ⟨_, final, hall, hfinal, hcountsFinal⟩

end Simulates

end PhiOS.Analysis
