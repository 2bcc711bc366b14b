import PhiOS.Model.MacroGraph
import PhiOS.Analysis.MacroRuns

/-!
# The paths of a compiled plan

The planner writes the path of an instruction from the path of its block: a dot and the number of
the step, and a dot and one of four words for what belongs to a nested step. Neither a number nor a
word has a dot in it, so no two instructions of a plan have the same path.
-/

set_option autoImplicit false

namespace PhiOS.Analysis

open MacroGraphPlanner

/-! ## Paths below a path -/

/-- The path is the stem, or goes on after it with a dot. -/
def Under (stem path : String) : Prop :=
  path = stem ∨ ∃ rest, path.toList = stem.toList ++ '.' :: rest

/-- The path goes on after the stem with a dot and the component `name`. -/
def Below (stem name path : String) : Prop := Under (stem ++ "." ++ name) path

theorem Under.refl (stem : String) : Under stem stem := .inl rfl

theorem Below.toList {stem name path : String} (h : Below stem name path) :
    ∃ rest, path.toList = stem.toList ++ '.' :: (name.toList ++ rest) ∧
      ∀ c ∈ rest.head?, c = '.' := by
  have hdot : ".".toList = ['.'] := rfl
  rcases h with rfl | ⟨rest, hrest⟩
  · refine ⟨[], ?_, by simp⟩
    simp [hdot]
  · refine ⟨'.' :: rest, ?_, by simp⟩
    rw [hrest]
    simp [hdot]

theorem Below.under {stem name path : String} (h : Below stem name path) : Under stem path := by
  obtain ⟨rest, hrest, -⟩ := h.toList
  exact .inr ⟨_, hrest⟩

theorem Below.ne {stem name path : String} (h : Below stem name path) : path ≠ stem := by
  rintro rfl
  obtain ⟨rest, hrest, -⟩ := h.toList
  have hlength := congrArg List.length hrest
  simp at hlength

/-- A text without a dot in front of one that is empty or begins with one. -/
theorem append_dot_inj {a b r s : List Char} (ha : '.' ∉ a) (hb : '.' ∉ b)
    (hr : ∀ c ∈ r.head?, c = '.') (hs : ∀ c ∈ s.head?, c = '.') (h : a ++ r = b ++ s) : a = b := by
  induction a generalizing b with
  | nil =>
      cases b with
      | nil => rfl
      | cons c b =>
          rw [List.nil_append] at h
          subst h
          have hc : c = '.' := hr c (by simp)
          exact absurd (by simp [hc]) hb
  | cons c a ih =>
      cases b with
      | nil =>
          rw [List.nil_append] at h
          subst h
          have hc : c = '.' := hs c (by simp)
          exact absurd (by simp [hc]) ha
      | cons d b =>
          rw [List.cons_append, List.cons_append] at h
          have hcons := List.cons.inj h
          rw [hcons.1, ih (fun hmem => ha (List.mem_cons_of_mem _ hmem))
            (fun hmem => hb (List.mem_cons_of_mem _ hmem)) hcons.2]

theorem Below.inj {stem a b path : String} (ha : '.' ∉ a.toList) (hb : '.' ∉ b.toList)
    (h : Below stem a path) (h' : Below stem b path) : a = b := by
  obtain ⟨r, hr, hrhead⟩ := h.toList
  obtain ⟨s, hs, hshead⟩ := h'.toList
  rw [hr] at hs
  have hrest := List.cons.inj (List.append_cancel_left hs)
  exact String.toList_inj.mp (append_dot_inj ha hb hrhead hshead hrest.2)

theorem dot_notMem_toString (n : ℕ) : '.' ∉ (toString n).toList := by
  intro hmem
  have hdigits : (toString n).toList = Nat.toDigits 10 n := by simp [Nat.repr]
  rw [hdigits] at hmem
  have hdigit := Nat.isDigit_of_mem_toDigits (by decide) (by decide) hmem
  exact absurd hdigit (by decide)

theorem toString_nat_inj {n m : ℕ} (h : toString n = toString m) : n = m := by
  have hdigits : Nat.toDigits 10 n = Nat.toDigits 10 m := by
    have hlist := congrArg String.toList h
    simpa [Nat.repr] using hlist
  rw [← Nat.ofDigitChars_ten_toDigits (n := n), hdigits, Nat.ofDigitChars_ten_toDigits]

/-! ## The emitted paths -/

section Emitted

variable {sha256 : Json → String}

/-- The paths of instructions. -/
def pathsOf (code : List PlanInstruction) : List String := code.map (·.path)

@[simp] theorem pathsOf_nil : pathsOf [] = [] := rfl

@[simp] theorem pathsOf_cons (instruction : PlanInstruction) (code : List PlanInstruction) :
    pathsOf (instruction :: code) = instruction.path :: pathsOf code := rfl

@[simp] theorem pathsOf_append (code code' : List PlanInstruction) :
    pathsOf (code ++ code') = pathsOf code ++ pathsOf code' := List.map_append ..

theorem below_of_block {stem name path : String} {i : ℕ}
    (h : ∃ k, i ≤ k ∧ Below (stem ++ "." ++ name) (toString k) path) :
    Below stem name path ∧ path ≠ stem ++ "." ++ name := by
  obtain ⟨k, -, hbelow⟩ := h
  exact ⟨hbelow.under, hbelow.ne⟩

/-- What a step with one block emits: the block between the step's path and its end. -/
theorem bracketed {path : String} {block : List String}
    (hblock : ∀ q ∈ block, Below path "body" q) (hnodup : block.Nodup) :
    (∀ q ∈ path :: (block ++ [path ++ "." ++ "end"]), Under path q) ∧
      (path :: (block ++ [path ++ "." ++ "end"])).Nodup := by
  have hend : Below path "end" (path ++ "." ++ "end") := .refl _
  constructor
  · intro q hq
    simp only [List.mem_cons, List.mem_append, List.not_mem_nil, or_false] at hq
    rcases hq with rfl | hq | rfl
    · exact .refl q
    · exact (hblock q hq).under
    · exact hend.under
  · refine List.nodup_cons.mpr ⟨fun hpath => ?_, List.nodup_append.mpr
      ⟨hnodup, List.nodup_singleton _, ?_⟩⟩
    · rcases List.mem_append.mp hpath with hpath | hpath
      · exact (hblock path hpath).ne rfl
      · exact hend.ne (List.mem_singleton.mp hpath).symm
    · intro q hq q' hq' heq
      rw [heq, List.mem_singleton.mp hq'] at hq
      have hsame := Below.inj (by decide) (by decide) (hblock _ hq) hend
      exact absurd hsame (by decide)

/-- What a conditional emits: two blocks between its path, its second branch and its end. -/
theorem branched {path : String} {thenBlock elseBlock : List String}
    (hthen : ∀ q ∈ thenBlock, Below path "then" q) (hthenNodup : thenBlock.Nodup)
    (helse : ∀ q ∈ elseBlock, Below path "else" q ∧ q ≠ path ++ "." ++ "else")
    (helseNodup : elseBlock.Nodup) :
    (∀ q ∈ path :: (thenBlock ++
        (path ++ "." ++ "else") :: (elseBlock ++ [path ++ "." ++ "end"])), Under path q) ∧
      (path :: (thenBlock ++
        (path ++ "." ++ "else") :: (elseBlock ++ [path ++ "." ++ "end"]))).Nodup := by
  have hmark : Below path "else" (path ++ "." ++ "else") := .refl _
  have hend : Below path "end" (path ++ "." ++ "end") := .refl _
  have helseEnd : path ++ "." ++ "else" ≠ path ++ "." ++ "end" := by
    intro heq
    rw [← heq] at hend
    exact absurd (Below.inj (by decide) (by decide) hmark hend) (by decide)
  have hlater : ∀ q ∈ (path ++ "." ++ "else") :: (elseBlock ++ [path ++ "." ++ "end"]),
      Below path "else" q ∨ Below path "end" q := by
    intro q hq
    simp only [List.mem_cons, List.mem_append, List.not_mem_nil, or_false] at hq
    rcases hq with rfl | hq | rfl
    · exact .inl hmark
    · exact .inl (helse q hq).1
    · exact .inr hend
  constructor
  · intro q hq
    rcases List.mem_cons.mp hq with rfl | hq
    · exact .refl q
    rcases List.mem_append.mp hq with hq | hq
    · exact (hthen q hq).under
    · rcases hlater q hq with h | h
      · exact h.under
      · exact h.under
  · have hrest : ((path ++ "." ++ "else") :: (elseBlock ++ [path ++ "." ++ "end"])).Nodup := by
      refine List.nodup_cons.mpr ⟨fun hmem => ?_, List.nodup_append.mpr
        ⟨helseNodup, List.nodup_singleton _, ?_⟩⟩
      · rcases List.mem_append.mp hmem with hmem | hmem
        · exact (helse _ hmem).2 rfl
        · exact helseEnd (List.mem_singleton.mp hmem)
      · intro q hq q' hq' heq
        rw [heq, List.mem_singleton.mp hq'] at hq
        exact absurd (Below.inj (by decide) (by decide) (helse _ hq).1 hend) (by decide)
    refine List.nodup_cons.mpr ⟨fun hpath => ?_, List.nodup_append.mpr ⟨hthenNodup, hrest, ?_⟩⟩
    · rcases List.mem_append.mp hpath with hpath | hpath
      · exact (hthen path hpath).ne rfl
      · rcases hlater path hpath with h | h
        · exact h.ne rfl
        · exact h.ne rfl
    · rintro q hq _ hq' rfl
      rcases hlater q hq' with h | h
      · exact absurd (Below.inj (by decide) (by decide) (hthen q hq) h) (by decide)
      · exact absurd (Below.inj (by decide) (by decide) (hthen q hq) h) (by decide)

theorem append_word (path word : String) : path ++ ("." ++ word) = path ++ "." ++ word :=
  (String.append_assoc ..).symm

mutual

/-- What a block emits from its `localIndex`-th step on lies below the numbers from
`localIndex` on, under different paths. -/
theorem paths_emitSteps : (steps : List MacroStep) → (blockPath : String) →
    (localIndex start : ℕ) →
    (∀ path ∈ pathsOf (emitSteps sha256 blockPath steps localIndex start),
      ∃ k, localIndex ≤ k ∧ Below blockPath (toString k) path) ∧
    (pathsOf (emitSteps sha256 blockPath steps localIndex start)).Nodup
  | [], _, _, _ => by
      rw [emitSteps]
      simp
  | step :: steps, blockPath, localIndex, start => by
      have hstep := paths_emitStep step (blockPath ++ "." ++ toString localIndex) start
      have hrest := paths_emitSteps steps blockPath (localIndex + 1)
        (start + (emitStep sha256 step (blockPath ++ "." ++ toString localIndex) start).length)
      rw [emitSteps, pathsOf_append]
      constructor
      · intro path hpath
        rcases List.mem_append.mp hpath with hpath | hpath
        · exact ⟨localIndex, le_rfl, hstep.1 path hpath⟩
        · obtain ⟨k, hk, hbelow⟩ := hrest.1 path hpath
          exact ⟨k, by omega, hbelow⟩
      · refine List.nodup_append.mpr ⟨hstep.2, hrest.2, ?_⟩
        rintro path hpath _ hpath' rfl
        obtain ⟨k, hk, hbelow⟩ := hrest.1 path hpath'
        have hsame := Below.inj (dot_notMem_toString _) (dot_notMem_toString _)
          (hstep.1 path hpath) hbelow
        have := toString_nat_inj hsame
        omega

/-- What a step emits lies under its path, under different paths.
SOURCE: macro_graph.py:562-714 -/
theorem paths_emitStep : (step : MacroStep) → (path : String) → (start : ℕ) →
    (∀ q ∈ pathsOf (emitStep sha256 step path start), Under path q) ∧
    (pathsOf (emitStep sha256 step path start)).Nodup
  | .ifStep conditionId thenSteps elseSteps, path, start => by
      have hthen := paths_emitSteps thenSteps (path ++ "." ++ "then") 0 (start + 1)
      have helse := fun elseStart =>
        paths_emitSteps elseSteps (path ++ "." ++ "else") 0 elseStart
      rw [emitStep]
      simp only [show ".then" = "." ++ "then" from rfl, show ".else" = "." ++ "else" from rfl,
        show ".end" = "." ++ "end" from rfl, append_word]
      simp only [pathsOf_append, pathsOf_cons, pathsOf_nil, List.singleton_append,
        List.append_assoc]
      exact branched (fun q hq => (below_of_block (hthen.1 q hq)).1) hthen.2
        (fun q hq => below_of_block ((helse _).1 q hq)) (helse _).2
  | .loopStep loopId maxIterations body, path, start => by
      have hbody := paths_emitSteps body (path ++ "." ++ "body") 0 (start + 1)
      rw [emitStep]
      simp only [show ".body" = "." ++ "body" from rfl, show ".end" = "." ++ "end" from rfl,
        append_word]
      simp only [pathsOf_append, pathsOf_cons, pathsOf_nil, List.singleton_append]
      exact bracketed (fun q hq => (below_of_block (hbody.1 q hq)).1) hbody.2
  | .forEachStep itemName collectionRef maxItems body, path, start => by
      have hbody := paths_emitSteps body (path ++ "." ++ "body") 0 (start + 1)
      rw [emitStep]
      simp only [show ".body" = "." ++ "body" from rfl, show ".end" = "." ++ "end" from rfl,
        append_word]
      simp only [pathsOf_append, pathsOf_cons, pathsOf_nil, List.singleton_append]
      exact bracketed (fun q hq => (below_of_block (hbody.1 q hq)).1) hbody.2
  | .doStep _, path, start | .callStep _ _ _, path, start | .checkpointStep _, path, start
  | .approveStep _ _ _, path, start => by
      rw [emitStep]
      simp [Under.refl]

end

/-- **no two instructions of a compiled plan have the same path.**
SOURCE: macro_graph.py:504-714 -/
theorem nodup_paths_of_plan {definition : MacroDefinition} {plan : MacroPlan}
    (h : MacroGraphPlanner.plan sha256 definition = .ok plan) :
    (plan.instructions.map (·.path)).Nodup := by
  obtain ⟨-, hcode, -, -⟩ := eq_of_plan h
  rw [hcode]
  exact (paths_emitSteps definition.steps "root" 0 0).2

end Emitted

end PhiOS.Analysis
