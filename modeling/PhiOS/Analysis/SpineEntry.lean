import PhiOS.Analysis.SpineStages

/-!
# The spine enters the executor with a recorded grant only

The stages of a run, read off its events: whenever a run enters the executor, both boundary
decisions allow it and both receipts are in the Mandala ledger already.
-/

set_option autoImplicit false

namespace PhiOS.Analysis

open Interaction PhiOSSpine

/-- The events of a spine run. -/
abbrev SpineTrace := List (Prog.Event SpineOp.Reply)

/-- The Mandala ledger acknowledged the append of `m`. -/
def Appended (t : SpineTrace) (m : MandalaReceipt) : Prop :=
  ⟨.mandalaAppend m, AppendReply.stored⟩ ∈ t

/-- The accepted effect receipt of packet `id` is recorded. -/
def EffectAccepted (t : SpineTrace) (id : String) : Prop :=
  ∃ r, Appended t (.effectBoundary r) ∧ r.status = .accepted ∧ r.packetId = id

/-- The accepted gate receipt of packet `id` is recorded. -/
def GateAccepted (t : SpineTrace) (id : String) : Prop :=
  ∃ g, Appended t (.gate g) ∧ g.status = .accepted ∧ g.packetId = id

/-- No append of `t` raised. -/
def NoFault (t : SpineTrace) : Prop := ∀ e ∈ t, appendFault e.1 e.2 = none

/-- What a stage says about the events that led there. -/
def Stage.Recorded (t : SpineTrace) : Stage → Prop
  | .opened => NoFault t
  | .effectRecorded id => NoFault t ∧ EffectAccepted t id
  | .gateRecorded id => NoFault t ∧ EffectAccepted t id ∧ GateAccepted t id
  | .entered | .closed => True

variable {spine : PhiOSSpine} {capabilityId : String} {payload : Json}
  {provenance : Option GovernedProvenance} {t : SpineTrace}

/-- What a permitted event can do to the stage. -/
theorem Stage.next_cases {s s' : Stage} {o : SpineOp} {r : o.Reply}
    (h : Stage.next spine capabilityId payload s o r = some s') :
    (s' = s ∧ appendFault o r = none) ∨ s' = .entered ∨ s' = .closed ∨
      (∃ e, s = .opened ∧ (⟨o, r⟩ : Prog.Event SpineOp.Reply) =
          ⟨.mandalaAppend (.effectBoundary e), AppendReply.stored⟩ ∧
        e.status = .accepted ∧ s' = .effectRecorded e.packetId) ∨
      ∃ g id, s = .effectRecorded id ∧ (⟨o, r⟩ : Prog.Event SpineOp.Reply) =
          ⟨.mandalaAppend (.gate g), AppendReply.stored⟩ ∧
        g.status = .accepted ∧ g.packetId = id ∧ s' = .gateRecorded id := by
  unfold Stage.next at h
  split at h
  · exact .inl ⟨(Option.some.inj h).symm, rfl⟩
  · exact .inl ⟨(Option.some.inj h).symm, rfl⟩
  · split at h
    · exact .inr (.inl (Option.some.inj h).symm)
    · cases h
  · cases h
  · exact .inr (.inl (Option.some.inj h).symm)
  · rename_i e
    split at h
    · rename_i haccepted
      exact .inr (.inr (.inr (.inl ⟨e, rfl, rfl, haccepted, (Option.some.inj h).symm⟩)))
    · exact .inr (.inr (.inl (Option.some.inj h).symm))
  · rename_i id g
    split at h
    · rename_i haccepted
      exact .inr (.inr (.inr (.inr ⟨g, id, rfl, rfl, haccepted.1, haccepted.2,
        (Option.some.inj h).symm⟩)))
    · exact .inr (.inr (.inl (Option.some.inj h).symm))
  · exact .inr (.inr (.inl (Option.some.inj h).symm))

/-- One event keeps what its stage says. -/
theorem Stage.Recorded.step {s s' : Stage} {o : SpineOp} {r : o.Reply} (h : s.Recorded t)
    (hnext : Stage.next spine capabilityId payload s o r = some s') :
    s'.Recorded (t ++ [⟨o, r⟩]) := by
  have heffect : ∀ {id}, EffectAccepted t id → EffectAccepted (t ++ [⟨o, r⟩]) id := by
    rintro id ⟨e, he, hrest⟩
    exact ⟨e, List.mem_append_left _ he, hrest⟩
  have hgate : ∀ {id}, GateAccepted t id → GateAccepted (t ++ [⟨o, r⟩]) id := by
    rintro id ⟨g, hg, hrest⟩
    exact ⟨g, List.mem_append_left _ hg, hrest⟩
  have hfault : NoFault t → appendFault o r = none → NoFault (t ++ [⟨o, r⟩]) := by
    intro ht hr e he
    rcases List.mem_append.mp he with he | he
    · exact ht e he
    · obtain rfl : e = ⟨o, r⟩ := by simpa using he
      exact hr
  rcases Stage.next_cases hnext with ⟨rfl, hr⟩ | rfl | rfl | ⟨e, rfl, heq, haccepted, rfl⟩ |
    ⟨g, id, rfl, heq, haccepted, hid, rfl⟩
  · cases s' with
    | opened => exact hfault h hr
    | effectRecorded id => exact ⟨hfault h.1 hr, heffect h.2⟩
    | gateRecorded id => exact ⟨hfault h.1 hr, heffect h.2.1, hgate h.2.2⟩
    | entered => trivial
    | closed => trivial
  · trivial
  · trivial
  · have hr : appendFault o r = none := by cases heq; rfl
    exact ⟨hfault h hr, e, by simp [Appended, heq], haccepted, rfl⟩
  · have hr : appendFault o r = none := by cases heq; rfl
    exact ⟨hfault h.1 hr, heffect h.2, g, by simp [Appended, heq], haccepted, hid⟩

theorem recorded_of_advance {s s' : Stage} {t' : SpineTrace} (h : s.Recorded t)
    (hadvance : Prog.advance (Stage.next spine capabilityId payload) s t' = some s') :
    s'.Recorded (t ++ t') := by
  induction t' generalizing s t with
  | nil =>
      obtain rfl : s = s' := by simpa [Prog.advance] using hadvance
      simpa using h
  | cons e t' ih =>
      rw [Prog.advance, Option.bind_eq_some_iff] at hadvance
      obtain ⟨s₁, hnext, hrest⟩ := hadvance
      simpa using ih (h.step hnext) hrest

/-- MAIN: **the spine never enters an executor without a recorded grant.** In every run of
`PhiOSSpine.run`, whatever its ledgers and its handler answer and wherever it is cut, an entry of
the executor registry is for the capability and payload of the run, the effect boundary allows
that capability and the gate grants every permission it requests, and the accepted effect receipt
and the accepted gate receipt of one packet are in the Mandala ledger already. A run that is
blocked at either boundary never enters, and neither does a run after an append of it raised.
SOURCE: runtime.py:454-616 -/
theorem executor_entered_with_recorded_grant {q : SpineProg ExecutionReceipt}
    (hrun : Prog.Steps (spine.run capabilityId payload provenance) t q) :
    (∀ t₁ c p r t₂, t = t₁ ++ ⟨.execute c p, r⟩ :: t₂ →
      Granted spine capabilityId payload c p ∧
        ∃ id, EffectAccepted t₁ id ∧ GateAccepted t₁ id) ∧
    ((∀ c p, ¬ Granted spine capabilityId payload c p) → ∀ c p r, ⟨.execute c p, r⟩ ∉ t) ∧
    (∀ t₁ o r t₂, t = t₁ ++ ⟨o, r⟩ :: t₂ → appendFault o r ≠ none →
      ∀ c p r', ⟨.execute c p, r'⟩ ∉ t₂) := by
  obtain ⟨s, hadvance, -⟩ := (obeys_run (F := fun _ => True)).steps hrun
    (fun _ _ _ _ _ => trivial)
  -- the stage before an entry, and what it says of the events up to there
  have hentry : ∀ t₁ c p r t₂, t = t₁ ++ ⟨.execute c p, r⟩ :: t₂ →
      Granted spine capabilityId payload c p ∧ NoFault t₁ ∧
        ∃ id, EffectAccepted t₁ id ∧ GateAccepted t₁ id := by
    intro t₁ c p r t₂ heq
    rw [heq, Prog.advance_append, Option.bind_eq_some_iff] at hadvance
    obtain ⟨s₁, hs₁, hrest⟩ := hadvance
    rw [Prog.advance, Option.bind_eq_some_iff] at hrest
    obtain ⟨s₂, hnext, -⟩ := hrest
    obtain ⟨⟨id, rfl⟩, hgranted, -⟩ := Stage.next_execute hnext
    have hrec : (Stage.gateRecorded id).Recorded ([] ++ t₁) :=
      recorded_of_advance (s := .opened) (t := []) (by simp [Stage.Recorded, NoFault]) hs₁
    rw [List.nil_append] at hrec
    exact ⟨hgranted, hrec.1, id, hrec.2⟩
  refine ⟨fun t₁ c p r t₂ heq => ?_, fun hno c p r hmem => ?_, ?_⟩
  · obtain ⟨hgranted, -, hrec⟩ := hentry t₁ c p r t₂ heq
    exact ⟨hgranted, hrec⟩
  · obtain ⟨t₁, t₂, heq⟩ := List.append_of_mem hmem
    exact hno c p (hentry t₁ c p r t₂ heq).1
  · intro t₁ o r t₂ heq hfault c p r' hmem
    obtain ⟨t₃, t₄, rfl⟩ := List.append_of_mem hmem
    have hsplit : t = (t₁ ++ ⟨o, r⟩ :: t₃) ++ ⟨.execute c p, r'⟩ :: t₄ := by simp [heq]
    exact hfault ((hentry _ c p r' t₄ hsplit).2.1 ⟨o, r⟩ (by simp))

/-! ### The built-in capability -/

/-- The capability every spine registers. -/
def textArtifact : Capability where
  id := "commons.text_artifact"
  name := "Text Artifact"
  description := "Write user-supplied text into the PhiOS artifact store."
  permissions := ["artifact.write"]
  effects := ["filesystem.change"]
  risk := "low"

/-- A spine that may write artifacts. Its digests are a fixed text. -/
def textSpine : PhiOSSpine where
  registry := ⟨fun id => if id = "commons.text_artifact" then some textArtifact else none⟩
  effectPolicy := ⟨"policy"⟩
  gate := ⟨["artifact.write"]⟩
  executors := ⟨fun id => if id = "commons.text_artifact" then some ["filesystem.change"] else none⟩
  taskId := "task"
  authority := ⟨["artifact.write"], ["artifact.write"]⟩
  digests := ⟨fun _ => .ok "digest", fun _ => .ok "digest"⟩

def textPayload : Json := .obj [("text", .str "hello"), ("name", .str "greeting")]

/-- Everything succeeds. -/
def answerWell (n : ℕ) : (o : SpineOp) → o.Reply
  | .uuid4 => "id-" ++ toString n
  | .now => "2026-01-01T00:00:00+00:00"
  | .mandalaAppend _ => AppendReply.stored
  | .ledgerAppend _ => AppendReply.stored
  | .execute _ _ => .ok ⟨"artifacts/greeting.txt", "artifact-digest"⟩

/-- The events of the run in which everything succeeds. -/
def textTrace : SpineTrace :=
  ((textSpine.run "commons.text_artifact" textPayload none).eval answerWell 0).1

theorem executor_entered_with_recorded_grant_text :
    Granted textSpine "commons.text_artifact" textPayload "commons.text_artifact" textPayload ∧
      ∃ id, EffectAccepted (textTrace.take 9) id ∧ GateAccepted (textTrace.take 9) id :=
  (executor_entered_with_recorded_grant (Prog.steps_eval answerWell 0 _)).1 (textTrace.take 9)
    "commons.text_artifact" textPayload (.ok ⟨"artifacts/greeting.txt", "artifact-digest"⟩)
    (textTrace.drop 10) rfl

end PhiOS.Analysis
